import WebServer.Proofs.WebSocket.Idle
import WebServer.Proofs.WebSocket.Violations

/-!
# How much a conversation holds

A header of a frame has at most ten bytes and is judged as soon as it is complete, so that what is
no whole frame yet is at most thirteen bytes longer than the limit. What has come of a message is
kept only as long as it is within the limit, and so is every message that the handler is called
with. `takeFrames_steps` says so of a whole window, whatever the handler does.
-/
namespace WebServer

theorem Bytes.length_lt_of_splitExactly? {size : Nat} {bytes : Bytes}
    (short : splitExactly? size bytes = none) : bytes.length < size := by
  rw [← Option.not_isSome_iff_eq_none, splitExactly?_isSome] at short
  exact Nat.not_le.1 short

variable {ε σ : Type}

namespace Signal

/-- The request that the application is asked to answer, or to let become a WebSocket. -/
def request? : Signal ε → Option Http.Request
  | .handled _ request _ | .asked _ request _ => some request
  | _ => none

/-- The message that the handler of the WebSocket is called with. -/
def message? : Signal ε → Option WebSocket.Message
  | .callback called =>
    match called with
    | .message message => some message
    | _ => none
  | _ => none

/-- A signal that passes no request on, and no message that is longer than that. -/
def Fits (limit : Nat) (signal : Signal ε) : Prop :=
  signal.request? = none ∧ ∀ message, signal.message? = some message → message.bytes.length ≤ limit

variable {signal : Signal ε}

theorem fits_of_silent {limit : Nat} (unasked : signal.request? = none)
    (uncalled : signal.message? = none) : signal.Fits limit := by
  refine ⟨unasked, fun message called => ?_⟩
  rw [uncalled] at called
  cases called

theorem fits_of_idle {limit : Nat} (idle : signal.IsIdle) : signal.Fits limit := by
  have unhandled := idle.1
  apply fits_of_silent
  · cases signal <;> first | rfl | cases unhandled
  · cases signal with
    | callback called => cases called <;> first | rfl | cases unhandled
    | _ => rfl

end Signal

namespace WebSocket

namespace Frame

variable {limit : Nat} {bytes rest : Bytes}

/-- Ten bytes are enough to read a header, or to refuse it. -/
theorem length_lt_of_readHeader (unread : readHeader bytes = .ok none) : bytes.length < 10 := by
  unfold readHeader at unread
  split at unread
  · rename_i first second behind
    split at unread
    · cases unread
    · split at unread
      · cases unread
      · split at unread
        · cases unread
        · have unsized := Option.map_eq_none_iff.1 (Except.ok.inj unread)
          suffices behind.length < 8 by simpa [Nat.add_assoc] using Nat.add_lt_add_right this 2
          unfold readLength? at unsized
          split at unsized
          · have := Bytes.length_lt_of_splitExactly? (Option.map_eq_none_iff.1 unsized)
            omega
          · split at unsized
            · exact Bytes.length_lt_of_splitExactly? (Option.map_eq_none_iff.1 unsized)
            · cases unsized
  · rename_i shorter
    match bytes with
    | [] | [_] => simp
    | first :: second :: behind => exact absurd rfl (shorter _ _ _)

theorem Announces.length_le {short length : Nat} {wide : Bytes}
    (announced : Announces short wide length) : wide.length ≤ 8 := by
  cases announced with
  | short small => exact Nat.zero_le 8
  | two size => omega
  | eight size => omega

theorem size_le_of_readHeader {header : Header}
    (read : readHeader bytes = .ok (some (header, rest))) : header.size ≤ 10 := by
  obtain ⟨fin, opcode, length, size⟩ := header
  obtain ⟨taken, on, -, size_eq⟩ := readHeader_eq_some_iff.1 read
  simp only at on size_eq
  cases on with
  | of legible announced =>
    have wide := announced.length_le
    simp only [List.length_cons] at size_eq ⊢
    omega

/-- What is no whole frame yet lacks a byte at least of the longest frame that is allowed. -/
theorem length_le_of_decode (unread : decode limit bytes = .ok none) :
    bytes.length ≤ limit + 13 := by
  unfold decode at unread
  obtain ⟨_ | ⟨header, behind⟩, read, later⟩ := bind_eq_ok_iff.1 unread
  · have := length_lt_of_readHeader read
    omega
  · obtain ⟨⟨⟩, checked, last⟩ := bind_eq_ok_iff.1 later
    have size := size_le_of_readHeader read
    have parts := (length_readHeader read).2
    have within := (check_eq_ok_iff.1 checked).2
    split at last
    · rename_i keyless
      have := Bytes.length_lt_of_splitExactly? keyless
      omega
    · rename_i key payload keyed
      have key := Bytes.splitExactly?_length keyed
      split at last
      · rename_i short
        have := Bytes.length_lt_of_splitExactly? short
        omega
      · cases last

/-- So much may be there: all but the mask's last byte, of a frame without a payload. -/
example : (decode 0 (0x82 :: 0xFF :: List.replicate 11 0)).toOption = some none := by
  decide +kernel

/-- A frame that is read is within the limit. -/
theorem length_payload_le {frame : Frame} {used : Nat}
    (read : decode limit bytes = .ok (some (frame, used))) : frame.payload.length ≤ limit := by
  obtain ⟨taken, rest, on, -, -⟩ := decode_eq_some_iff.1 read
  exact on.length_le

end Frame

/-- The message that a payload is read as consists of its bytes. -/
theorem Conversation.bytes_of_toMessage {opcode : Opcode} {payload : Bytes} {message : Message}
    (read : toMessage opcode payload = .ok message) : message.bytes = payload := by
  unfold toMessage at read
  split at read
  · split at read
    · cases read
    · rename_i text decoded
      obtain rfl := Except.ok.inj read
      exact Text.encode_of_decode? decoded
  · obtain rfl := Except.ok.inj read
    rfl

/-- A conversation with that limit, which holds no more of a message than that. -/
structure Paused.Within (limit : Nat) (p : Paused σ) : Prop where
  limit_eq : p.limit = limit
  assembling_le : ∀ opcode done, p.assembling = some (opcode, done) → done.length ≤ limit

namespace Conversation

/-- A conversation that went on, passed no message to its handler that is longer than that, and
holds no more. -/
structure Steps (limit : Nat) (c c' : Conversation ε σ) : Prop where
  trace : Grows (Signal.Fits limit) c.socket.channel.trace c'.socket.channel.trace
  within : c'.pause.Within limit

theorem Steps.trans {limit : Nat} {c c' c'' : Conversation ε σ} (h : c.Steps limit c')
    (h' : c'.Steps limit c'') : c.Steps limit c'' := ⟨h.trace.trans h'.trace, h'.within⟩

variable (react : React ε σ) {limit : Nat} {c : Conversation ε σ}

theorem Idles.steps {c' : Conversation ε σ} (idles : c.Idles c') (h : c.pause.Within limit) :
    c.Steps limit c' where
  trace := idles.trace.mono fun _ known => Signal.fits_of_idle known
  within := by
    refine ⟨idles.limit_eq.trans h.limit_eq, fun opcode done same => ?_⟩
    exact h.assembling_le opcode done (idles.assembling_eq.symm.trans same)

theorem steps_call (h : c.pause.Within limit) {callback : Callback}
    (fits : (Signal.callback callback : Signal ε).Fits limit) :
    c.Steps limit (c.call react callback) where
  trace := .of_cons (.callback callback) fits
    ((c.idles_call react callback).trace.mono fun _ known => Signal.fits_of_idle known)
  within := ((c.idles_call react callback).steps h).within

theorem steps_deliver (h : c.pause.Within limit) (opcode : Opcode) {payload : Bytes}
    (fits : payload.length ≤ limit) : c.Steps limit (c.deliver react opcode payload) := by
  unfold deliver
  split
  · exact (c.idles_fail react _).steps h
  · rename_i message read
    refine steps_call react h ⟨rfl, fun called same => ?_⟩
    obtain rfl := Option.some.inj same
    rwa [bytes_of_toMessage read]

/-- What is added to a message is counted before it is kept. -/
theorem steps_gather (h : c.pause.Within limit) (opcode : Opcode) (done payload : Bytes)
    (fin : Bool) : c.Steps limit (c.gather react opcode done payload fin) := by
  unfold gather
  split
  · exact (c.idles_fail react _).steps h
  · rename_i counted
    have fits : (done ++ payload).length ≤ limit := by
      rw [List.length_append, ← h.limit_eq]
      exact Nat.not_lt.1 counted
    split
    · have cleared : ({ c with assembling := none } : Conversation ε σ).pause.Within limit :=
        ⟨h.limit_eq, nofun⟩
      have delivered := steps_deliver react cleared opcode fits
      exact ⟨delivered.trace, delivered.within⟩
    · refine ⟨.refl _, h.limit_eq, fun _ _ same => ?_⟩
      obtain ⟨rfl, rfl⟩ := Prod.mk.inj (Option.some.inj same)
      exact fits

theorem steps_onFrame (h : c.pause.Within limit) {frame : Frame}
    (fits : frame.payload.length ≤ limit) : c.Steps limit (c.onFrame react frame) := by
  unfold onFrame
  split
  · exact (c.idles_fail react _).steps h
  · exact (c.idles_fail react _).steps h
  · split
    · exact steps_deliver react h _ fits
    · exact steps_gather react h _ _ _ _
  · split
    · exact steps_deliver react h _ fits
    · exact steps_gather react h _ _ _ _
  · exact (c.idles_fail react _).steps h
  · exact steps_gather react h _ _ _ _
  · split
    · exact (c.idles_fail react _).steps h
    · rename_i code reason _
      have echoed : c.Idles { c with socket := c.socket.echoClose code reason frame.payload } := by
        apply c.idles_withSocket
        unfold Socket.echoClose
        split
        · exact .refl _
        · exact c.socket.idle_beginClosing _ _ _ _
      exact (echoed.trans (idles_notifyClose react _ _ _)).steps h
  · exact steps_call react h (Signal.fits_of_silent rfl rfl)
  · have heard : c.Idles { c with socket := c.socket.pongReceived } := c.idles_withSocket (.refl _)
    have before := heard.steps h
    exact before.trans (steps_call react before.within (Signal.fits_of_silent rfl rfl))

/-- Of a window, less is left than the longest frame takes. -/
theorem takeFrames_steps (h : c.pause.Within limit) (window : Bytes) :
    c.Steps limit (c.takeFrames react window).2 ∧
      ∀ rest, (c.takeFrames react window).1 = some rest → rest.length ≤ limit + 13 := by
  induction size : window.length using Nat.strongRecOn generalizing c window with
  | ind length ih =>
    have settled : c.Steps limit (c.settle react) := (c.idles_settle react).steps h
    have limit_eq : (c.settle react).limit = limit := settled.within.limit_eq
    rw [takeFrames_eq]
    split
    · exact ⟨settled, nofun⟩
    · split
      · exact ⟨settled.trans ((idles_fail react _ _).steps settled.within), nofun⟩
      · rename_i unread
        rw [limit_eq] at unread
        refine ⟨settled, fun rest same => ?_⟩
        obtain rfl := Option.some.inj same
        exact Frame.length_le_of_decode unread
      · rename_i frame used read
        have fits := Frame.length_payload_le read
        rw [limit_eq] at fits
        have taken := settled.trans (steps_onFrame react settled.within fits)
        have takes := Frame.decode_used read
        have shorter : (window.drop used).length < length := by
          rw [List.length_drop]
          omega
        obtain ⟨further, left⟩ := ih _ shorter taken.within _ rfl
        exact ⟨taken.trans further, left⟩

end Conversation
end WebSocket
end WebServer

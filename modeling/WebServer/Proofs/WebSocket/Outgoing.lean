import WebServer.Proofs.WebSocket.Codec
import WebServer.Proofs.WebSocket.Sending

/-!
# What goes out against the rules for what comes in

A socket lets a frame through if its payload fits its kind, and makes a close frame only of a short
reason. A reader of frames asks the same of what a client sends, and one thing more: that a control
frame is whole. So a frame that is let through, masked as a client would mask it, is read as it is,
unless it is a control frame that says that more follows (`sent_frames_judged`). Only `send` itself
can be asked for such a frame, and hands it over (`fragmented_ping_sent`).
-/
namespace WebServer.WebSocket

variable {ε : Type}

/-- The frame that an action asks the socket to send, if it asks for one. -/
def Action.frame? : Action ε → Option Frame
  | .send frame _ => some frame
  | .close code reason => some ⟨true, .close, code.payload reason⟩
  | _ => none

/-- The actions that ask for a frame without saying whether more follows. -/
inductive Action.Whole : Action ε → Prop where
  | text (text : String) : Whole (.text text)
  | binary (data : Bytes) : Whole (.binary data)
  | ping (payload : Bytes) : Whole (.ping payload)
  | pong (payload : Bytes) : Whole (.pong payload)
  | close (code : CloseCode) (reason : String) : Whole (.close code reason)

theorem Action.Whole.fin {action : Action ε} (whole : action.Whole) {frame : Frame}
    (asks : action.frame? = some frame) : frame.fin = true := by
  cases whole with
  | text | binary | ping | pong | close =>
    obtain rfl := Option.some.inj asks
    rfl

/-- A control frame is short. -/
def Frame.Short (frame : Frame) : Prop :=
  frame.opcode.isControl = true → frame.payload.length ≤ controlLimit

theorem Frame.short_iff {frame : Frame} :
    frame.Short ↔ ¬ (frame.opcode.isControl && controlLimit < frame.payload.length) = true := by
  rw [Frame.Short, Bool.and_eq_true_iff, decide_eq_true_iff, not_and, Nat.not_lt]

theorem CloseCode.length_payload (code : CloseCode) (reason : String) :
    (code.payload reason).length = 2 + reason.utf8ByteSize := by
  rw [payload, List.length_append, Bytes.length_ofNatBE]
  rfl

/-- A frame has been handed over: no other is new, and its bytes are the next that were written. -/
structure Socket.HandedOver (s : Socket ε) (frame : Frame) (s' : Socket ε) : Prop where
  frames : framesIn s'.channel.trace = framesIn s.channel.trace ++ [frame]
  wrote : ∃ earlier, s.channel.trace <:+ earlier ∧
    (.wrote frame.encode :: .framed frame :: earlier) <:+ s'.channel.trace

theorem Socket.handedOver_handOver {s : Socket ε} (opened : s.channel.isOpen = true) (frame : Frame)
    (after : Completion ε) : s.HandedOver frame (s.handOver frame after) where
  frames := s.framesIn_handOver frame after
  wrote := by
    have recorded : (s.channel.record (.framed frame)).isOpen = true := opened
    exact ⟨s.channel.trace, List.suffix_refl _, Channel.wrote_suffix recorded frame.encode after⟩

theorem Socket.handedOver_beginClosing {s : Socket ε} (opened : s.channel.isOpen = true)
    (origin : Origin) (code : CloseCode) (reason : String) (payload : Bytes) :
    s.HandedOver ⟨true, .close, payload⟩ (s.beginClosing origin code reason payload) where
  frames := s.framesIn_beginClosing origin code reason payload
  wrote := by
    let closing := (s.channel.record (.closing origin code reason)).record
      (.framed ⟨true, .close, payload⟩)
    have recorded : closing.isOpen = true := opened
    exact ⟨.closing origin code reason :: s.channel.trace, List.suffix_cons _ _,
      Channel.wrote_suffix recorded (Frame.encode ⟨true, .close, payload⟩) (.close .done)⟩

/-- What is done on an open socket is handed over, and it is not too long for its kind. -/
theorem Socket.handedOver_perform {s : Socket ε} (opened : s.isOpen = true) {action : Action ε}
    {frame : Frame} (asks : action.frame? = some frame) (done : (s.perform action).1 = .done) :
    s.HandedOver frame (s.perform action).2 ∧ frame.Short := by
  obtain ⟨going, isOpen⟩ := Bool.and_eq_true_iff.1 opened
  have going : ¬ s.session.closing = true := by simpa using going
  cases action with
  | send sent after =>
    obtain rfl := Option.some.inj asks
    simp only [perform, send] at done ⊢
    split at done
    · cases done
    · rename_i fits
      rw [if_neg fits, if_neg going]
      exact ⟨handedOver_handOver isOpen sent after, Frame.short_iff.2 fits⟩
  | close code reason =>
    obtain rfl := Option.some.inj asks
    simp only [perform, close] at done ⊢
    split at done
    · cases done
    · rename_i fits
      rw [if_neg fits, if_neg going]
      refine ⟨handedOver_beginClosing isOpen .here code reason _, fun _ => ?_⟩
      simp only [CloseCode.length_payload]
      simp only [reasonLimit, controlLimit] at fits ⊢
      omega
  | setAutoPing | cancelAutoPing | write | closeConnection | isOpen | stats => cases asks

/-- Of a short frame within the limit the only thing to object to is that more follows. -/
theorem Frame.Short.check {frame : Frame} (short : frame.Short) {limit : Nat}
    (within : frame.payload.length ≤ limit) :
    frame.header.check limit =
      if frame.opcode.isControl && !frame.fin then .error .fragmentedControl else .ok () := by
  unfold Frame.header Frame.Header.check
  simp only
  split
  · rfl
  · rw [if_neg (Frame.short_iff.1 short), if_neg (Nat.not_lt.2 within)]

/-- A frame that an open socket has let through is handed over, and it comes back as it is from
what a client would make of it, unless it is a control frame behind which more is to follow. The
actions that do not say so never ask for such a frame. -/
theorem sent_frames_judged {s : Socket ε} (opened : s.isOpen = true) {action : Action ε}
    {frame : Frame} (asks : action.frame? = some frame) (done : (s.perform action).1 = .done) :
    s.HandedOver frame (s.perform action).2 ∧
      (∀ key limit, key.length = 4 → frame.payload.length ≤ limit →
        frame.payload.length < 2 ^ 64 → ∀ rest,
          Frame.decode limit (frame.encodeMasked key ++ rest) =
            if frame.opcode.isControl && !frame.fin then .error .fragmentedControl
            else .ok (some (frame, (frame.encodeMasked key).length))) ∧
      (action.Whole → frame.Lawful) := by
  obtain ⟨handedOver, short⟩ := Socket.handedOver_perform opened asks done
  refine ⟨handedOver, ?_, fun whole control => ⟨whole.fin asks, short control⟩⟩
  intro key limit four within fits rest
  rw [Frame.decode_written frame fits limit four, short.check within]
  split <;> rfl

/-- The longest reason there can be, of characters of three bytes each. -/
theorem longest_reason_accepted :
    let s : Socket Unit := { channel := {} }
    let reason := String.ofList (List.replicate 41 '€')
    let frame : Frame := ⟨true, .close, CloseCode.payload .goingAway reason⟩
    s.HandedOver frame (s.perform (.close .goingAway reason)).2 ∧
      Frame.decode 125 (frame.encodeMasked [1, 2, 3, 4] ++ []) = .ok (some (frame, 131)) := by
  intro s reason frame
  have size : (frame.encodeMasked [1, 2, 3, 4]).length = 131 := by decide +kernel
  obtain ⟨handedOver, reads, -⟩ := @sent_frames_judged Unit s rfl (.close .goingAway reason) frame
    rfl (by decide +kernel)
  have read := reads [1, 2, 3, 4] 125 rfl (by decide +kernel) (by decide +kernel) []
  rw [size] at read
  exact ⟨handedOver, read⟩

/-- A ping that says that more follows is handed over, and no limit lets it through where it comes
in. -/
theorem fragmented_ping_sent :
    let s : Socket Unit := { channel := {} }
    let frame : Frame := ⟨false, .ping, []⟩
    let after := (s.perform (.send frame .done)).2
    s.isOpen = true ∧ (s.perform (.send frame .done)).1 = .done ∧
      framesIn after.channel.trace = [frame] ∧ writtenIn after.channel.trace = [0x09, 0x00] ∧
      ∀ limit, Frame.decode limit (frame.encodeMasked [1, 2, 3, 4]) =
        .error .fragmentedControl := by
  intro s frame after
  have fresh : (s.channel.record (.framed frame)).Plain :=
    (Channel.Plain.fresh {}).record rfl rfl rfl
  have silent : (Completion.done : Completion Unit).Silent := trivial
  have bytes : frame.encode = [0x09, 0x00] := by decide
  refine ⟨rfl, rfl, s.framesIn_handOver frame .done, ?_, fun limit => ?_⟩
  · rw [← bytes]
    exact (fresh.writeThen frame.encode silent).2
  · rw [← List.append_nil (frame.encodeMasked _), Frame.decode_written frame (by decide) limit rfl]
    rfl

end WebServer.WebSocket

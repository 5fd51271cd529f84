import WebServer.Proofs.Stream.Calm
import WebServer.Proofs.WebSocket.Life
import WebServer.Proofs.WebSocket.Reasons

/-!
# Heeding the peer's close frame

A WebSocket that is shown a window with a close frame in it closes: it answers the frame, unless
this side closes before it comes to it, because of a fault in front of it or by itself
(`closes_of_closeFrame`). So as long as nobody began to close, no close frame that can be read was
in the windows that the WebSocket was shown.
-/
namespace WebServer.WebSocket

variable {ε σ : Type}

/-- Under another limit the same frame is read, or there is a fault. -/
theorem Frame.decode_of_decode {limit used : Nat} {window : Bytes} {frame : Frame}
    (decoded : decode limit window = .ok (some (frame, used))) (other : Nat) :
    decode other window = .ok (some (frame, used)) ∨
      ∃ fault, decode other window = .error fault := by
  unfold decode at decoded ⊢
  cases read : readHeader window with
  | error fault => exact .inr ⟨fault, rfl⟩
  | ok found =>
    cases found with
    | none =>
      rw [read] at decoded
      cases decoded
    | some found =>
      obtain ⟨header, rest⟩ := found
      simp only [read, bind, Except.bind] at decoded ⊢
      cases checked : header.check other with
      | error fault => exact .inr ⟨fault, rfl⟩
      | ok =>
        cases before : header.check limit with
        | error fault =>
          rw [before] at decoded
          cases decoded
        | ok =>
          rw [before] at decoded
          exact .inl decoded

/-- If the socket is closing, or is known to have begun, the trace tells how it began. -/
def Socket.Attested (begun : Prop) (s : Socket ε) : Prop :=
  begun ∨ s.session.closing = true → closingsIn s.channel.trace ≠ []

namespace Socket

variable {begun : Prop} {s s' : Socket ε}

theorem Attested.of_same (h : s.Attested begun)
    (closing : s'.session.closing = s.session.closing)
    (closings : closingsIn s'.channel.trace = closingsIn s.channel.trace) : s'.Attested begun := by
  unfold Attested
  rw [closing, closings]
  exact h

theorem attested_beginClosing (s : Socket ε) (origin : Origin) (code : CloseCode)
    (reason : String) (payload : Bytes) :
    (s.beginClosing origin code reason payload).Attested begun := by
  intro _ none
  rw [(s.aside_beginClosing origin code reason payload).closings_eq, closingsIn, seenIn_cons]
    at none
  exact List.cons_ne_nil _ _ (List.append_eq_nil_iff.1 none).2

/-- A conversation leaves no closing untold. -/
theorem Congruence.attested (begun : Prop) :
    Socket.Congruence (fun _ : Action ε => True) fun s s' => s = s' ∧ s.Attested begun where
  session_eq := fun ⟨same, _⟩ => congrArg Socket.session same
  now_eq := fun ⟨same, _⟩ => congrArg Socket.now same
  isOpen_eq := fun ⟨same, _⟩ => congrArg Socket.isOpen same
  note := fun _ ⟨same, h⟩ =>
    ⟨same ▸ rfl, h.of_same rfl ((seenIn_cons _ _).trans (List.append_nil _))⟩
  callback := fun _ ⟨same, h⟩ =>
    ⟨same ▸ rfl, h.of_same rfl ((seenIn_cons _ _).trans (List.append_nil _))⟩
  keepalive := fun _ ⟨same, h⟩ => ⟨same ▸ rfl, h.of_same rfl rfl⟩
  send := fun frame after _ ⟨same, h⟩ _ =>
    ⟨same ▸ rfl, h.of_same rfl (aside_handOver _ frame after).closings_eq⟩
  beginClosing := fun origin code reason payload ⟨same, _⟩ _ =>
    ⟨same ▸ rfl, attested_beginClosing _ origin code reason payload⟩
  takeNotice := fun ⟨same, h⟩ closing => ⟨same ▸ rfl, fun _ => h (.inr closing)⟩
  write := fun _ _ _ ⟨same, h⟩ =>
    ⟨same ▸ rfl, h.of_same rfl (Aside.of_extends (Channel.run_extends _ _)).closings_eq⟩
  closeConnection := fun _ ⟨same, h⟩ =>
    ⟨same ▸ rfl, h.of_same rfl (Aside.of_extends (Channel.run_extends _ _)).closings_eq⟩

end Socket

namespace Conversation

variable {begun : Prop} {react : React ε σ} {c : Conversation ε σ}

theorem related_attested (h : c.socket.Attested begun) :
    c.Related (fun s s' => s = s' ∧ s.Attested begun) c := .mk ⟨rfl, h⟩

theorem attested_settle (h : c.socket.Attested begun) : (c.settle react).socket.Attested begun :=
  ((related_attested h).settle (.attested begun) react.within_true).socket.2

theorem attested_onFrame (h : c.socket.Attested begun) (frame : Frame) :
    (c.onFrame react frame).socket.Attested begun :=
  ((related_attested h).onFrame (.attested begun) react.within_true frame).socket.2

/-- What has begun is told of behind all that a conversation does. -/
theorem closings_takeFrames (h : c.socket.Attested True) (window : Bytes) :
    closingsIn (c.takeFrames react window).2.socket.channel.trace ≠ [] :=
  ((related_attested h).takeFrames (.attested True) react.within_true window).2.socket.2
    (.inl trivial)

/-- A fault of a frame closes. -/
theorem closings_fail (react : React ε σ) (h : c.socket.Attested False) {violation : Violation}
    (fits : violation.reason.utf8ByteSize ≤ reasonLimit) :
    closingsIn (c.fail react violation).socket.channel.trace ≠ [] := by
  have closed : (c.close violation.code violation.reason).socket.Attested False :=
    ((related_attested h).close (.attested False) _ _).socket.2
  have begun : (c.close violation.code violation.reason).socket.Attested True :=
    fun _ => closed (.inr (closing_close c fits))
  exact attested_settle begun (.inl trivial)

/-- A close frame that can be read is answered. -/
theorem closings_onFrame (react : React ε σ) (opened : c.socket.session.closing = false)
    {frame : Frame} (close : frame.opcode = .close) {code : CloseCode} {reason : String}
    (read : CloseCode.ofPayload? frame.payload = some (code, reason)) :
    (c.onFrame react frame).socket.Attested True := by
  have answered : (c.socket.echoClose code reason frame.payload).Attested True := by
    rw [Socket.echoClose_of_open opened]
    exact c.socket.attested_beginClosing _ _ _ _
  have related := related_attested
    (c := { c with socket := c.socket.echoClose code reason frame.payload }) answered
  have told := related.notifyClose (.attested True) react.within_true code reason
  have taken : c.onFrame react frame = notifyClose react
      { c with socket := c.socket.echoClose code reason frame.payload } code reason := by
    simp only [onFrame, close, read]
  rw [taken]
  exact told.socket.2

/-- A conversation comes to the front frame of its window, or closes before. -/
theorem takeFrames_front (react : React ε σ) (h : c.socket.Attested False) {limit used : Nat}
    {window : Bytes} {frame : Frame}
    (decoded : Frame.decode limit window = .ok (some (frame, used))) :
    closingsIn (c.takeFrames react window).2.socket.channel.trace ≠ [] ∨
      ∃ next : Conversation ε σ, next.socket.Attested False ∧
        next.socket.session.closing = false ∧ c.takeFrames react window =
          (next.onFrame react frame).takeFrames react (window.drop used) := by
  have settled : (c.settle react).socket.Attested False := attested_settle h
  rw [takeFrames_eq]
  cases closing : (c.settle react).socket.session.closing with
  | true =>
    rw [if_pos rfl]
    exact .inl (settled (.inr closing))
  | false =>
    rw [if_neg Bool.false_ne_true]
    rcases Frame.decode_of_decode decoded (c.settle react).limit with same | ⟨fault, refused⟩
    · rw [same]
      exact .inr ⟨c.settle react, settled, closing, rfl⟩
    · rw [refused]
      exact .inl (closings_fail react settled (message_le_of_decode refused))

/-- Whoever is shown a close frame that can be read, closes, or is closing already. -/
theorem closes_of_closeFrame (react : React ε σ) {window : Bytes} {frame : Frame}
    (held : FrameIn frame window) (close : frame.opcode = .close) {code : CloseCode}
    {reason : String} (read : CloseCode.ofPayload? frame.payload = some (code, reason))
    (h : c.socket.Attested False) :
    closingsIn (c.takeFrames react window).2.socket.channel.trace ≠ [] := by
  induction held generalizing c with
  | first decoded =>
    rcases takeFrames_front react h decoded with closed | ⟨next, -, opened, taken⟩
    · exact closed
    · rw [taken]
      exact closings_takeFrames (closings_onFrame react opened close read) _
  | behind decoded later ih =>
    rcases takeFrames_front react h decoded with closed | ⟨next, attested, -, taken⟩
    · exact closed
    · rw [taken]
      exact ih (attested_onFrame attested _)

end Conversation
end WebServer.WebSocket

import WebServer.Proofs.Connection.CloseFrame
import WebServer.Proofs.WebSocket.Codec

/-!
# Reserved close codes

The codes 1005 and 1006 tell a handler that a close frame had no code, or that there was none. No
close frame is to carry them, and the server never closes with one of them by itself. But it does
not look at the code that an application closes with, nor at the one in the close frame of a peer,
which it sends back as it came. `reserved_codes_on_demand` says so: a close frame carries a reserved
code if and only if somebody asked for that.
-/
namespace WebServer

open WebSocket (Action Came CloseCode Frame Move React Scope Standing)

variable {ε : Type} {app : App}

namespace WebSocket

/-- A close frame with that code, whatever reason stands behind it. -/
def Frame.Carries (frame : Frame) (code : UInt16) : Prop :=
  frame.opcode = .close ∧ ∃ reason, frame.payload = Bytes.ofNatBE 2 code.toNat ++ reason

/-- The codes that are told to handlers only. -/
def IsReserved (code : UInt16) : Prop := code = 1005 ∨ code = 1006

/-- A close frame that is made of a code carries that code and no other. -/
theorem carries_payload_iff {fin : Bool} {closeCode : CloseCode} {reason : String}
    {code : UInt16} :
    (⟨fin, .close, closeCode.payload reason⟩ : Frame).Carries code ↔ closeCode.code = code := by
  constructor
  · rintro ⟨-, other, same⟩
    have lengths : (Bytes.ofNatBE 2 closeCode.code.toNat).length =
        (Bytes.ofNatBE 2 code.toNat).length := by
      rw [Bytes.length_ofNatBE, Bytes.length_ofNatBE]
    have numbers := congrArg Bytes.toNatBE (List.append_inj same lengths).1
    rw [Bytes.toNatBE_ofNatBE closeCode.code.toNat_lt, Bytes.toNatBE_ofNatBE code.toNat_lt]
      at numbers
    exact UInt16.toNat_inj.1 numbers
  · rintro rfl
    exact ⟨rfl, Text.encode reason, rfl⟩

theorem OwnClose.unreserved {closeCode : CloseCode} {reason : String}
    (own : OwnClose closeCode reason) : ¬ IsReserved closeCode.code := by
  cases own with
  | fault violation =>
    rcases violation with fault | _ | _ | _ | _
    · cases fault <;> simp [IsReserved, Violation.code, FrameFault.closeCode, CloseCode.code]
    all_goals simp [IsReserved, Violation.code, CloseCode.code]
  | panic | missedPong => simp [IsReserved, CloseCode.code]

/-- An action that asks for no close frame with a reserved code. -/
def Action.Spares : Action ε → Prop
  | .close closeCode _ => ¬ IsReserved closeCode.code
  | .send frame _ => ∀ code, frame.Carries code → ¬ IsReserved code
  | _ => True

/-- Applications that ask for no close frames with reserved codes. -/
def Scope.sparing : Scope ε where
  acts := Action.Spares

/-- Close frames with reserved codes are those that came from the peer. -/
def Unreserved (trace : List (Signal ε)) : Prop :=
  ∀ frame ∈ framesIn trace, ∀ code, frame.Carries code → IsReserved code → Came trace frame.payload

namespace Unreserved

variable {trace trace' : List (Signal ε)}

theorem grow (h : Unreserved trace) (frames : framesIn trace' = framesIn trace)
    (grown : trace <:+ trace') : Unreserved trace' := by
  intro frame member code carries reserved
  rw [frames] at member
  exact (h frame member code carries reserved).of_suffix grown

/-- One more frame is handed over. -/
theorem frame (h : Unreserved trace) {frame : Frame}
    (frames : framesIn trace' = framesIn trace ++ [frame]) (grown : trace <:+ trace')
    (last : ∀ code, frame.Carries code → IsReserved code → Came trace' frame.payload) :
    Unreserved trace' := by
  intro other member code carries reserved
  rw [frames] at member
  rcases List.mem_append.1 member with earlier | final
  · exact (h other earlier code carries reserved).of_suffix grown
  · rw [List.mem_singleton.1 final] at carries ⊢
    exact last code carries reserved

/-- This side closes with a code that is not reserved. -/
theorem close {s : Socket ε} (h : Unreserved s.channel.trace) {closeCode : CloseCode}
    (unreserved : ¬ IsReserved closeCode.code) (reason : String) :
    Unreserved (s.perform (.close closeCode reason)).2.channel.trace := by
  rcases s.perform_close closeCode reason with same | ⟨-, begins⟩
  · rwa [same]
  · rw [begins]
    refine h.frame (s.framesIn_beginClosing _ _ _ _) (s.grows_beginClosing _ _ _ _) ?_
    intro code carries reserved
    rw [← carries_payload_iff.1 carries] at reserved
    exact absurd reserved unreserved

theorem perform {s : Socket ε} (h : Unreserved s.channel.trace) {action : Action ε}
    (spares : action.Spares) : Unreserved (s.perform action).2.channel.trace := by
  cases action with
  | send frame after =>
    simp only [Socket.perform, Socket.send]
    split
    · exact h
    · split
      · exact h
      · exact h.frame (s.framesIn_handOver frame after) (s.grows_handOver frame after)
          fun code carries reserved => absurd reserved (spares code carries)
  | close closeCode reason => exact h.close spares reason
  | setAutoPing interval timeout =>
    simp only [Socket.perform, Socket.setAutoPing]
    split
    · exact h
    · split <;> exact h
  | write | closeConnection => exact h.grow (framesIn_run _ _) (Channel.run_extends _ _).suffix
  | cancelAutoPing | isOpen | stats => exact h

end Unreserved

/-- Each move adds frames with reserved codes only if the peer sent such a one. -/
theorem Move.unreserved {st st' : Standing ε} (move : Move .sparing st st')
    (h : Unreserved st.socket.channel.trace) : Unreserved st'.socket.channel.trace := by
  have grown := move.grows
  cases move with
  | work => exact h.grow (framesIn_run _ _) grown
  | wire | clock | silence => exact h
  | occasion signal occasion =>
    cases signal with
    | window | timer | peerClosed | tornDown =>
      exact h.grow ((seenIn_cons _ _).trans (List.append_nil _)) grown
    | _ => cases occasion
  | note | hear | pong | tell => exact h.grow ((seenIn_cons _ _).trans (List.append_nil _)) grown
  | act action spares => exact h.perform spares
  | close code reason own => exact h.close own.unreserved reason
  | tick => rwa [Socket.tick_eq]
  | @answer s code reason payload opened read came =>
    rw [Socket.echoClose_of_open opened] at grown ⊢
    have frames : framesIn ((s.beginClosing .peer code reason payload).record
        (.callback (.closed code reason))).channel.trace =
        framesIn s.channel.trace ++ [⟨true, .close, payload⟩] :=
      ((seenIn_cons _ _).trans (List.append_nil _)).trans (s.framesIn_beginClosing _ _ _ _)
    exact h.frame frames grown fun _ _ _ => came.of_suffix grown

end WebSocket

open WebSocket (IsReserved Unreserved)

/-- No frames, or none with a reserved code but those of the peer. -/
def unreserved (app : App) : Regime app where
  scope := .sparing
  served host := framesIn host.channel.trace = []
  talking st := st.Honest ∧ Unreserved st.socket.channel.trace

theorem unreserved_sound (spares : React.Within Action.Spares app.react) :
    (unreserved app).Sound where
  react := spares
  ping := by
    rintro code ⟨never, -⟩
    cases never
  timer _ := trivial
  flush := trivial
  close := trivial
  serves := fun _ _ step none => step.framesIn_eq.trans none
  begins := by
    intro host none
    have still : framesIn host.greeting.socket.channel.trace = [] :=
      ((seenIn_cons _ _).trans (List.append_nil _)).trans none
    exact ⟨nofun, by simp [Unreserved, still]⟩
  moves := fun _ _ move h => ⟨move.honest h.1, move.unreserved h.2⟩
  honest := fun _ h => h.1

/-- Once the socket is closing, telling the handler hands over no frame. -/
theorem WebSocket.Conversation.framesIn_notifyClose {σ : Type} (react : React ε σ)
    (c : WebSocket.Conversation ε σ) (closing : c.socket.session.closing = true)
    (code : CloseCode) (reason : String) :
    framesIn (c.notifyClose react code reason).socket.channel.trace =
      framesIn c.socket.channel.trace := by
  unfold notifyClose
  split
  · rfl
  · have within : react.Within ({} : Scope ε).acts := react.within_true
    have told := call_moves within { c with closeNotified := true } (.closed code reason)
    refine (told.preserve (P := fun st => st.socket.session.closing = true ∧
      framesIn st.socket.channel.trace = framesIn c.socket.channel.trace) ?_ ⟨closing, ?_⟩).2
    · exact fun _ _ move same => ⟨move.closing same.1, (move.silenced same.1).trans same.2⟩
    · exact (seenIn_cons _ _).trans (List.append_nil _)

/-- The close frame of a peer is sent back as it came, and no other frame behind it. -/
theorem WebSocket.Conversation.framesIn_onFrame {σ : Type} (react : React ε σ)
    (c : WebSocket.Conversation ε σ) (opened : c.socket.session.closing = false) {frame : Frame}
    {code : UInt16} (carries : frame.Carries code) :
    framesIn (c.onFrame react frame).socket.channel.trace =
      framesIn c.socket.channel.trace ++ [⟨true, .close, frame.payload⟩] := by
  obtain ⟨fin, opcode, payload⟩ := frame
  obtain ⟨rfl, rest, rfl⟩ := carries
  -- A payload of two bytes or more is never refused.
  generalize read : CloseCode.ofPayload? (Bytes.ofNatBE 2 code.toNat ++ rest) = result
  obtain _ | ⟨closeCode, reason⟩ := result
  · cases read
  · let echoed : WebSocket.Conversation ε σ := { c with
      socket := c.socket.beginClosing .peer closeCode reason (Bytes.ofNatBE 2 code.toNat ++ rest) }
    have taken : c.onFrame react ⟨fin, .close, Bytes.ofNatBE 2 code.toNat ++ rest⟩ =
        echoed.notifyClose react closeCode reason := by
      unfold onFrame
      simp only [read, WebSocket.Socket.echoClose_of_open opened]
      rfl
    rw [taken, framesIn_notifyClose react echoed rfl]
    exact c.socket.framesIn_beginClosing _ _ _ _

namespace Connection

/-- Whatever happens to a connection of a server, a close frame with a reserved code is not of the
server's own making: if the application asks for none, then the payload of each one that is handed
over came from the peer. But if the application closes with such a code, or if the peer does, then
such a frame is handed over. -/
theorem reserved_codes_on_demand (config : Config) (wire : Wire) (tables : app.Tables)
    (now chunk : Nat) (incidents : List (Incident app)) :
    let c := (fresh wire tables now chunk).meetAll config incidents
    (React.Within Action.Spares app.react →
      (∀ incident ∈ incidents, Incident.Within .sparing incident) →
      ∀ frame ∈ framesIn c.host.channel.trace, ∀ code, frame.Carries code → IsReserved code →
        Came c.host.channel.trace frame.payload) ∧
    ∀ conversation, c.protocol = .webSocket conversation →
      conversation.session.closing = false →
      (∀ code reason, reason.utf8ByteSize ≤ WebSocket.reasonLimit →
        ∃ close : Frame, close.Carries (CloseCode.code code) ∧
          framesIn (c.meet config (.act (.close code reason))).host.channel.trace =
            framesIn c.host.channel.trace ++ [close]) ∧
      ∀ (frame : Frame) code, frame.Carries code →
        ∃ close : Frame, close.Carries code ∧
          framesIn ((conversation.resume c.host.channel c.host.now).onFrame app.react
            frame).socket.channel.trace = framesIn c.host.channel.trace ++ [close] := by
  intro c
  refine ⟨fun spares within => ?_, fun conversation active opened => ⟨?_, ?_⟩⟩
  · have fresh : (fresh wire tables now chunk).Has (unreserved app).Holds := rfl
    have holds := (unreserved_sound spares).meetAll config fresh within
    change c.Has (unreserved app).Holds at holds
    unfold Has at holds
    cases active : c.protocol with
    | http pending =>
      rw [active] at holds
      have none : framesIn c.host.channel.trace = [] := holds
      simp [none]
    | webSocket conversation =>
      rw [active] at holds
      exact holds.2
  · intro code reason fits
    let socket := (conversation.resume c.host.channel c.host.now).socket
    have closes : (socket.perform (.close code reason)).2 =
        socket.beginClosing .here code reason (code.payload reason) := by
      have still : ¬ socket.session.closing = true := Bool.eq_false_iff.1 opened
      simp only [WebSocket.Socket.perform, WebSocket.Socket.close]
      rw [if_neg (Nat.not_lt.2 fits), if_neg still]
      rfl
    refine ⟨⟨true, .close, code.payload reason⟩, WebSocket.carries_payload_iff.2 rfl, ?_⟩
    have acts : (c.meet config (.act (.close code reason))).host.channel =
        (socket.perform (.close code reason)).2.channel := by
      simp only [meet, Active.act, active]
      rfl
    rw [acts, closes]
    exact socket.framesIn_beginClosing _ _ _ _
  · intro frame code carries
    exact ⟨⟨true, .close, frame.payload⟩, ⟨rfl, carries.2⟩,
      WebSocket.Conversation.framesIn_onFrame app.react
        (conversation.resume c.host.channel c.host.now) opened carries⟩

/-- The polite application closes with a code that is not reserved. -/
theorem politeApp_spares : React.Within Action.Spares politeApp.react := by
  have noClose (frame : Frame) (other : frame.opcode ≠ .close) (after : Completion Unit) :
      (Action.send frame after).Spares := fun _ carries => absurd carries.1 other
  rintro ⟨⟩ (_ | _ | payload | _ | _)
  · exact ⟨noClose _ (by simp) _, fun _ => trivial⟩
  · exact ⟨by simp [Action.Spares, IsReserved, CloseCode.code], fun _ => trivial⟩
  · exact ⟨noClose _ (by simp) _, fun _ => trivial⟩
  · exact trivial
  · exact trivial

/-- A peer upgrades its connection to the polite application and closes with the code 1006. Only
the answer to that may carry a reserved code. -/
theorem polite_without_reserved_codes :
    let upgrade := Text.encode ("GET /chat HTTP/1.1\r\nUpgrade: websocket\r\n" ++
      "Connection: Upgrade\r\nSec-WebSocket-Key: dGhlIHNhbXBsZSBub25jZQ==\r\n" ++
      "Sec-WebSocket-Version: 13\r\n\r\n")
    let tables : politeApp.Tables := { socketRoutes := [⟨0, "/chat", fun _ => some [], ()⟩] }
    let incidents : List (Incident politeApp) :=
      [.source { arrived := upgrade }, .ready { readable := true }, .act (.text "more"),
        .source { arrived := [0x88, 0x82, 0, 0, 0, 0, 3, 238] }, .ready { readable := true }]
    let c := (fresh {} tables 0 4096).meetAll {} incidents
    ∀ frame ∈ framesIn c.host.channel.trace, ∀ code, frame.Carries code → IsReserved code →
      Came c.host.channel.trace frame.payload := by
  refine (reserved_codes_on_demand {} {} _ 0 4096 _).1 politeApp_spares ?_
  simp [Incident.Within, Scope.sparing, Action.Spares, Action.text, Frame.Carries]

/-- An application closes its WebSocket without a status, and the code 1005 is written. Or the peer
closes with that code, and it goes back. -/
theorem no_status_written :
    let c : Connection bareApp (Active bareApp.Handler) :=
      { protocol := .webSocket ⟨{}, (), none, 1024, false⟩, chunk := 4096 }
    let closed := c.meet {} (.act (.close .noStatus ""))
    let talk : WebSocket.Conversation Unit Unit :=
      { socket := { channel := {} }, handler := (), limit := 1024 }
    let answered := talk.onFrame bareApp.react ⟨true, .close, [3, 237]⟩
    framesIn closed.host.channel.trace = [⟨true, .close, [3, 237]⟩] ∧
      writtenIn closed.host.channel.trace = [0x88, 0x02, 0x03, 0xED] ∧
      framesIn answered.socket.channel.trace = [⟨true, .close, [3, 237]⟩] := by
  intro c closed talk answered
  let socket : WebSocket.Socket Unit := { channel := {} }
  have closes : closed.host.channel =
      (socket.beginClosing .here .noStatus "" [3, 237]).channel := rfl
  rw [closes]
  refine ⟨socket.framesIn_beginClosing _ _ _ _, ?_, ?_⟩
  · have fresh : socket.channel.Plain := .fresh {}
    have recorded : ((socket.channel.record (.closing .here .noStatus "")).record
        (.framed ⟨true, .close, [3, 237]⟩)).Plain :=
      (fresh.record rfl rfl rfl).record rfl rfl rfl
    have silent : (Completion.close .done : Completion Unit).Silent := trivial
    exact (recorded.writeThen (Frame.encode ⟨true, .close, [3, 237]⟩) silent).2
  · have carries : Frame.Carries ⟨true, .close, [3, 237]⟩ 1005 := ⟨rfl, [], rfl⟩
    exact talk.framesIn_onFrame bareApp.react rfl carries

end Connection
end WebServer

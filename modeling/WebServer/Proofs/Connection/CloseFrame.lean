import WebServer.Proofs.Connection.Regime
import WebServer.Proofs.WebSocket.Sending

/-!
# The last frame of a connection

On a connection of a server whose application keeps to its WebSockets, the frames go out in the
order in which they were handed over, behind what was written before the upgrade. A close frame is
the last of them. Once it is fully sent the connection is closed, and from the beginning of the
close on no frame is handed over and no timer is set.
-/
namespace WebServer

open WebSocket (Frame React Scope Sending Standing)

variable {ε : Type} {app : App}

/-- Serving requests, or sending frames behind what was written before the upgrade. -/
def sending (app : App) : Regime app where
  scope := .tame
  served host := host.channel.Plain ∧ framesIn host.channel.trace = []
  talking st := st.Honest ∧ ∃ earlier, framesIn earlier = [] ∧ Sending earlier st.socket

/-- Serving requests hands over no frames. -/
theorem Host.Serving.framesIn_eq {works : Task app.Event → Prop} {host host' : Host app}
    (h : Serving works host host') :
    framesIn host'.channel.trace = framesIn host.channel.trace := by
  cases h with
  | write | work => exact framesIn_run _ _
  | adopt dispatched dispatch =>
    simp only [Host.adopt, Channel.recordAll_eq]
    have nothing : framesIn dispatched.signals.reverse = [] := by
      refine seenIn_eq_nil fun signal member => ?_
      have known := dispatch signal (List.mem_reverse.1 member)
      cases signal <;> first | rfl | cases known
    simp only [seenIn_append, nothing, List.append_nil]
  | occasion signal occasion =>
    cases signal with
    | window | timer | peerClosed | tornDown => exact (seenIn_cons _ _).trans (List.append_nil _)
    | _ => cases occasion
  | wire | clock | tables => rfl

/-- While requests are served, there are no frames. -/
theorem Host.Serving.plain {host host' : Host app} (h : Serving Task.Silent host host')
    (plain : host.channel.Plain) (none : framesIn host.channel.trace = []) :
    host'.channel.Plain ∧ framesIn host'.channel.trace = [] := by
  refine ⟨?_, h.framesIn_eq.trans none⟩
  cases h with
  | write data =>
    have silent : (Completion.done : Completion app.Event).Silent := trivial
    exact (plain.writeThen data silent).1
  | adopt dispatched dispatch =>
    simp only [Host.adopt, Channel.recordAll_eq]
    refine plain.beside fun signal member => ?_
    have known := dispatch signal (List.mem_reverse.1 member)
    cases signal <;> first | exact ⟨rfl, rfl, rfl⟩ | cases known
  | occasion signal occasion =>
    cases signal with
    | window | timer | peerClosed | tornDown => exact plain.record rfl rfl rfl
    | _ => cases occasion
  | work tasks silent => exact (plain.run_silent silent).1
  | wire wire => exact plain.withWire wire
  | clock | tables => exact plain

theorem sending_sound (tame : React.Within WebSocket.Action.Tame app.react) :
    (sending app).Sound where
  react := tame
  ping := ⟨nofun, trivial⟩
  timer _ := trivial
  flush := trivial
  close := trivial
  serves := fun _ _ step h => step.plain h.1 h.2
  begins := by
    rintro host ⟨plain, none⟩
    have begun := Sending.begin plain none host.now
    exact ⟨nofun, host.channel.trace, none, begun.record rfl rfl rfl rfl id begun.disarmed⟩
  moves := by
    rintro st st' move ⟨honest, earlier, none, sending⟩
    exact ⟨move.honest honest, earlier, none, move.sending sending⟩
  honest := fun _ h => h.1

/-- A closing that has begun, with the frames that were handed over until then. -/
def parted (app : App) (frames : List Frame) : Regime app where
  scope := .tame
  served _ := False
  talking st := st.socket.session.closing = true ∧ st.socket.session.keepalive = none ∧
    framesIn st.socket.channel.trace = frames

theorem parted_sound (tame : React.Within WebSocket.Action.Tame app.react) (frames : List Frame) :
    (parted app frames).Sound where
  react := tame
  ping := ⟨nofun, trivial⟩
  timer _ := trivial
  flush := trivial
  close := trivial
  serves := fun _ _ _ never => never.elim
  begins := fun _ never => never.elim
  moves := by
    rintro st st' move ⟨closing, disarmed, same⟩
    obtain ⟨stillClosing, stillDisarmed⟩ := move.ended ⟨closing, disarmed⟩
    exact ⟨stillClosing, stillDisarmed, (move.silenced closing).trans same⟩
  honest := fun _ h _ => h.1

/-- An application that accepts every upgrade, greets its peers and parts at their first message. -/
def politeApp : App where
  Event := Unit
  Endpoint := Unit
  Gate := Unit
  Page := Unit
  Handler := Unit
  call := fun _ _ _ => { verdict := .decline }
  answerUpgrade := fun _ _ _ => { verdict := .accept () }
  react := fun _ callback => match callback with
    | .opened => .act (.text "hello") fun _ => .done ()
    | .message _ => .act (.close .normal "bye") fun _ => .done ()
    | .ping payload => .pong payload ()
    | .pong _ | .closed .. => .done ()
  page := fun _ _ _ => none

theorem politeApp_tame : React.Within WebSocket.Action.Tame politeApp.react := by
  rintro ⟨⟩ (_ | _ | payload | _ | _)
  · exact ⟨⟨nofun, trivial⟩, fun _ => trivial⟩
  · exact ⟨trivial, fun _ => trivial⟩
  · exact ⟨⟨nofun, trivial⟩, fun _ => trivial⟩
  · exact trivial
  · exact trivial

namespace Connection

/-- How frames leave a connection of a server. -/
structure PartsInOrder (config : Config) (c : Connection app (Active app.Handler)) : Prop where
  /-- Nothing is handed over behind a close frame, so there is at most one. -/
  last : ∀ before close behind, framesIn c.host.channel.trace = before ++ close :: behind →
    close.opcode = .close → behind = []
  /-- The wire took what was written before the upgrade and then the frames, in the order in which
  they were handed over. If it took the close frame fully, the connection is closed. -/
  sent : ∃ earlier, earlier <:+ c.host.channel.trace ∧ framesIn earlier = [] ∧
    acceptedIn c.host.channel.trace <+:
      writtenIn earlier ++ (framesIn c.host.channel.trace).flatMap Frame.encode ∧
    ((∃ close ∈ framesIn c.host.channel.trace, close.opcode = .close) →
      acceptedIn c.host.channel.trace =
        writtenIn earlier ++ (framesIn c.host.channel.trace).flatMap Frame.encode →
      c.isClosed = true)
  /-- With a close frame, the socket is closing. -/
  closing : (∃ close ∈ framesIn c.host.channel.trace, close.opcode = .close) →
    ∃ conversation, c.protocol = .webSocket conversation ∧ conversation.session.closing = true
  /-- Once the socket is closing, no frame is ever handed over again and no timer is set. -/
  final : ∀ conversation, c.protocol = .webSocket conversation →
    conversation.session.closing = true →
    ∀ more, (∀ incident ∈ more, Incident.Within .tame incident) →
      framesIn (c.meetAll config more).host.channel.trace = framesIn c.host.channel.trace ∧
        (c.meetAll config more).deadline (serving app config) = none

variable {c : Connection app (Active app.Handler)}

theorem final_of_closing (tame : React.Within WebSocket.Action.Tame app.react) (config : Config)
    {frames : List Frame} (h : c.Has (parted app frames).Holds) {more : List (Incident app)}
    (within : ∀ incident ∈ more, Incident.Within .tame incident) :
    framesIn (c.meetAll config more).host.channel.trace = frames ∧
      (c.meetAll config more).deadline (serving app config) = none := by
  have parts := (parted_sound tame frames).meetAll config h within
  generalize c.meetAll config more = last at parts
  unfold Has at parts
  cases active : last.protocol with
  | http pending =>
    rw [active] at parts
    exact parts.elim
  | webSocket conversation =>
    rw [active] at parts
    refine ⟨parts.2.2, ?_⟩
    have disarmed : (serving app config).deadline last.protocol = none := by
      rw [active]
      exact congrArg (Option.map _) parts.2.1
    rw [deadline, disarmed, ite_self]

/-- For every application that keeps to its WebSockets, and whatever happens to a connection of its
server, be it that the peer sends frames, ends its stream or vanishes, that timers run, or that
frames are sent, keepalives are set and the WebSocket is closed from inside or outside of the
callbacks. -/
theorem parts_in_order (tame : React.Within WebSocket.Action.Tame app.react) (config : Config)
    (wire : Wire) (tables : app.Tables) (now chunk : Nat) {incidents : List (Incident app)}
    (within : ∀ incident ∈ incidents, Incident.Within .tame incident) :
    ((fresh wire tables now chunk).meetAll config incidents).PartsInOrder config := by
  have fresh : (fresh wire tables now chunk).Has (sending app).Holds := ⟨.fresh wire, rfl⟩
  have holds := (sending_sound tame).meetAll config fresh within
  generalize (Connection.fresh wire tables now chunk).meetAll config incidents = c at holds
  unfold Has at holds
  cases active : c.protocol with
  | http pending =>
    rw [active] at holds
    obtain ⟨plain, none⟩ := holds
    refine ⟨by simp [none], ⟨_, List.suffix_refl _, none, ?_, by simp [none]⟩, by simp [none],
      fun conversation other => ?_⟩
    · rw [none, List.flatMap_nil, List.append_nil]
      exact plain.accepted
    · rw [active] at other
      cases other
  | webSocket conversation =>
    rw [active] at holds
    obtain ⟨honest, earlier, none, sending⟩ := holds
    refine ⟨fun _ _ _ => sending.last, ⟨earlier, sending.grown, none, sending.accepted, ?_⟩,
      fun hasClose => ⟨conversation, active, sending.closing hasClose⟩, ?_⟩
    · intro hasClose fully
      have closed : c.host.channel.isOpen = false := sending.closed hasClose fully
      simpa [isClosed, Host.isOpen] using closed
    · intro other same closing more within
      have parts : c.Has (parted app (framesIn c.host.channel.trace)).Holds := by
        rw [Has, active]
        cases active.symm.trans same
        exact ⟨closing, sending.disarmed closing, rfl⟩
      exact final_of_closing tame config parts within

/-- A peer that upgrades its connection and hears the polite application, which then closes from
outside and tries to send once more. -/
theorem polite_parts_in_order :
    let upgrade := Text.encode ("GET /chat HTTP/1.1\r\nUpgrade: websocket\r\n" ++
      "Connection: Upgrade\r\nSec-WebSocket-Key: dGhlIHNhbXBsZSBub25jZQ==\r\n" ++
      "Sec-WebSocket-Version: 13\r\n\r\n")
    let tables : politeApp.Tables := { socketRoutes := [⟨0, "/chat", fun _ => some [], ()⟩] }
    let incidents : List (Incident politeApp) :=
      [.source { arrived := upgrade }, .ready { readable := true }, .act (.setAutoPing 1000 5000),
        .act (.close .normal "bye"), .act (.text "more"), .timer 1000, .ready { writable := true }]
    ((fresh {} tables 0 4096).meetAll {} incidents).PartsInOrder {} := by
  refine parts_in_order politeApp_tame {} {} _ 0 4096 ?_
  simp [Incident.Within, Scope.tame, WebSocket.Action.Tame, WebSocket.Action.text,
    Completion.Silent]

end Connection
end WebServer

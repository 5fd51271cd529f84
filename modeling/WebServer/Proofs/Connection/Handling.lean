import WebServer.Proofs.Channel.Silent
import WebServer.Proofs.Connection.Regime

/-!
# How protocols handle their channel

A protocol has a handle of its connection, and nothing else of the channel: it writes, flushes and
closes, and what it does is reported in the trace. `Channel.Uses` says that a channel became another
one in this way. It was not opened again, and the trace does not say that the protocol was called in
between. A protocol is `Proper` if it does nothing else, and the one of a server is
(`serving_proper`).
-/
namespace WebServer

open WebSocket (Action Conversation React Socket)

variable {ε σ : Type}

/-- Whether a signal tells what a protocol does, beside its work on the channel. -/
def Signal.isReport : Signal ε → Bool
  | .note _ | .handled .. | .asked .. | .callback _ | .framed _ | .closing .. => true
  | _ => false

theorem Signal.isReport_of_dispatch {signal : Signal ε} (dispatch : signal.isDispatch = true) :
    signal.isReport = true := by
  cases signal <;> first | rfl | cases dispatch

namespace Channel

/-- What comes of a channel in the hands of somebody who has a handle of it. -/
inductive Uses (ch : Channel ε) : Channel ε → Prop where
  | nothing : Uses ch ch
  | report {ch' : Channel ε} (uses : Uses ch ch') (signal : Signal ε)
    (report : signal.isReport = true) : Uses ch (ch'.record signal)
  | work {ch' : Channel ε} (uses : Uses ch ch') (tasks : List (Task ε)) : Uses ch (ch'.run tasks)

namespace Uses

variable {ch ch' : Channel ε}

/-- Nobody opens a channel again. -/
theorem isOpen_of (uses : ch.Uses ch') (isOpen : ch'.isOpen = true) : ch.isOpen = true := by
  induction uses with
  | nothing => exact isOpen
  | report _ _ _ ih => exact ih isOpen
  | work _ tasks ih => exact ih (isOpen_of_run isOpen)

theorem closed (uses : ch.Uses ch') (closed : ch.isOpen = false) : ch'.isOpen = false := by
  apply Bool.eq_false_iff.2
  intro isOpen
  rw [uses.isOpen_of isOpen] at closed
  cases closed

/-- The trace grows, but not by calls of the protocol. -/
theorem grows (uses : ch.Uses ch') :
    ∃ new, ch'.trace = new ++ ch.trace ∧ ∀ signal ∈ new, signal.isOccasion = false := by
  induction uses with
  | nothing => exact ⟨[], rfl, by simp⟩
  | report _ signal report ih =>
    obtain ⟨new, grown, silent⟩ := ih
    refine ⟨signal :: new, congrArg (signal :: ·) grown, List.forall_mem_cons.2 ⟨?_, silent⟩⟩
    cases signal <;> first | rfl | cases report
  | @work ch' _ tasks ih =>
    obtain ⟨new, grown, silent⟩ := ih
    obtain ⟨newer, ran, channel⟩ := ch'.run_extends tasks
    refine ⟨newer ++ new, by rw [ran, grown, List.append_assoc], fun signal member => ?_⟩
    rcases List.mem_append.1 member with later | earlier
    · have known := channel signal later
      cases signal <;> first | rfl | cases known
    · exact silent signal earlier

theorem recordAll (uses : ch.Uses ch') {signals : List (Signal ε)}
    (reports : ∀ signal ∈ signals, signal.isReport = true) : ch.Uses (ch'.recordAll signals) := by
  induction signals generalizing ch' with
  | nil => exact uses
  | cons signal signals ih =>
    obtain ⟨first, others⟩ := List.forall_mem_cons.1 reports
    exact ih (uses.report signal first) others

end Uses
end Channel

variable {app : App} {π : Type}

/-- A protocol that handles its channel and does nothing else to it. -/
structure Protocol.Proper (protocol : Protocol app π) : Prop where
  consume : ∀ p window (host : Host app),
    host.channel.Uses (protocol.consume p window host).2.channel
  peerClosed : ∀ p (host : Host app), host.channel.Uses (protocol.peerClosed p host).2.channel
  timer : ∀ p now (host : Host app), host.channel.Uses (protocol.timer p now host).2.channel

/-- A conversation handles its channel, whatever its handler does. -/
theorem WebSocket.Socket.Congruence.uses (before : Channel ε) :
    Socket.Congruence (fun _ : Action ε => True)
      fun s s' => s = s' ∧ before.Uses s.channel where
  session_eq := fun ⟨same, _⟩ => congrArg Socket.session same
  now_eq := fun ⟨same, _⟩ => congrArg Socket.now same
  isOpen_eq := fun ⟨same, _⟩ => congrArg Socket.isOpen same
  note := fun event ⟨same, uses⟩ => ⟨same ▸ rfl, uses.report (.note event) rfl⟩
  callback := fun callback ⟨same, uses⟩ => ⟨same ▸ rfl, uses.report (.callback callback) rfl⟩
  keepalive := fun _ ⟨same, uses⟩ => ⟨same ▸ rfl, uses⟩
  send := fun frame _ _ ⟨same, uses⟩ _ => ⟨same ▸ rfl, (uses.report (.framed frame) rfl).work _⟩
  beginClosing := fun origin code reason payload ⟨same, uses⟩ _ =>
    ⟨same ▸ rfl, ((uses.report (.closing origin code reason) rfl).report
      (.framed ⟨true, .close, payload⟩) rfl).work _⟩
  takeNotice := fun ⟨same, uses⟩ _ => ⟨same ▸ rfl, uses⟩
  write := fun _ _ _ ⟨same, uses⟩ => ⟨same ▸ rfl, uses.work _⟩
  closeConnection := fun _ ⟨same, uses⟩ => ⟨same ▸ rfl, uses.work _⟩

theorem WebSocket.Conversation.related_uses (c : Conversation ε σ) :
    c.Related (fun s s' => s = s' ∧ c.socket.channel.Uses s.channel) c := .mk ⟨rfl, .nothing⟩

theorem Host.uses_adopt (host : Host app) {before : Channel app.Event}
    (uses : before.Uses host.channel) {α : Type} {dispatched : Dispatched app α}
    (dispatch : ∀ signal ∈ dispatched.signals, signal.isDispatch = true) :
    before.Uses (host.adopt dispatched).2.channel :=
  uses.recordAll fun signal member => Signal.isReport_of_dispatch (dispatch signal member)

/-- So does the serving of requests. -/
theorem Host.Congruence.uses (before : Channel app.Event) :
    Host.Congruence (fun host host' : Host app => host = host' ∧ before.Uses host.channel)
      fun s s' => s = s' ∧ before.Uses s.channel where
  tables_eq := fun ⟨same, _⟩ => congrArg Host.tables same
  routed := fun request ⟨same, uses⟩ =>
    ⟨same ▸ rfl, uses_adopt _ uses (App.isDispatch_tryRoute _ request)⟩
  offered := fun request ⟨same, uses⟩ =>
    ⟨same ▸ rfl, uses_adopt _ uses (App.isDispatch_ask request _ [] nofun _)⟩
  write := fun _ ⟨same, uses⟩ => ⟨same ▸ rfl, uses.work _⟩
  opens := fun ⟨same, uses⟩ => ⟨congrArg
    (fun host : Host app => ({ channel := host.channel, now := host.now } : Socket app.Event)) same,
    uses⟩

section Serving

variable (config : Config)

theorem serveWindow_uses (pending : Pending) (window : Bytes) (host : Host app) :
    host.channel.Uses (serveWindow config pending window host).2.channel := by
  obtain ⟨-, served⟩ := (Host.Congruence.uses host.channel).serveWindow (.uses host.channel)
    (React.within_true app.react) ⟨rfl, .nothing⟩ config pending window
  generalize serveWindow config pending window host = result at served
  obtain ⟨stop, after⟩ := result
  cases stop with
  | wait | close => exact served.2
  | upgraded paused rest => exact served.2.2

namespace Active

variable (active : Active app.Handler) (host : Host app)

theorem consume_uses (window : Bytes) :
    host.channel.Uses (active.consume config window host).2.channel := by
  cases active with
  | http pending => exact serveWindow_uses config pending window host
  | webSocket conversation =>
    rw [consume_webSocket]
    let c := conversation.resume host.channel host.now
    exact (c.related_uses.takeFrames (.uses host.channel) (React.within_true app.react)
      window).2.socket.2

theorem finish_uses : host.channel.Uses (active.finish host).2.channel := by
  cases active with
  | http pending => exact .nothing
  | webSocket conversation =>
    let c := conversation.resume host.channel host.now
    exact (c.related_uses.finish (.uses host.channel) (React.within_true app.react) rfl
      ⟨rfl, .nothing⟩).socket.2

theorem timer_uses (now : Nat) : host.channel.Uses (active.timer now host).2.channel := by
  cases active with
  | http pending => exact .nothing
  | webSocket conversation =>
    let c := conversation.resume host.channel host.now
    exact (c.related_uses.onTimer (.uses host.channel) (React.within_true app.react) trivial
      now).socket.2

theorem act_uses (action : Action app.Event) :
    host.channel.Uses (active.act action host).2.channel := by
  cases active with
  | http pending => exact .nothing
  | webSocket conversation =>
    let s := (conversation.resume host.channel host.now).socket
    have same : s = s ∧ host.channel.Uses s.channel := ⟨rfl, .nothing⟩
    exact ((Socket.Congruence.uses host.channel).perform trivial same).2.2

end Active

/-- The connections of a server speak a proper protocol, whatever the application does. -/
theorem serving_proper : (serving app config).Proper where
  consume p window host := Active.consume_uses config p host window
  peerClosed p host := Active.finish_uses p host
  timer p now host := Active.timer_uses p host now

end Serving
end WebServer

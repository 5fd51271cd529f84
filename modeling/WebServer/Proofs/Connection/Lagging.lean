import WebServer.Proofs.Channel.Waiting
import WebServer.Proofs.Connection.Regime

/-!
# Behind a connection on which nothing waits

Two connections get the same bytes at the same times, the one on a wire that may make it wait, the
other on a wire that takes everything at once. The one lags behind the other: it has written the
same, but some of it still waits (`Channel.Lags`). An application that keeps to its WebSockets
cannot tell the two apart. When a WebSocket closes, the other connection is closed at once, and the
one that lags will be once everything is sent (`Channel.Part`).
-/
namespace WebServer

variable {ε σ : Type}

namespace Signal

/-- Whether a signal tells of a call of the application. -/
def isCall : Signal ε → Bool
  | .handled .. | .asked .. | .callback _ => true
  | _ => false

def call? (signal : Signal ε) : Option (Signal ε) := if signal.isCall then some signal else none

end Signal

/-- The calls of routes, of socket routes and of handlers of WebSockets, with what they are called
with. -/
abbrev callsIn (trace : List (Signal ε)) : List (Signal ε) := seenIn Signal.call? trace

@[simp] theorem callsIn_run (ch : Channel ε) (tasks : List (Task ε)) :
    callsIn (ch.run tasks).trace = callsIn ch.trace :=
  (ch.run_extends tasks).seenIn_eq fun signal channel => by
    cases signal <;> first | rfl | cases channel

namespace Channel

/-- A channel on which the same was written as on another one, where nothing waits. -/
structure Lags (ch ch' : Channel ε) : Prop where
  left : ch.Waits
  right : ch'.Waits
  flowing : ch'.Flowing
  written : writtenIn ch.trace = writtenIn ch'.trace
  calls : callsIn ch.trace = callsIn ch'.trace

/-- Two channels on which the same was written, and which close behind it. -/
structure Part (ch ch' : Channel ε) : Prop where
  left : ch.Closing []
  right : ch'.Closing []
  written : writtenIn ch.trace = writtenIn ch'.trace
  calls : callsIn ch.trace = callsIn ch'.trace

variable {ch ch' : Channel ε}

namespace Lags

theorem fresh {wire : Wire} (h : wire.Sustaining) :
    Lags ({ wire } : Channel ε) {} :=
  ⟨.fresh h, .fresh Wire.Accepting.plain.sustaining, ⟨.plain, rfl⟩, rfl, rfl⟩

theorem record (h : ch.Lags ch') (signal : Signal ε) (written : signal.written = [])
    (accepted : signal.accepted = []) (works : signal.isFailure = false) :
    (ch.record signal).Lags (ch'.record signal) where
  left := h.left.record written accepted works
  right := h.right.record written accepted works
  flowing := h.flowing.record signal
  written := by simp [Channel.record, h.written]
  calls := by simp [Channel.record, h.calls]

/-- What a dispatch did is recorded on both. -/
theorem recordAll (h : ch.Lags ch') {signals : List (Signal ε)}
    (dispatch : ∀ signal ∈ signals, signal.isDispatch = true) :
    (ch.recordAll signals).Lags (ch'.recordAll signals) := by
  have beside : ∀ signal ∈ signals.reverse, signal.written = [] ∧ signal.accepted = [] ∧
      signal.isFailure = false := by
    intro signal member
    have known := dispatch signal (List.mem_reverse.1 member)
    cases signal <;> first | exact ⟨rfl, rfl, rfl⟩ | cases known
  rw [recordAll_eq, recordAll_eq]
  exact ⟨h.left.beside beside, h.right.beside beside, ⟨h.flowing.wire, h.flowing.queue⟩,
    by simp [h.written], by simp [h.calls]⟩

theorem writeThen (h : ch.Lags ch') (data : Bytes) {after : Completion ε} (silent : after.Silent)
    (calm : after.Calm) : (ch.writeThen data after).Lags (ch'.writeThen data after) where
  left := h.left.writeThen data silent calm
  right := h.right.writeThen data silent calm
  flowing := h.flowing.run _
  written := by
    rw [h.left.written_writeThen data silent, h.right.written_writeThen data silent, h.written]
  calls := by
    rw [Channel.writeThen, callsIn_run, Channel.writeThen, callsIn_run, h.calls]

theorem write (h : ch.Lags ch') (data : Bytes) : (ch.write data).Lags (ch'.write data) :=
  @writeThen _ _ _ h data .done trivial trivial

/-- The last write on both. -/
theorem part (h : ch.Lags ch') (data : Bytes) :
    (ch.writeThen data (.close .done)).Part (ch'.writeThen data (.close .done)) where
  left := .writeThen h.left data
  right := .writeThen h.right data
  written := by
    have silent : (Completion.close .done : Completion ε).Silent := trivial
    rw [h.left.written_writeThen data silent, h.right.written_writeThen data silent, h.written]
  calls := by
    rw [Channel.writeThen, callsIn_run, Channel.writeThen, callsIn_run, h.calls]

/-- The one that lags may send of what waits. -/
theorem flush (h : ch.Lags ch') : ch.flush.Lags ch' where
  left := h.left.flush
  right := h.right
  flowing := h.flowing
  written := ((h.left.plain.run_silent (by simp [Task.Silent])).2).trans h.written
  calls := (callsIn_run _ _).trans h.calls

theorem withWire (h : ch.Lags ch') {wire : Wire} (sustaining : wire.Sustaining) :
    Lags { ch with wire } ch' :=
  ⟨h.left.withWire sustaining, h.right, h.flowing, h.written, h.calls⟩

end Lags

theorem Part.record (h : ch.Part ch') (signal : Signal ε) (written : signal.written = [])
    (accepted : signal.accepted = []) (works : signal.isFailure = false) :
    (ch.record signal).Part (ch'.record signal) where
  left := h.left.record written accepted works
  right := h.right.record written accepted works
  written := by simp [Channel.record, h.written]
  calls := by simp [Channel.record, h.calls]

end Channel

namespace WebSocket

/-- What an application does that keeps to its WebSockets: it neither writes nor closes past them,
and neither do the completions of what it sends. -/
def Action.Modest : Action ε → Prop
  | .send _ after => after.Silent ∧ after.Calm
  | .write .. | .closeConnection => False
  | .close .. | .setAutoPing .. | .cancelAutoPing | .isOpen | .stats => True

theorem Action.Modest.calm {action : Action ε} (h : action.Modest) : action.Calm := by
  cases action with
  | send frame after => exact h.2
  | write | closeConnection => exact absurd h id
  | close | setAutoPing | cancelAutoPing | isOpen | stats => trivial

theorem Script.calm_of_modest {script : Script ε σ} (h : script.Within Action.Modest) :
    script.Calm := by
  induction script with
  | done state => trivial
  | panic state => trivial
  | note event next ih => exact ih h
  | act action next ih => exact ⟨h.1.calm, fun outcome => ih outcome (h.2 outcome)⟩

/-- Who keeps to the WebSockets leaves closing to the server. -/
theorem React.calm_of_modest {react : React ε σ} (h : react.Within Action.Modest) : react.Calm :=
  fun handler callback => Script.calm_of_modest (h handler callback)

/-- Sockets that differ in their channels, of which one lags until the sockets close. -/
inductive Socket.Lags : Socket ε → Socket ε → Prop where
  | mk {session : Session} {now : Nat} {ch ch' : Channel ε}
    (going : session.closing = false → ch.Lags ch')
    (closing : session.closing = true → ch.Part ch') :
    Lags ⟨session, ch, now⟩ ⟨session, ch', now⟩

theorem Socket.Lags.congruence : Socket.Congruence (@Action.Modest ε) Socket.Lags where
  session_eq := fun (.mk ..) => rfl
  now_eq := fun (.mk ..) => rfl
  isOpen_eq := by
    rintro _ _ @⟨session, now, ch, ch', going, closing⟩
    cases ends : session.closing with
    | true => simp [Socket.isOpen, ends]
    | false => simp [Socket.isOpen, (going ends).left.isOpen, (going ends).right.isOpen]
  note := fun _ (.mk going closing) =>
    .mk (fun opened => (going opened).record _ rfl rfl rfl)
      (fun ends => (closing ends).record _ rfl rfl rfl)
  callback := fun _ (.mk going closing) =>
    .mk (fun opened => (going opened).record _ rfl rfl rfl)
      (fun ends => (closing ends).record _ rfl rfl rfl)
  keepalive := fun _ (.mk going closing) => .mk going closing
  send := fun _ _ ⟨silent, calm⟩ (.mk going closing) opened =>
    .mk (fun _ => ((going opened).record _ rfl rfl rfl).writeThen _ silent calm)
      (fun ends => absurd ends (Bool.eq_false_iff.1 opened))
  beginClosing := fun _ _ _ _ (.mk going _) opened =>
    .mk nofun (fun _ => (((going opened).record _ rfl rfl rfl).record _ rfl rfl rfl).part _)
  takeNotice := fun (.mk _ closing) ends => .mk nofun (fun _ => closing ends)
  write := fun _ _ never => absurd never id
  closeConnection := fun never => absurd never id

/-- Sockets that send nothing any more, as the peer is gone, while the channel of one still lags. -/
inductive Socket.Silenced : Socket ε → Socket ε → Prop where
  | mk {session : Session} {now : Nat} {ch ch' : Channel ε} (closing : session.closing = true)
    (lags : ch.Lags ch') : Silenced ⟨session, ch, now⟩ ⟨session, ch', now⟩

theorem Socket.Silenced.channel {s s' : Socket ε} (h : s.Silenced s') :
    s.channel.Lags s'.channel := by
  cases h with
  | mk _ lags => exact lags

theorem Socket.Silenced.congruence : Socket.Congruence (@Action.Modest ε) Socket.Silenced where
  session_eq := fun (.mk ..) => rfl
  now_eq := fun (.mk ..) => rfl
  isOpen_eq := fun (.mk closing _) => by simp [Socket.isOpen, closing]
  note := fun _ (.mk closing lags) => .mk closing (lags.record _ rfl rfl rfl)
  callback := fun _ (.mk closing lags) => .mk closing (lags.record _ rfl rfl rfl)
  keepalive := fun _ (.mk closing lags) => .mk closing lags
  send := fun _ _ _ (.mk closing _) opened => absurd closing (Bool.eq_false_iff.1 opened)
  beginClosing := fun _ _ _ _ (.mk closing _) opened =>
    absurd closing (Bool.eq_false_iff.1 opened)
  takeNotice := fun (.mk _ lags) _ => .mk rfl lags
  write := fun _ _ never => absurd never id
  closeConnection := fun never => absurd never id

/-- On a socket that is closing an action comes to nothing, but that it may end the keepalive. -/
theorem Socket.perform_of_closing {s : Socket ε} (closing : s.session.closing = true)
    {action : Action ε} (modest : action.Modest) :
    ∃ keepalive, (s.perform action).2 = { s with session := { s.session with keepalive } } := by
  have still (same : (s.perform action).2 = s) :
      ∃ keepalive, (s.perform action).2 = { s with session := { s.session with keepalive } } :=
    ⟨s.session.keepalive, same⟩
  cases action with
  | send frame after =>
    refine still ?_
    simp only [perform, send, closing, if_true]
    split <;> rfl
  | close code reason =>
    exact still ((s.perform_close code reason).resolve_right (by simp [closing]))
  | setAutoPing interval timeout =>
    refine still ?_
    simp only [perform, setAutoPing, closing, if_true]
    split <;> rfl
  | cancelAutoPing => exact ⟨none, rfl⟩
  | isOpen | stats => exact still rfl
  | write | closeConnection => exact absurd modest id

/-- What comes of an action on a socket that is closing depends on nothing else. -/
theorem Socket.outcome_of_closing {s s' : Socket ε} (closing : s.session.closing = true)
    (closing' : s'.session.closing = true) (idle : s.session.keepalive = none)
    (idle' : s'.session.keepalive = none) {action : Action ε} (modest : action.Modest) :
    (s.perform action).1 = (s'.perform action).1 := by
  cases action with
  | send frame after =>
    simp only [perform, send, closing, closing', if_true]
    split <;> rfl
  | close code reason =>
    simp only [perform, close, closing, closing', if_true]
    split <;> rfl
  | setAutoPing interval timeout =>
    simp only [perform, setAutoPing, closing, closing', if_true]
    split <;> rfl
  | cancelAutoPing => rfl
  | isOpen => simp only [perform, isOpen, closing, closing', Bool.not_true, Bool.false_and]
  | stats => simp only [perform, stats, idle, idle']
  | write | closeConnection => exact absurd modest id

/-- There a script does nothing but note. -/
theorem Script.run_of_closing {script : Script ε σ} (modest : script.Within Action.Modest)
    {s : Socket ε} (closing : s.session.closing = true) :
    ∃ (notes : List ε) (keepalive : Option Keepalive), (script.run s).2 =
      ⟨{ s.session with keepalive }, s.channel.recordAll (notes.map .note), s.now⟩ := by
  induction script generalizing s with
  | done state | panic state => exact ⟨[], s.session.keepalive, rfl⟩
  | note event next ih =>
    obtain ⟨notes, keepalive, ran⟩ := ih modest (s := s.note event) closing
    exact ⟨event :: notes, keepalive, ran⟩
  | act action next ih =>
    obtain ⟨before, performed⟩ := s.perform_of_closing closing modest.1
    have still : (s.perform action).2.session.closing = true := by rwa [performed]
    obtain ⟨notes, keepalive, ran⟩ := ih _ (modest.2 _) still
    rw [performed] at ran
    exact ⟨notes, keepalive, by rw [Script.run, ← ran, ← performed]⟩

namespace Conversation

/-- A conversation that is closing does not close once more. -/
theorem close_of_closing {c : Conversation ε σ} (closing : c.socket.session.closing = true)
    (code : CloseCode) (reason : String) : c.close code reason = c := by
  have same : (c.socket.perform (.close code reason)).2 = c.socket :=
    (c.socket.perform_close code reason).resolve_right fun begins => by simp [closing] at begins
  show { c with socket := (c.socket.perform (.close code reason)).2 } = c
  rw [same]

/-- A conversation that is over and whose handler was told of the end, where so many callbacks were
made on that channel meanwhile, and the handler noted what it liked. -/
structure Hushed (ch : Channel ε) (callbacks : List Callback) (c : Conversation ε σ) : Prop where
  closing : c.socket.session.closing = true
  told : c.closeNotified = true
  channel : ∃ notes : List ε, c.socket.channel =
    ch.recordAll (callbacks.map .callback ++ notes.map .note)

/-- A conversation that is closing tells its handler of the end, unless it was told. -/
theorem hushed_notifyClose {react : React ε σ} (modest : react.Within Action.Modest)
    {c : Conversation ε σ} (closing : c.socket.session.closing = true) (code : CloseCode)
    (reason : String) : (c.notifyClose react code reason).Hushed c.socket.channel
      (if c.closeNotified then [] else [.closed code reason]) := by
  have told := closeNotified_notifyClose react c code reason
  unfold notifyClose at told ⊢
  split
  · rename_i known
    exact ⟨closing, known, [], rfl⟩
  · rename_i untold
    rw [if_neg untold] at told
    obtain ⟨notes, keepalive, ran⟩ := Script.run_of_closing
      (modest c.handler (.closed code reason))
      (s := c.socket.record (.callback (.closed code reason))) closing
    have socket : (call react { c with closeNotified := true } (.closed code reason)).socket =
        ((react c.handler (.closed code reason)).run
          (c.socket.record (.callback (.closed code reason)))).2 := by
      have still : ((react c.handler (.closed code reason)).run
          (c.socket.record (.callback (.closed code reason)))).2.session.closing = true := by
        rwa [ran]
      unfold call
      generalize (react c.handler (.closed code reason)).run _ = result at still ⊢
      obtain ⟨_ | state, socket⟩ := result
      · rfl
      · exact congrArg Conversation.socket (close_of_closing
          (c := { c with socket, handler := state, closeNotified := true }) still _ _)
    refine ⟨?_, told, notes, ?_⟩ <;> rw [socket, ran]
    · exact closing
    · rfl

end Conversation

/-- A conversation that is over. Its handler knows, or will be told what it was closed with. -/
structure Paused.Over (paused : Paused σ) : Prop where
  closing : paused.session.closing = true
  known : paused.session.notice.isSome = true ∨ paused.closeNotified = true

/-- What a handler is still to be told of the end, once there is one. -/
def Paused.owed (paused : Paused σ) : List Callback :=
  if paused.session.closing && !paused.closeNotified then
    paused.session.notice.toList.map fun (code, reason) => .closed code reason
  else []

theorem Paused.owed_of_open {paused : Paused σ} (opened : paused.session.closing = false) :
    paused.owed = [] := by
  simp [owed, opened]

theorem Paused.owed_of_told {paused : Paused σ} (told : paused.closeNotified = true) :
    paused.owed = [] := by
  simp [owed, told]

/-- At the end of the stream a conversation is over, and its handler knows. -/
theorem Conversation.over_finish (react : React ε σ) (c : Conversation ε σ) :
    (c.finish react).pause.Over ∧ (c.finish react).closeNotified = true := by
  have told := closeNotified_notifyClose react { c with socket := c.socket.takeNotice.2 }
  have finished := @notifyClose_of_over ε σ react { c with socket := c.socket.takeNotice.2 } rfl
  unfold finish
  exact ⟨⟨congrArg Session.closing (finished _ _), .inr (told _ _)⟩, told _ _⟩

theorem Conversation.Hushed.isOpen_eq {ch : Channel ε} {callbacks : List Callback}
    {c : Conversation ε σ} (h : c.Hushed ch callbacks) :
    c.socket.channel.isOpen = ch.isOpen := by
  obtain ⟨notes, channel⟩ := h.channel
  rw [channel, Channel.recordAll_eq]

theorem Conversation.Hushed.over {ch : Channel ε} {callbacks : List Callback}
    {c : Conversation ε σ} (h : c.Hushed ch callbacks) : c.pause.Over :=
  ⟨h.closing, .inr h.told⟩

namespace Paused.Over

variable {paused : Paused σ} (h : paused.Over)

theorem of_settled {c : Conversation ε σ} (settled : c.Settled)
    (closing : c.socket.session.closing = true) : c.pause.Over :=
  ⟨closing, .inr (settled closing).2⟩

include h

variable {react : React ε σ}

/-- The end of the stream means nothing but what the close does. -/
theorem finish_eq (react : React ε σ) (ch : Channel ε) (now : Nat) :
    (paused.resume ch now).finish react = (paused.resume ch now).settle react := by
  obtain ⟨⟨keepalive, closing, notice⟩, handler, assembling, limit, told⟩ := paused
  obtain ⟨rfl, known⟩ : closing = true ∧ (notice.isSome = true ∨ told = true) := ⟨h.1, h.2⟩
  cases notice with
  | some said => rfl
  | none =>
    obtain rfl : told = true := known.resolve_left nofun
    rfl

section

variable (modest : react.Within Action.Modest) (ch : Channel ε) (now : Nat)

include modest

theorem settle :
    ((paused.resume ch now).settle react).Hushed ch paused.owed := by
  obtain ⟨⟨keepalive, closing, notice⟩, handler, assembling, limit, told⟩ := paused
  obtain ⟨rfl, known⟩ : closing = true ∧ (notice.isSome = true ∨ told = true) := ⟨h.1, h.2⟩
  cases notice with
  | none =>
    obtain rfl : told = true := known.resolve_left nofun
    exact ⟨rfl, rfl, [], rfl⟩
  | some said =>
    obtain ⟨code, reason⟩ := said
    have hushed := Conversation.hushed_notifyClose modest
      (c := ⟨⟨⟨none, true, none⟩, ch, now⟩, handler, assembling, limit, told⟩) rfl code reason
    cases told <;> exact hushed

theorem finish : ((paused.resume ch now).finish react).Hushed ch paused.owed := by
  rw [h.finish_eq]
  exact h.settle modest ch now

/-- No frame is taken any more. -/
theorem takeFrames (window : Bytes) :
    ∃ after : Conversation ε σ, (paused.resume ch now).takeFrames react window = (none, after) ∧
      after.Hushed ch paused.owed := by
  have hushed := h.settle modest ch now
  refine ⟨_, ?_, hushed⟩
  rw [Conversation.takeFrames_eq, if_pos hushed.closing]

/-- No ping is sent, and the missing of a pong means nothing. -/
theorem onTimer (time : Nat) :
    ((paused.resume ch now).onTimer react time).Hushed ch paused.owed := by
  have rearmed (keepalive : Option Keepalive) :
      ((resume { paused with session := { paused.session with keepalive } } ch now).settle
        react).Hushed ch paused.owed :=
    @settle _ _ { paused with session := { paused.session with keepalive } } ⟨h.closing, h.known⟩
      react modest ch now
  have ticked := Socket.tick_eq (paused.resume ch now).socket time
  unfold Conversation.onTimer
  generalize (paused.resume ch now).socket.tick time = result at ticked ⊢
  obtain ⟨tick, socket⟩ := result
  obtain rfl : socket = _ := ticked
  cases tick with
  | idle => exact rearmed _
  | ping =>
    obtain ⟨keepalive, pinged⟩ := Socket.perform_of_closing
      (s := ⟨{ paused.session with
        keepalive := paused.session.keepalive.map fun k => (k.tick time).2 }, ch, now⟩)
      h.closing (show (Action.ping [] : Action ε).Modest from ⟨trivial, trivial⟩)
    have same := rearmed keepalive
    simp only [resume] at pinged same ⊢
    rwa [pinged]
  | timedOut =>
    simp only
    rw [Conversation.close_of_closing h.closing]
    exact rearmed _

end

/-- An action comes to nothing. -/
theorem perform {action : Action ε} (modest : action.Modest) (ch : Channel ε) (now : Nat) :
    ∃ keepalive, ((paused.resume ch now).socket.perform action).2 =
        ⟨{ paused.session with keepalive }, ch, now⟩ :=
  Socket.perform_of_closing h.closing modest

end Paused.Over
end WebSocket

variable {app : App}

/-- Hosts that differ in their channels, of which one lags. -/
inductive Host.Lags : Host app → Host app → Prop where
  | mk {tables : app.Tables} {now : Nat} {ch ch' : Channel app.Event} (lags : ch.Lags ch') :
    Lags ⟨ch, tables, now⟩ ⟨ch', tables, now⟩

namespace Host.Lags

variable {host host' : Host app}

theorem channel (h : host.Lags host') : host.channel.Lags host'.channel := by
  cases h with
  | mk lags => exact lags

theorem record (h : host.Lags host') (signal : Signal app.Event) (written : signal.written = [])
    (accepted : signal.accepted = []) (works : signal.isFailure = false) :
    (host.record signal).Lags (host'.record signal) := by
  cases h with
  | mk lags => exact .mk (lags.record signal written accepted works)

/-- The one that lags may be on any channel that lags. -/
theorem withChannel (h : host.Lags host') {ch : Channel app.Event}
    (lags : ch.Lags host'.channel) : Lags { host with channel := ch } host' := by
  cases h with
  | mk _ => exact .mk lags

theorem clock (h : host.Lags host') (now : Nat) : Lags { host with now } { host' with now } := by
  cases h with
  | mk lags => exact .mk lags

theorem tables (h : host.Lags host') (tables : app.Tables) :
    Lags { host with tables } { host' with tables } := by
  cases h with
  | mk lags => exact .mk lags

/-- A conversation goes on on both. -/
theorem joined (h : host.Lags host') (paused : WebSocket.Paused app.Handler)
    (opened : paused.session.closing = false) :
    host.Joined WebSocket.Socket.Lags paused host' := by
  cases h with
  | mk lags =>
    exact ⟨rfl, .mk (fun _ => lags) fun ends => absurd ends (Bool.eq_false_iff.1 opened)⟩

theorem of_joined {paused : WebSocket.Paused app.Handler}
    (h : host.Joined WebSocket.Socket.Lags paused host')
    (opened : paused.session.closing = false) : host.Lags host' := by
  obtain ⟨ch, tables, now⟩ := host
  obtain ⟨ch', tables', now'⟩ := host'
  obtain ⟨tables_eq, socket⟩ := h
  obtain rfl : tables = tables' := tables_eq
  cases socket with
  | mk going => exact .mk (going opened)

theorem part_of_joined {paused : WebSocket.Paused app.Handler}
    (h : host.Joined WebSocket.Socket.Lags paused host')
    (closing : paused.session.closing = true) : host.channel.Part host'.channel := by
  obtain ⟨ch, tables, now⟩ := host
  obtain ⟨ch', tables', now'⟩ := host'
  cases h.2 with
  | mk _ parts => exact parts closing

theorem congruence : Host.Congruence Host.Lags (@WebSocket.Socket.Lags app.Event) where
  tables_eq := fun (.mk _) => rfl
  routed := fun _ (.mk lags) => .mk (lags.recordAll (App.isDispatch_tryRoute _ _))
  offered := fun _ (.mk lags) => .mk (lags.recordAll (App.isDispatch_ask _ _ [] nofun _))
  write := fun _ (.mk lags) => .mk (lags.write _)
  opens := fun (.mk lags) => .mk (fun _ => lags) nofun

/-- The end of the stream is told alike, and nothing is sent any more. -/
theorem finish (modest : WebSocket.React.Within WebSocket.Action.Modest app.react)
    (h : host.Lags host') {active : Active app.Handler}
    (going : ∀ conversation, active = .webSocket conversation →
      conversation.session.closing = false) :
    (active.finish host).1 = (active.finish host').1 ∧
      (active.finish host).2.channel.Lags (active.finish host').2.channel := by
  cases active with
  | http pending => exact ⟨rfl, h.channel⟩
  | webSocket conversation =>
    have joined := h.joined conversation (going conversation rfl)
    cases h with
    | mk lags =>
      have finished := WebSocket.Conversation.Related.finish WebSocket.Socket.Silenced.congruence
        modest joined.resume rfl (.mk rfl lags)
      exact ⟨congrArg Active.webSocket (finished.pause_eq WebSocket.Socket.Silenced.congruence),
        finished.socket.channel⟩

end Host.Lags
end WebServer

import WebServer.Proofs.Connection.CloseFrame
import WebServer.Proofs.Connection.Departing

/-!
# Backpressure

Whether the peer takes what is written to it at once or lets the connection wait cannot be seen in
what it gets in the end, nor by the application: with the same bytes read and the same done through
WebSockets at the same times, every connection says the same and calls the same
(`backpressure_unseen`). Only when something was sent is not the same, so nothing may depend on that
(`keepalive_outlasts_wait`).

The proof runs a connection beside one on which nothing ever waits (`Beside`). As long as both go
on, the one lags behind the other with what it has sent. They part when the protocol closes, when a
WebSocket closes or when the stream ends: then the other one is closed already while the one that
lags still sends and reads, but nothing that it reads counts any more. A handler whose WebSocket was
closed from outside may be told of it sooner on the one that lags, at the latest when the connection
is torn down.
-/
namespace WebServer

open WebSocket (Action Outcome Paused React Socket)

variable {app : App}

namespace Incident

/-- What an incident brings to the connection from outside. That the socket can be written, what the
wire takes, and whether everything was sent, are matters of the way out. -/
def inbound? : Incident app → Option (Incident app)
  | .ready event => if event.readable then some (.ready { readable := true }) else none
  | .wire _ => none
  | .drained => none
  | other => some other

/-- An incident without a failure and without a hangup. The application may act through a WebSocket
that it kept, but not past it. -/
def Mild : Incident app → Prop
  | .ready event => event.hangup = false
  | .wire w => w.Sustaining
  | .source s => s.Works
  | .act action => action.Modest
  | .timer _ | .drained | .clock _ | .tables _ => True
  | .hangUp | .work _ => False

end Incident

theorem Active.http_or_webSocket {σ : Type} (active : Active σ) :
    (∃ pending, active = .http pending) ∨ ∃ conversation, active = .webSocket conversation := by
  cases active with
  | http pending => exact .inl ⟨pending, rfl⟩
  | webSocket conversation => exact .inr ⟨conversation, rfl⟩

/-- Of two hosts of which one lags, the WebSocket takes the same. If it is not over then, it goes on
on both. -/
theorem Host.Lags.takeFrames (modest : React.Within Action.Modest app.react)
    {host host' : Host app} (lags : host.Lags host') {conversation : Paused app.Handler}
    (opened : conversation.session.closing = false) (sound : conversation.Sound host')
    (config : Config) (window : Bytes) :
    ∃ (used : Nat) (later : Paused app.Handler) (move : Move) (next next' : Host app),
      Active.consume config (.webSocket conversation) window host =
        (⟨used, .webSocket later, move⟩, next) ∧
      Active.consume config (.webSocket conversation) window host' =
        (⟨used, .webSocket later, move⟩, next') ∧
      next.Joined Socket.Lags later next' ∧
      (move = .wait ∧ later.Sound next' ∨ move = .close ∧ later.Over) := by
  have took := Active.consume_webSocket config conversation window host
  have took' := Active.consume_webSocket config conversation window host'
  obtain ⟨same, related⟩ := WebSocket.Conversation.Related.takeFrames Socket.Lags.congruence modest
    (lags.joined conversation opened).resume window
  obtain ⟨after, ends, goes⟩ := sound.sound.takeFrames (React.calm_of_modest modest) window
  have now := WebSocket.Conversation.now_takeFrames app.react
    (conversation.resume host.channel host.now) window
  generalize (conversation.resume host.channel host.now).takeFrames app.react window = left
    at same related now took
  generalize (conversation.resume host'.channel host'.now).takeFrames app.react window = right
    at same related after ends goes took'
  obtain ⟨rest, met⟩ := left
  obtain ⟨_, met'⟩ := right
  obtain rfl := same
  have paused := related.pause_eq Socket.Lags.congruence
  have joined := Host.Joined.of_related (Host.Lags.congruence.tables_eq lags) related paused now
    after.socket.now_eq
  simp only [← paused] at took'
  cases rest with
  | none =>
    obtain ⟨closing, settled⟩ := ends rfl
    exact ⟨_, _, _, _, _, took, took', joined, .inr ⟨rfl, paused ▸ .of_settled settled closing⟩⟩
  | some rest =>
    have goesOn := Bool.eq_false_iff.1 (goes rest rfl)
    have settled : met'.Settled := fun closing => absurd closing goesOn
    exact ⟨_, _, _, _, _, took, took', joined, .inl ⟨rfl, paused ▸ .of_conversation after settled⟩⟩

/-- Of two hosts of which one lags, the same requests are served, and the same becomes of them. -/
theorem Host.Lags.serveWindow (modest : React.Within Action.Modest app.react)
    {host host' : Host app} (lags : host.Lags host') (config : Config) (pending : Pending)
    (window : Bytes) :
    ∃ (said : Consumed (Active app.Handler)) (next next' : Host app),
      Active.consume config (.http pending) window host = (said, next) ∧
      Active.consume config (.http pending) window host' = (said, next') ∧
      ((∃ used later, said = ⟨used, .http later, .wait⟩ ∧ next.Lags next') ∨
        (∃ used, said = ⟨used, .http none, .close⟩ ∧ next.Lags next') ∨
        ∃ used conversation, said = ⟨used, .webSocket conversation, .switch⟩ ∧
          next.Joined Socket.Lags conversation next' ∧ conversation.Sound next') := by
  have ready : host'.Ready := ⟨lags.channel.flowing, lags.channel.right.isOpen⟩
  obtain ⟨same, after⟩ :=
    Host.Lags.congruence.serveWindow Socket.Lags.congruence modest lags config pending window
  have sound := ready.serveWindow (React.calm_of_modest modest) config pending window
  simp only [Active.consume]
  generalize WebServer.serveWindow config pending window host = served at same after ⊢
  generalize WebServer.serveWindow config pending window host' = served' at same after sound ⊢
  obtain ⟨stop, next⟩ := served
  obtain ⟨_, next'⟩ := served'
  obtain rfl := same
  refine ⟨_, next, next', rfl, rfl, ?_⟩
  cases stop with
  | wait later rest => exact .inl ⟨_, _, rfl, after⟩
  | close => exact .inr (.inl ⟨_, rfl, after⟩)
  | upgraded conversation rest => exact .inr (.inr ⟨_, _, rfl, after, sound⟩)

/-- What comes of an action on the WebSocket of a protocol, if it is one. -/
def Active.outcome (active : Active app.Handler) (action : Action app.Event) (host : Host app) :
    Option Outcome :=
  match active with
  | .http _ => none
  | .webSocket conversation =>
    some ((conversation.resume host.channel host.now).socket.perform action).1

namespace Connection

/-- A connection that goes on, as another one with that host does, and lags behind it. -/
structure Together (c : Connection app (Active app.Handler)) (host : Host app) : Prop where
  lags : c.host.Lags host
  draining : c.draining = false
  readClosed : c.readClosed = false
  source : c.source.Works
  talking : ∀ conversation, c.protocol = .webSocket conversation →
    conversation.session.closing = false ∧ conversation.Sound host

/-- What comes of an action on the WebSocket of a connection, if it has one. -/
def outcome (c : Connection app (Active app.Handler)) (action : Action app.Event) :
    Option Outcome :=
  c.protocol.outcome action c.host

/-- A connection beside the one on which nothing waits: they go on together, or both close behind
the same bytes and calls. -/
inductive Beside
    (closes : Legacy app.Event → Connection app (Active app.Handler) → Prop)
    (c : Connection app (Active app.Handler)) : Connection app (Active app.Handler) → Prop where
  | together {host : Host app} (h : c.Together host) : Beside closes c { c with host }
  | apart {d : Connection app (Active app.Handler)} {legacy : Legacy app.Event}
    (left : closes legacy c) (right : closes legacy d) : Beside closes c d

variable {c d : Connection app (Active app.Handler)} {host : Host app} {config : Config}

namespace Beside

/-- Where a WebSocket is over, both close. -/
theorem of_over {conversation : Paused app.Handler}
    (joined : c.host.Joined Socket.Lags conversation d.host) (finished : conversation.Over)
    (active : c.protocol = .webSocket conversation) (active' : d.protocol = .webSocket conversation)
    (source : c.source.Works) (source' : d.source.Works) : Beside Departing c d := by
  have part := Host.Lags.part_of_joined joined finished.closing
  let legacy : Legacy app.Event := ⟨writtenIn c.host.channel.trace,
    callsIn c.host.channel.trace ++ conversation.owed.map .callback, true⟩
  have left : Departing legacy c := by
    refine ⟨?_, by rwa [active], source, by rw [active]; rfl⟩
    rw [active]
    exact ⟨.inr part.left, rfl, rfl⟩
  have right : Departing legacy d := by
    refine ⟨?_, by rwa [active'], source', by rw [active']; rfl⟩
    rw [active']
    exact ⟨.inr part.right, part.written.symm, congrArg (· ++ _) part.calls.symm⟩
  exact .apart left right

/-- Where both drain, both close. -/
theorem of_drained (lags : c.host.channel.Lags d.host.channel) (draining : c.draining = true)
    (draining' : d.draining = true) (same : d.protocol = c.protocol)
    (finished : c.protocol.Over true) (source : c.source.Works) (source' : d.source.Works) :
    Beside Departing c d := by
  let legacy : Legacy app.Event := ⟨writtenIn c.host.channel.trace,
    callsIn c.host.channel.trace ++ c.protocol.owed.map .callback, c.protocol.isUpgraded⟩
  have left : Departing legacy c :=
    ⟨⟨.inl ⟨draining, lags.left⟩, rfl, rfl⟩, by rwa [draining], source, rfl⟩
  have right : Departing legacy d := by
    refine ⟨⟨.inl ⟨draining', lags.right⟩, lags.written.symm, ?_⟩, by rwa [draining', same],
      source', by rw [same]⟩
    rw [same]
    exact congrArg (· ++ _) lags.calls.symm
  exact .apart left right

/-- A conversation goes on on both, or is over on both. -/
theorem of_joined {conversation : Paused app.Handler}
    (joined : c.host.Joined Socket.Lags conversation host)
    (sound : (conversation.resume host.channel host.now).Sound host.now)
    (active : c.protocol = .webSocket conversation) (draining : c.draining = false)
    (readClosed : c.readClosed = false) (source : c.source.Works) :
    Beside Departing c { c with host } := by
  cases closing : conversation.session.closing with
  | true => exact .of_over joined ⟨closing, sound.told closing⟩ active active source source
  | false =>
    refine .together ⟨.of_joined joined closing, draining, readClosed, source, fun other same => ?_⟩
    obtain rfl := Active.webSocket.inj (active.symm.trans same)
    exact ⟨closing, sound, fun ends => absurd ends (Bool.eq_false_iff.1 closing)⟩

/-- Where nothing drains, a last write closes as soon as it is sent. -/
theorem of_going (h : Beside Departing c d) (going : c.draining = false)
    (going' : d.draining = false) : Beside Departed c d := by
  cases h with
  | together h => exact .together h
  | apart left right => exact .apart (left.of_going going) (right.of_going going')

end Beside

namespace Together

/-- While requests are served, there is no conversation to speak of. -/
theorem of_http {pending : Pending} (active : c.protocol = .http pending) (lags : c.host.Lags host)
    (draining : c.draining = false) (readClosed : c.readClosed = false)
    (source : c.source.Works) : c.Together host :=
  ⟨lags, draining, readClosed, source, fun conversation other => by
    rw [active] at other
    cases other⟩

theorem isOpen (h : c.Together host) : c.isClosed = false := by
  simp [isClosed, Host.isOpen, h.lags.channel.left.isOpen]

theorem isOpen_host (h : c.Together host) : isClosed { c with host } = false := by
  simp [isClosed, Host.isOpen, h.lags.channel.right.isOpen]

end Together

section

variable (modest : React.Within Action.Modest app.react)

include modest

namespace Together

/-- Both WebSockets take the same of what was read. -/
theorem offer_webSocket (h : c.Together host) {conversation : Paused app.Handler}
    (active : c.protocol = .webSocket conversation) (handovers : Nat) :
    Beside Departing (c.offer (serving app config) handovers)
      (Connection.offer (serving app config) { c with host } handovers) := by
  by_cases nothing : c.inbound = []
  · rw [offer_of_nil _ nothing, @offer_of_nil _ _ _ { c with host } nothing]
    exact .together h
  · obtain ⟨opened, sound⟩ := h.talking conversation active
    have shown := h.lags.record (.window c.inbound) rfl rfl rfl
    have soundShown : conversation.Sound (host.record (.window c.inbound)) :=
      sound.withHost (sound.sound.socket.flowing.record _) rfl
    obtain ⟨used, later, move, next, next', took, took', joined, stands⟩ :=
      shown.takeFrames modest opened soundShown config c.inbound
    rw [← active] at took took'
    rw [offer_of_open (serving app config) nothing h.isOpen _ took,
      @offer_of_open _ _ _ { c with host } nothing h.isOpen_host _ _ _ _ _ took']
    rcases stands with ⟨rfl, goesOn⟩ | ⟨rfl, finished⟩
    · exact .of_joined joined goesOn.sound rfl h.draining h.readClosed h.source
    · exact .of_over joined finished rfl rfl h.source h.source

end Together

theorem Beside.offer_webSocket (h : Beside Departing c d) {conversation other : Paused app.Handler}
    (active : c.protocol = .webSocket conversation) (active' : d.protocol = .webSocket other)
    (handovers : Nat) :
    Beside Departing (c.offer (serving app config) handovers)
      (d.offer (serving app config) handovers) := by
  cases h with
  | together h => exact h.offer_webSocket modest active handovers
  | apart left right =>
    exact .apart (left.offer modest active handovers) (right.offer modest active' handovers)

namespace Together

/-- Both serve the same requests, and after an upgrade both WebSockets take the same of the rest. -/
theorem offer_http (h : c.Together host) {pending : Pending} (active : c.protocol = .http pending) :
    Beside Departing (c.offer (serving app config) (serving app config).handovers)
      (Connection.offer (serving app config) { c with host } (serving app config).handovers) := by
  by_cases nothing : c.inbound = []
  · rw [offer_of_nil _ nothing, @offer_of_nil _ _ _ { c with host } nothing]
    exact .together h
  · obtain ⟨said, next, next', took, took', stands⟩ :=
      (h.lags.record (.window c.inbound) rfl rfl rfl).serveWindow modest config pending c.inbound
    rw [← active] at took took'
    rw [offer_of_open (serving app config) nothing h.isOpen _ took,
      @offer_of_open _ _ _ { c with host } nothing h.isOpen_host _ _ _ _ _ took']
    rcases stands with ⟨used, later, rfl, lags⟩ | ⟨used, rfl, lags⟩ |
      ⟨used, conversation, rfl, joined, sound⟩
    · exact .together (.of_http rfl lags h.draining h.readClosed h.source)
    · exact .of_drained lags.channel rfl rfl rfl rfl h.source h.source
    · have begun (inbound : Bytes) :
          Beside Departing { c with host := next, protocol := .webSocket conversation, inbound }
            { c with host := next', protocol := .webSocket conversation, inbound } :=
        .of_joined joined sound.sound rfl h.draining h.readClosed h.source
      cases used with
      | zero => exact begun _
      | succ used => exact (begun _).offer_webSocket modest rfl rfl _

/-- What was read takes both equally far. -/
theorem process (h : c.Together host) :
    Beside Departing (c.process (serving app config))
      (Connection.process (serving app config) { c with host }) := by
  have goesOn : ¬ c.draining = true := Bool.eq_false_iff.1 h.draining
  have left : c.process (serving app config) = c.offer _ _ := if_neg goesOn
  have right : Connection.process (serving app config) { c with host } = offer _ _ _ :=
    if_neg goesOn
  rw [left, right]
  rcases c.protocol.http_or_webSocket with ⟨pending, active⟩ | ⟨conversation, active⟩
  · exact h.offer_http modest active
  · exact h.offer_webSocket modest active _

/-- At the end of the stream both close. -/
theorem endOfStream (h : c.Together host) :
    Beside Departing (c.endOfStream (serving app config))
      (Connection.endOfStream (serving app config) { c with host }) := by
  have shown := h.lags.record .peerClosed rfl rfl rfl
  have going : ∀ conversation, c.protocol = .webSocket conversation →
      conversation.session.closing = false := fun conversation active =>
    (h.talking conversation active).1
  obtain ⟨same, lags⟩ := shown.finish modest going
  exact .of_drained lags rfl rfl same.symm (Active.over_finish _ _).1 h.source h.source

/-- The timer brings about the same on both. -/
theorem timer (h : c.Together host) (now : Nat) :
    Beside Departing
      { c with
        protocol := (c.protocol.timer now (c.host.record .timer)).1
        host := (c.protocol.timer now (c.host.record .timer)).2 }
      { c with
        protocol := (c.protocol.timer now (host.record .timer)).1
        host := (c.protocol.timer now (host.record .timer)).2 } := by
  have shown := h.lags.record .timer rfl rfl rfl
  rcases c.protocol.http_or_webSocket with ⟨pending, active⟩ | ⟨conversation, active⟩
  · rw [active]
    exact .together (.of_http rfl shown h.draining h.readClosed h.source)
  · obtain ⟨opened, sound⟩ := h.talking conversation active
    have soundShown : conversation.Sound (host.record .timer) :=
      sound.withHost (sound.sound.socket.flowing.record _) rfl
    obtain ⟨after, settled⟩ :=
      soundShown.sound.onTimer (React.calm_of_modest modest) now
    have run := WebSocket.Conversation.Related.onTimer Socket.Lags.congruence modest
      ⟨trivial, trivial⟩ (shown.joined conversation opened).resume now
    have paused := run.pause_eq Socket.Lags.congruence
    have joined := Host.Joined.of_related (Host.Lags.congruence.tables_eq shown) run paused
      (WebSocket.Conversation.now_onTimer _ _ _) after.socket.now_eq
    rw [active]
    simp only [Active.timer, Active.resume, ← paused]
    refine .of_joined joined ?_ rfl h.draining h.readClosed h.source
    rw [paused]
    exact (Paused.Sound.of_conversation after settled).sound

end Together
end

/-- An action comes out alike on both, and does the same. -/
theorem Together.act (h : c.Together host) {action : Action app.Event} (modest : action.Modest) :
    c.outcome action = outcome { c with host } action ∧ Beside Departed
      (c.meet config (.act action)) (Connection.meet config { c with host } (.act action)) := by
  rcases c.protocol.http_or_webSocket with ⟨pending, active⟩ | ⟨conversation, active⟩
  · simp only [outcome, meet, active, Active.outcome, Active.act]
    exact ⟨trivial, .together (.of_http rfl h.lags h.draining h.readClosed h.source)⟩
  · obtain ⟨opened, sound⟩ := h.talking conversation active
    let met := conversation.resume c.host.channel c.host.now
    let met' := conversation.resume host.channel host.now
    obtain ⟨outcome_eq, sockets⟩ :=
      Socket.Lags.congruence.perform modest (h.lags.joined conversation opened).resume.socket
    have related : WebSocket.Conversation.Related Socket.Lags
        { met with socket := (met.socket.perform action).2 }
        { met' with socket := (met'.socket.perform action).2 } := .mk sockets
    have after : WebSocket.Conversation.Sound host.now
        { met' with socket := (met'.socket.perform action).2 } :=
      sound.sound.of_leads (sound.sound.socket.perform action modest.calm)
        (.perform _ action) rfl
    have paused := related.pause_eq Socket.Lags.congruence
    have now : (met.socket.perform action).2.now = c.host.now :=
      ((Socket.Congruence.clock c.host.now).perform trivial ⟨rfl, rfl⟩).2.2
    have joined := Host.Joined.of_related (Host.Lags.congruence.tables_eq h.lags) related paused now
      after.socket.now_eq
    have resumed := WebSocket.Conversation.resume_pause after.socket.now_eq
    simp only [outcome, meet, active, Active.outcome, Active.act, Active.resume]
    refine ⟨congrArg some outcome_eq, Beside.of_going ?_ h.draining h.draining⟩
    rw [← paused] at resumed ⊢
    refine .of_joined joined ?_ rfl h.draining h.readClosed h.source
    rwa [resumed]

/-- The end of an event at which nothing drains. -/
theorem settle_of_going (draining : c.draining = false) (writable : Bool) :
    c.settle writable = if writable then { c with host := c.host.flush } else c := by
  unfold settle closeIfDrained
  cases writable <;> simp [draining]

theorem Together.settle (h : c.Together host) (writable : Bool) :
    Beside Departed (c.settle writable) { c with host } := by
  rw [settle_of_going h.draining]
  cases writable with
  | false => exact .together h
  | true =>
    have flushed := h.lags.withChannel h.lags.channel.flush
    exact @Beside.together _ _ { c with host := c.host.flush } host
      ⟨flushed, h.draining, h.readClosed, h.source, h.talking⟩

/-- The one that lags sends of what waits, if it can, and both close if they are to. -/
theorem Beside.settle (h : Beside Departing c d) (writable : Bool) :
    Beside Departed (c.settle writable) (d.settle false) := by
  cases h with
  | @together host h =>
    have same : Connection.settle { c with host } false = { c with host } :=
      @settle_of_going _ { c with host } h.draining false
    rw [same]
    exact h.settle writable
  | apart left right => exact .apart (left.settle writable) (right.settle false)

section

variable (modest : React.Within Action.Modest app.react)

include modest

/-- An incident without anything to read concerns only the one that lags. -/
theorem Beside.unread (h : Beside Departed c d) (writable : Bool) :
    Beside Departed (c.onEvent (serving app config) { writable }) d := by
  cases h with
  | apart left right => exact .apart (left.onEvent modest rfl) right
  | together h =>
    unfold Connection.onEvent
    rw [if_neg (Bool.eq_false_iff.1 h.isOpen), if_neg Bool.false_ne_true, if_neg nofun]
    exact h.settle writable

theorem Beside.endOfStream (h : Beside Departing c d) :
    Beside Departing (c.endOfStream (serving app config)) (d.endOfStream (serving app config)) := by
  cases h with
  | together h => exact h.endOfStream modest
  | apart left right => exact .apart (left.endOfStream modest) (right.endOfStream modest)

/-- Both can be read, and the one that lags perhaps be written. -/
theorem Beside.onEvent (h : Beside Departed c d) (writable : Bool) :
    Beside Departed (c.onEvent (serving app config) { readable := true, writable })
      (d.onEvent (serving app config) { readable := true }) := by
  cases h with
  | apart left right => exact .apart (left.onEvent modest rfl) (right.onEvent modest rfl)
  | @together host h =>
    rw [onEvent_readable h.isOpen h.readClosed,
      @onEvent_readable _ { c with host } _ h.isOpen_host h.readClosed]
    obtain ⟨works, later⟩ := h.source.readAll c.chunk []
    simp only
    generalize c.source.readAll c.chunk [] = read at works later ⊢
    obtain ⟨readEnd, bytes, source⟩ := read
    have reads : Together { c with source, inbound := c.inbound ++ bytes } host :=
      ⟨h.lags, h.draining, h.readClosed, later, h.talking⟩
    have processed := @Together.process _ _ _ config modest reads
    cases readEnd with
    | more => exact processed.settle writable
    | ended => exact (processed.endOfStream modest).settle writable
    | failed => exact absurd rfl works

theorem Beside.onTimer (h : Beside Departed c d) (now : Nat) :
    Beside Departed (c.onTimer (serving app config) now) (d.onTimer (serving app config) now) := by
  cases h with
  | apart left right => exact .apart (left.onTimer modest now) (right.onTimer modest now)
  | @together host h =>
    have left : ¬ (c.draining || c.isClosed) = true := by simp [h.draining, h.isOpen]
    have right : ¬ (c.draining || isClosed { c with host }) = true := by
      rw [h.isOpen_host, h.draining]
      exact nofun
    unfold Connection.onTimer
    rw [if_neg left, if_neg right]
    exact (h.timer modest now).settle false

/-- An incident brings about the same on both, and only what it brings in concerns the other one. -/
theorem Beside.meet (h : Beside Departed c d) {incident : Incident app} (mild : incident.Mild) :
    Beside Departed (c.meet config incident) (d.meetAll config incident.inbound?.toList) := by
  cases incident with
  | ready event =>
    obtain ⟨readable, writable, hangup⟩ := event
    obtain rfl : hangup = false := mild
    cases readable with
    | true => exact h.onEvent modest writable
    | false => exact h.unread modest writable
  | timer now => exact @Beside.onTimer _ _ _ config modest h now
  | hangUp | work => exact absurd mild id
  | act action =>
    have mild : action.Modest := mild
    cases h with
    | together h => exact (h.act mild).2
    | apart left right =>
      have met : (Connection.meet config d (.act action)).Departed _ := right.act mild
      exact .apart (left.act mild) met
  | drained =>
    cases h with
    | together h => exact h.settle false
    | apart left right => exact .apart left.toDeparting.closeIfDrained right
  | wire w =>
    cases h with
    | together h =>
      have rewired := h.lags.withChannel (h.lags.channel.withWire mild)
      exact @Beside.together _ _ { c with host := _ } _
        ⟨rewired, h.draining, h.readClosed, h.source, h.talking⟩
    | apart left right => exact .apart (left.withWire mild) right
  | source s =>
    cases h with
    | together h => exact .together ⟨h.lags, h.draining, h.readClosed, mild, h.talking⟩
    | apart left right => exact .apart (left.withSource mild) (right.withSource mild)
  | clock now =>
    cases h with
    | together h =>
      refine .together ⟨h.lags.clock now, h.draining, h.readClosed, h.source, fun _ active => ?_⟩
      obtain ⟨opened, sound⟩ := h.talking _ active
      exact ⟨opened, sound.withHost sound.sound.socket.flowing rfl⟩
    | apart left right => exact .apart (left.withHost rfl) (right.withHost rfl)
  | tables tables =>
    cases h with
    | together h =>
      refine .together ⟨h.lags.tables tables, h.draining, h.readClosed, h.source,
        fun _ active => ?_⟩
      obtain ⟨opened, sound⟩ := h.talking _ active
      exact ⟨opened, sound.withHost sound.sound.socket.flowing rfl⟩
    | apart left right => exact .apart (left.withHost rfl) (right.withHost rfl)

theorem Beside.meetAll (h : Beside Departed c d) {incidents : List (Incident app)}
    (mild : ∀ incident ∈ incidents, incident.Mild) :
    Beside Departed (c.meetAll config incidents)
      (d.meetAll config (incidents.filterMap Incident.inbound?)) := by
  induction incidents generalizing c d with
  | nil => exact h
  | cons incident incidents ih =>
    obtain ⟨first, others⟩ := List.forall_mem_cons.1 mild
    have next := ih (@Beside.meet _ _ _ config modest h _ first) others
    cases brought : incident.inbound? with
    | none | some inbound =>
      rw [brought] at next
      rw [List.filterMap_cons, brought]
      exact next

end

/-- A new connection beside the one whose wire takes everything. -/
theorem beside_fresh {wire : Wire} (works : wire.Sustaining) (tables : app.Tables)
    (now chunk : Nat) : Beside Departed (fresh wire tables now chunk) (fresh {} tables now chunk) :=
  @Beside.together _ _ (fresh wire tables now chunk) { tables, now }
    (.of_http rfl (.mk (.fresh works)) rfl rfl nofun)

/-- What the peer and the application see of a connection: the bytes that were sent, the calls, and
whether it is closed. -/
@[ext] structure Outward (app : App) where
  sent : Bytes
  calls : List (Signal app.Event)
  closed : Bool

def outward (c : Connection app (Active app.Handler)) : Outward app where
  sent := acceptedIn c.host.channel.trace
  calls := callsIn c.host.channel.trace
  closed := c.isClosed

/-- A connection as the server leaves it: once it is closed, it is torn down. -/
def retired (config : Config) (c : Connection app (Active app.Handler)) :
    Connection app (Active app.Handler) :=
  if c.isClosed then c.tearDown (serving app config) else c

/-- Nothing that was written on a connection is missing, also if it was closed behind it. -/
def Whole (c : Connection app (Active app.Handler)) : Prop :=
  acceptedIn c.host.channel.trace = writtenIn c.host.channel.trace

/-- Only a connection that is about to close is over. -/
theorem Together.not_over (h : c.Together host) : ¬ c.protocol.Over c.draining := by
  intro finished
  rcases c.protocol.http_or_webSocket with ⟨pending, active⟩ | ⟨conversation, active⟩
  · rw [active, h.draining] at finished
    cases finished
  · rw [active] at finished
    exact absurd finished.closing (Bool.eq_false_iff.1 (h.talking conversation active).1)

/-- Nobody is to be told of an end that has not come. -/
theorem Together.owed (h : c.Together host) : c.protocol.owed = [] := by
  rcases c.protocol.http_or_webSocket with ⟨pending, active⟩ | ⟨conversation, active⟩
  · rw [active]
    rfl
  · rw [active]
    exact Paused.owed_of_open (h.talking conversation active).1

/-- With nothing left to send, a connection shows what the one beside it has written. -/
theorem Beside.seen (modest : React.Within Action.Modest app.react) (config : Config)
    (h : Beside Departed c d) (empty : c.host.channel.queue = []) :
    c.Whole ∧ (c.retired config).outward.sent = writtenIn d.host.channel.trace ∧
      (c.retired config).outward.calls =
        callsIn d.host.channel.trace ++ d.protocol.owed.map .callback ∧
      ((c.retired config).outward.closed = true ↔ d.protocol.Over d.draining) := by
  cases h with
  | @together host h =>
    have whole := h.lags.channel.left.sent empty
    have same : c.retired config = c := if_neg (Bool.eq_false_iff.1 h.isOpen)
    have none : (Connection.protocol { c with host }).owed = [] := h.owed
    rw [same, none]
    refine ⟨whole, whole.trans h.lags.channel.written,
      h.lags.channel.calls.trans (List.append_nil _).symm, ?_⟩
    rw [outward, h.isOpen]
    exact ⟨nofun, fun finished => absurd finished h.not_over⟩
  | apart left right =>
    have closed := left.closed_of_empty empty
    have shut : c.host.channel.isOpen = false := by simpa [isClosed, Host.isOpen] using closed
    have torn : c.retired config = c.tearDown (serving app config) := if_pos closed
    obtain ⟨sent, calls, still⟩ := left.tearDown modest config closed
    rw [torn]
    exact ⟨(left.channel.sent shut).trans left.channel.written_eq.symm,
      sent.trans right.channel.written_eq.symm, calls.trans right.channel.calls_eq.symm,
      fun _ => right.finished, fun _ => still⟩

/-- A conversation has no keepalive any more, once it closes. -/
def unarmed (app : App) : Regime app where
  served _ := True
  talking st := st.Honest ∧ (st.socket.session.closing = true → st.Ended)

theorem unarmed_sound (app : App) : (unarmed app).Sound where
  react := React.within_true app.react
  ping := trivial
  timer _ := trivial
  flush := trivial
  close := trivial
  serves _ _ _ _ := trivial
  begins _ _ := ⟨nofun, nofun⟩
  moves _ _ move h := ⟨move.honest h.1, move.disarms h.2⟩
  honest _ h := h.1

/-- Whatever has happened, an action comes out alike on both. -/
theorem Beside.outcome_eq (h : Beside Departed c d) (idle : c.Has (unarmed app).Holds)
    (idle' : d.Has (unarmed app).Holds) {action : Action app.Event} (modest : action.Modest) :
    c.outcome action = d.outcome action := by
  cases h with
  | together h => exact (@Together.act _ _ _ {} h action modest).1
  | apart left right =>
    have same : c.protocol.isUpgraded = d.protocol.isUpgraded :=
      left.upgraded_eq.trans right.upgraded_eq.symm
    have finished := left.finished
    have finished' := right.finished
    unfold Has at idle idle'
    unfold outcome
    rcases c.protocol.http_or_webSocket with ⟨pending, active⟩ | ⟨conversation, active⟩ <;>
      rcases d.protocol.http_or_webSocket with ⟨pending', active'⟩ | ⟨conversation', active'⟩ <;>
      rw [active] at same finished idle ⊢ <;> rw [active'] at same finished' idle' ⊢
    · rfl
    · cases same
    · cases same
    · exact congrArg some (Socket.outcome_of_closing finished.closing finished'.closing
        (idle.2 finished.closing).2 (idle'.2 finished'.closing).2 modest)

/-- Two connections of a server get the same bytes, the same timers and the same end of the stream
at the same times, and the application acts in the same way through WebSockets that it kept. Their
wires take what is written however they like, little by little or not for now, but do not fail. The
application keeps to its WebSockets. When something was sent, it notes so, but does nothing. Then an
action comes out alike on both. If in the end nothing waits any more, the peer gets the same bytes
from both, the same routes and handlers are called with the same, and both are closed or both are
open. Neither is missing anything that was written, whatever closed it. -/
theorem backpressure_unseen (modest : React.Within Action.Modest app.react) (config : Config)
    (tables : app.Tables) (now chunk : Nat) {wire wire' : Wire} (works : wire.Sustaining)
    (works' : wire'.Sustaining) {incidents incidents' : List (Incident app)}
    (mild : ∀ incident ∈ incidents, incident.Mild)
    (mild' : ∀ incident ∈ incidents', incident.Mild)
    (same : incidents.filterMap Incident.inbound? = incidents'.filterMap Incident.inbound?) :
    let c := (fresh wire tables now chunk).meetAll config incidents
    let c' := (fresh wire' tables now chunk).meetAll config incidents'
    (∀ action : Action app.Event, action.Modest → c.outcome action = c'.outcome action) ∧
      (c.host.channel.queue = [] → c'.host.channel.queue = [] →
        (c.retired config).outward = (c'.retired config).outward ∧ c.Whole ∧ c'.Whole) := by
  intro c c'
  have beside := @Beside.meetAll _ _ _ config modest (beside_fresh works tables now chunk) _ mild
  have beside' :=
    @Beside.meetAll _ _ _ config modest (beside_fresh works' tables now chunk) _ mild'
  rw [← same] at beside'
  have idle {wire : Wire} {incidents : List (Incident app)} :
      ((fresh wire tables now chunk).meetAll config incidents).Has (unarmed app).Holds := by
    have fresh : (fresh wire tables now chunk).Has (unarmed app).Holds := trivial
    refine (unarmed_sound app).meetAll config fresh ?_
    rintro (_ | _) _ <;> simp [Incident.Within, unarmed]
  refine ⟨fun action within => ?_, fun empty empty' => ?_⟩
  · exact (beside.outcome_eq idle idle within).trans (beside'.outcome_eq idle idle within).symm
  · obtain ⟨whole, sent, calls, closed⟩ := beside.seen modest config empty
    obtain ⟨whole', sent', calls', closed'⟩ := beside'.seen modest config empty'
    refine ⟨?_, whole, whole'⟩
    have together := Bool.eq_iff_iff.2 (closed.trans closed'.symm)
    exact Outward.ext (sent.trans sent'.symm) (calls.trans calls'.symm) together

theorem Beside.plain (h : Beside Departed c d) : c.host.channel.Plain := by
  cases h with
  | together h => exact h.lags.channel.left.plain
  | apart left => exact left.channel.plain

/-- When the socket can be written and takes everything, nothing is left waiting. -/
theorem queue_of_writable (plain : c.host.channel.Plain)
    (accepting : c.host.channel.wire.Accepting) :
    (c.onEvent (serving app config) { writable := true }).host.channel.queue = [] := by
  unfold onEvent
  split
  · rename_i closed
    exact plain.queue_of_closed (by simpa [isClosed, Host.isOpen] using closed)
  · have flushed : c.host.flush.channel.queue = [] := plain.queue_flush accepting
    simp only [Bool.false_eq_true, Bool.false_and, if_false, settle, closeIfDrained, if_true]
    split
    · simp only [close, Host.close, Channel.close_eq_shut, Channel.shut]
      split
      · rfl
      · exact flushed
    · exact flushed

/-- Once the wire takes everything, a connection is done the next time that it can be written. -/
theorem done_of_accepting (modest : React.Within Action.Modest app.react) (config : Config)
    (tables : app.Tables) (now chunk : Nat) {wire last : Wire} (works : wire.Sustaining)
    (accepting : last.Accepting) {incidents : List (Incident app)}
    (mild : ∀ incident ∈ incidents, incident.Mild) :
    ((fresh wire tables now chunk).meetAll config
      (incidents ++ [.wire last, .ready { writable := true }])).host.channel.queue = [] := by
  have beside := @Beside.meetAll _ _ _ config modest (beside_fresh works tables now chunk) _ mild
  rw [meetAll, List.foldl_append]
  exact queue_of_writable (beside.plain.withWire last) accepting

/-- The polite application keeps to its WebSockets. -/
theorem politeApp_modest : React.Within Action.Modest politeApp.react := by
  rintro ⟨⟩ (_ | _ | payload | _ | _)
  · exact ⟨⟨trivial, trivial⟩, fun _ => trivial⟩
  · exact ⟨trivial, fun _ => trivial⟩
  · exact ⟨⟨trivial, trivial⟩, fun _ => trivial⟩
  · exact trivial
  · exact trivial

/-- A request of a peer that becomes a WebSocket. -/
def chatRequest : Bytes :=
  Text.encode ("GET /chat HTTP/1.1\r\nUpgrade: websocket\r\nConnection: Upgrade\r\n" ++
    "Sec-WebSocket-Key: dGhlIHNhbXBsZSBub25jZQ==\r\nSec-WebSocket-Version: 13\r\n\r\n")

/-- The tables of the polite application. -/
def politeTables : politeApp.Tables := { socketRoutes := [⟨0, "/chat", fun _ => some [], ()⟩] }

/-- A peer that upgrades its connection and says something, while the polite application greets it
and parts; then it is parted from once more, from outside, and ends its stream. One wire takes three
bytes and then nothing for now, the other one takes a little now and then; at last both take
everything. -/
theorem polite_backpressure_unseen :
    let said : Bytes := [0x81, 0x82, 0, 0, 0, 0, 0x68, 0x69]
    let slow : Wire := { budget := some 3 }
    let fitful : Wire := { answers := [.accepts 1, .wouldBlock, .interrupted, .accepts 60] }
    let last : List (Incident politeApp) := [.wire {}, .ready { writable := true }]
    let incidents : List (Incident politeApp) :=
      [.source { arrived := chatRequest }, .ready { readable := true }, .act (.setAutoPing 5 5),
        .timer 10, .act (.close .normal "later"), .source { arrived := said },
        .ready { readable := true }, .source { ended := true }, .ready { readable := true }]
    let incidents' : List (Incident politeApp) :=
      [.source { arrived := chatRequest }, .ready { readable := true, writable := true },
        .wire fitful, .ready { writable := true }, .act (.setAutoPing 5 5), .timer 10,
        .act (.close .normal "later"), .source { arrived := said }, .ready { readable := true },
        .drained, .source { ended := true }, .ready { readable := true, writable := true }]
    let c := (fresh slow politeTables 0 4096).meetAll {} (incidents ++ last)
    let c' := (fresh fitful politeTables 0 4096).meetAll {} (incidents' ++ last)
    (∀ action : Action Unit, action.Modest → c.outcome action = c'.outcome action) ∧
      (c.retired {}).outward = (c'.retired {}).outward ∧ c.Whole ∧ c'.Whole := by
  intro said slow fitful last incidents incidents'
  have slowWorks : slow.Sustaining := ⟨nofun, rfl⟩
  have fitfulWorks : fitful.Sustaining := ⟨by simp [fitful], rfl⟩
  have mild : ∀ incident ∈ incidents, incident.Mild := by
    simp [incidents, Incident.Mild, Source.Works, Action.Modest]
  have mild' : ∀ incident ∈ incidents', incident.Mild := by
    simp [incidents', Incident.Mild, Source.Works, Action.Modest, fitfulWorks]
  have atLast : ∀ incident ∈ last, incident.Mild := by
    simp [last, Incident.Mild, Wire.Accepting.plain.sustaining]
  obtain ⟨alike, done⟩ := backpressure_unseen politeApp_modest {} politeTables 0 4096 slowWorks
    fitfulWorks (List.forall_mem_append.2 ⟨mild, atLast⟩) (List.forall_mem_append.2 ⟨mild', atLast⟩)
    rfl
  have emptied := done_of_accepting politeApp_modest {} politeTables 0 4096 slowWorks .plain mild
  have emptied' :=
    done_of_accepting politeApp_modest {} politeTables 0 4096 fitfulWorks .plain mild'
  exact ⟨alike, done emptied emptied'⟩

/-- A connection after an incident, when the application has acted on its WebSocket as it does for
what was noted. -/
def meetMinding (config : Config) (mind : app.Event → List (Action app.Event))
    (c : Connection app (Active app.Handler)) (incident : Incident app) :
    Connection app (Active app.Handler) :=
  let met := c.meet config incident
  let noted := (met.host.channel.since c.host.channel.trace.length).filterMap Signal.note?
  met.meetAll config ((noted.flatMap mind).map .act)

/-- A window whose requests end in an upgrade leaves the connection to the WebSocket. -/
theorem onEvent_upgrade {source : Source} {window : Bytes} {next : Active app.Handler}
    (opened : c.isClosed = false) (readClosed : c.readClosed = false) (goes : c.draining = false)
    (nothing : c.inbound = []) (read : c.source.readAll c.chunk [] = (.more, window, source))
    (some : window ≠ [])
    (consumed : Active.consume config c.protocol window (c.host.record (.window window)) =
      (⟨window.length, next, .switch⟩, host)) :
    c.onEvent (serving app config) { readable := true } =
      { c with source, host, protocol := next } := by
  let reading : Connection app (Active app.Handler) := { c with source, inbound := window }
  let after : Connection app (Active app.Handler) := { c with source, host, protocol := next }
  have processed : reading.process (serving app config) = after := by
    have offers : reading.process (serving app config) = reading.offer _ _ :=
      if_neg (Bool.eq_false_iff.1 goes)
    obtain ⟨length, sized⟩ :=
      Nat.exists_eq_succ_of_ne_zero fun none => some (List.length_eq_zero_iff.1 none)
    have left : window.drop (length + 1) = [] := List.drop_of_length_le (Nat.le_of_eq sized)
    rw [sized] at consumed
    rw [offers, offer_of_open (serving app config) (c := reading) some opened _ consumed]
    simp only [reading, left]
    rw [offer_of_nil _ rfl]
    simp only [after, nothing]
  have settled : after.settle false = after := settle_of_going (c := after) goes false
  rw [onEvent_readable opened readClosed, read]
  simp only [nothing, List.nil_append]
  exact (congrArg (settle · false) processed).trans (settled.trans (by simp only [after, nothing]))

/-- What becomes of the request. -/
def chatServed : Stop politeApp.Handler × Host politeApp :=
  serveWindow {} none chatRequest
    { tables := politeTables, channel := { trace := [.window chatRequest] } }

/-- The connection behind it. -/
def chatting : Connection politeApp (Active politeApp.Handler) where
  host := chatServed.2
  protocol := (Active.ofStop chatRequest chatServed.1).protocol
  chunk := 4096

theorem chatting_eq :
    (fresh {} politeTables 0 4096).meetAll {}
      [.source { arrived := chatRequest }, .ready { readable := true }] = chatting := by
  obtain ⟨all, upgrades⟩ : (Active.ofStop chatRequest chatServed.1).used = chatRequest.length ∧
      (Active.ofStop chatRequest chatServed.1).move = .switch := by
    decide +kernel
  let arriving : Connection politeApp (Active politeApp.Handler) :=
    { fresh {} politeTables 0 4096 with source := { arrived := chatRequest } }
  refine @onEvent_upgrade _ arriving _ {} {} chatRequest _ rfl rfl rfl rfl (by decide +kernel)
    (by decide +kernel) ?_
  rw [← all, ← upgrades]
  rfl

/-- Backpressure is seen by what is done when something was sent, even if that writes nothing. Here
it cancels the keepalive. On a wire that takes everything, that is before the first ping is due; on
one that takes nothing for now, the ping is sent. -/
theorem keepalive_outlasts_wait :
    let mind : Unit → List (Action Unit) := fun _ => [.cancelAutoPing]
    let opening : List (Incident politeApp) :=
      [.source { arrived := chatRequest }, .ready { readable := true }]
    let pings : Incident politeApp := .act (.setAutoPing 10 100)
    let greets : Incident politeApp := .act (.send ⟨true, .text, [0x68, 0x69]⟩ (.note () .done))
    let last : List (Incident politeApp) := [.timer 10, .wire {}, .ready { writable := true }]
    let incidents := opening ++ pings :: greets :: last
    let incidents' := opening ++ pings :: .wire { budget := some 0 } :: greets :: last
    let c := incidents.foldl (meetMinding {} mind) (fresh {} politeTables 0 4096)
    let c' := incidents'.foldl (meetMinding {} mind) (fresh {} politeTables 0 4096)
    React.Within Action.Modest politeApp.react ∧ (∀ action ∈ mind (), action.Modest) ∧
      (∀ incident ∈ incidents, incident.Mild) ∧ (∀ incident ∈ incidents', incident.Mild) ∧
      incidents.filterMap Incident.inbound? = incidents'.filterMap Incident.inbound? ∧
      c.host.channel.queue = [] ∧ c'.host.channel.queue = [] ∧
      (c'.retired {}).outward.sent = (c.retired {}).outward.sent ++ [0x89, 0] := by
  intro mind opening pings greets last incidents incidents' c c'
  have opens : ∀ incident ∈ opening, incident.Mild := by
    simp [opening, Incident.Mild, Source.Works]
  have greets_mild : greets.Mild := ⟨trivial, trivial⟩
  have last_mild : ∀ incident ∈ last, incident.Mild := by
    simp [last, Incident.Mild, Wire.Accepting.plain.sustaining]
  have blocks : Wire.Sustaining { budget := some 0 } := ⟨nofun, rfl⟩
  have began (more : List (Incident politeApp)) :
      (opening ++ more).foldl (meetMinding {} mind) (fresh {} politeTables 0 4096) =
        more.foldl (meetMinding {} mind) chatting := by
    have quiet : (chatting.host.channel.since 0).filterMap Signal.note? = [] := by decide +kernel
    have noted : chatting.meetAll {} ((((chatting.host.channel.since 0).filterMap
        Signal.note?).flatMap mind).map .act) = chatting := by
      rw [quiet]
      rfl
    rw [List.foldl_append]
    refine congrArg (more.foldl (meetMinding {} mind)) (Eq.trans ?_ noted)
    rw [← chatting_eq]
    rfl
  refine ⟨politeApp_modest, by simp [mind, Action.Modest], ?_, ?_, rfl, ?_⟩
  · exact List.forall_mem_append.2 ⟨opens, List.forall_mem_cons.2 ⟨trivial,
      List.forall_mem_cons.2 ⟨greets_mild, last_mild⟩⟩⟩
  · exact List.forall_mem_append.2 ⟨opens, List.forall_mem_cons.2 ⟨trivial,
      List.forall_mem_cons.2 ⟨blocks, List.forall_mem_cons.2 ⟨greets_mild, last_mild⟩⟩⟩⟩
  · rw [show c = _ from began _, show c' = _ from began _]
    decide +kernel

end Connection
end WebServer

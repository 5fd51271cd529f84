import WebServer.Proofs.Connection.Keeping
import WebServer.Proofs.Stream.Delivery
import WebServer.Proofs.WebSocket.Moves

/-!
# What holds of a connection of a server all the time

A connection of a server first serves requests and may then become a WebSocket. While it serves,
its host only goes through the steps of `Host.Serving`; afterwards its conversation only makes
moves. A `Regime` has a property for each of the two times. If the one is kept by the steps, the
other by the moves, and the one turns into the other when a handler is greeted, then the regime
holds of the connection, whatever happens to it.
-/
namespace WebServer

open WebSocket (Came Moves Scope Standing)

variable {app : App}

/-- Whether a signal tells of a dispatch. -/
def Signal.isDispatch {ε : Type} : Signal ε → Bool
  | .note _ | .handled .. | .asked .. => true
  | _ => false

/-- What happens to a host while requests are served. -/
inductive Host.Serving (works : Task app.Event → Prop) : Host app → Host app → Prop where
  | write {host : Host app} (data : Bytes) : Serving works host (host.write data)
  | adopt {host : Host app} {α : Type} (dispatched : Dispatched app α)
    (dispatch : ∀ signal ∈ dispatched.signals, signal.isDispatch = true) :
    Serving works host (host.adopt dispatched).2
  | occasion {host : Host app} (signal : Signal app.Event) (occasion : signal.isOccasion = true) :
    Serving works host (host.record signal)
  | work {host : Host app} (tasks : List (Task app.Event)) (within : ∀ task ∈ tasks, works task) :
    Serving works host { host with channel := host.channel.run tasks }
  | wire {host : Host app} (wire : Wire) :
    Serving works host { host with channel := { host.channel with wire } }
  | clock {host : Host app} (now : Nat) : Serving works host { host with now }
  | tables {host : Host app} (tables : app.Tables) : Serving works host { host with tables }

/-- What is done to a connection of a server, and what holds of it: of the host while requests are
served, of the conversation after an upgrade. -/
structure Regime (app : App) where
  scope : Scope app.Event := {}
  served : Host app → Prop
  talking : Standing app.Event → Prop

/-- The socket of a new conversation, when its handler is greeted. -/
def Host.greeting (host : Host app) : Standing app.Event where
  socket :=
    ({ channel := host.channel, now := host.now } : WebSocket.Socket app.Event).record
      (.callback .opened)
  told := false

namespace Regime

variable (r : Regime app)

/-- The regime holds of a protocol and its host. -/
def Holds (active : Active app.Handler) (host : Host app) : Prop :=
  match active with
  | .http _ => r.served host
  | .webSocket conversation => r.talking (conversation.resume host.channel host.now).standing

/-- A regime that is kept. -/
structure Sound : Prop where
  react : WebSocket.React.Within r.scope.acts app.react
  ping : r.scope.acts (.ping [])
  timer : ∀ now, r.scope.times now
  flush : r.scope.works .flush
  close : r.scope.works (.complete (.close .done))
  serves : ∀ host host', Host.Serving r.scope.works host host' → r.served host → r.served host'
  begins : ∀ host, r.served host → r.talking host.greeting
  moves : ∀ st st', WebSocket.Move r.scope st st' → r.talking st → r.talking st'
  honest : ∀ st, r.talking st → st.Honest

end Regime

namespace App

theorem isDispatch_tryRoute (tables : app.Tables) (request : Http.Request) :
    ∀ signal ∈ (tryRoute tables request).signals, signal.isDispatch = true := by
  unfold tryRoute
  split
  · simp
  · simp [Signal.isDispatch]

theorem isDispatch_ask (request : Http.Request) (tables : app.Tables)
    (signals : List (Signal app.Event)) (before : ∀ signal ∈ signals, signal.isDispatch = true)
    (routes : List (SocketRoute app.Gate)) :
    ∀ signal ∈ (ask request tables signals routes).signals, signal.isDispatch = true :=
  forall_ask request (fun _ _ => rfl) (fun _ => rfl) tables before routes

end App

/-- What an answer leaves behind under a regime. -/
def Sequel.Upheld (r : Regime app) (host : Host app) : Sequel app.Handler → Prop
  | .next | .close => r.served host
  | .upgraded conversation => r.talking (conversation.resume host.channel host.now).standing

namespace Regime.Sound

variable {r : Regime app} (sound : r.Sound)

include sound

/-- Moves of a conversation that is put aside behind them. -/
theorem resume {st : Standing app.Event} (h : r.talking st)
    {after : WebSocket.Conversation app.Event app.Handler} (moves : Moves r.scope st after.standing)
    (now : Nat) : r.talking (after.pause.resume after.socket.channel now).standing :=
  Moves.preserve sound.moves (moves.tail (.clock now)) h

section Serving

variable {host : Host app}

theorem reject (h : r.served host) (failure : Http.Failure) (closes : Bool) :
    r.served (host.reject failure closes) := sound.serves _ _ (.write _) h

theorem turnDown (h : r.served host) (failure : Http.Failure) (close : Bool) :
    (host.turnDown failure close).1.Upheld r (host.turnDown failure close).2 := by
  unfold Host.turnDown Sequel.ofClose
  simp only
  split <;> exact sound.reject h _ _

/-- The conversation begins with an upgrade. -/
theorem greeted (h : r.served host) (key : String) (handler : app.Handler) (limit : Nat) :
    r.talking ((host.greeted key handler limit).pause.resume
      (host.greeted key handler limit).socket.channel host.now).standing := by
  have answered := sound.serves _ _ (.write (WebSocket.Handshake.response key).toBytes) h
  let c : WebSocket.Conversation app.Event app.Handler :=
    { socket := { channel := host.channel.write (WebSocket.Handshake.response key).toBytes
                  now := host.now }
      handler, limit }
  have moves : Moves r.scope _ (c.start app.react).standing :=
    WebSocket.Conversation.start_moves sound.react c
  exact sound.resume (sound.begins _ answered) moves host.now

theorem openSocket (h : r.served host) (request : Http.Request) (limit : Nat) :
    match (host.openSocket request limit).1 with
    | .error _ => r.served (host.openSocket request limit).2
    | .ok conversation =>
      r.talking (conversation.resume (host.openSocket request limit).2.channel
        (host.openSocket request limit).2.now).standing := by
  rw [Host.openSocket_eq]
  cases WebSocket.Handshake.validate request with
  | error fault => exact h
  | ok key =>
    have asked := sound.serves _ _ (.adopt (App.routeSocket host.tables request)
      (App.isDispatch_ask request host.tables [] nofun _)) h
    simp only
    cases (App.routeSocket host.tables request).result with
    | error failure => exact asked
    | ok handler => exact sound.greeted asked key handler limit

theorem answer (h : r.served host) (config : Config) (request : Http.Request) (body : Bytes) :
    (host.answer config request body).1.Upheld r (host.answer config request body).2 := by
  rw [Host.answer_eq]
  cases request.attachBody body with
  | error fault => exact sound.turnDown h _ _
  | ok whole =>
    simp only
    split
    · have opened := sound.openSocket h whole config.maxMessageSize
      generalize host.openSocket whole config.maxMessageSize = opening at opened ⊢
      obtain ⟨result, after⟩ := opening
      cases result with
      | error failure => exact sound.turnDown opened _ _
      | ok conversation => exact opened
    · have tried := sound.serves _ _ (.adopt (App.tryRoute host.tables whole)
        (App.isDispatch_tryRoute host.tables whole)) h
      cases (App.tryRoute host.tables whole).result with
      | error failure => exact sound.turnDown tried _ _
      | ok response =>
        simp only [Sequel.ofClose]
        split <;> exact sound.serves _ _ (.write _) tried

theorem serveWindow (h : r.served host) (config : Config) (pending : Pending)
    (window whole : Bytes) :
    r.Holds (Active.ofStop whole (WebServer.serveWindow config pending window host).1).protocol
      (WebServer.serveWindow config pending window host).2 := by
  induction pending, window using serveWindow_induction generalizing host with
  | head window ih =>
    rw [serveWindow_none]
    split
    · exact h
    · exact sound.reject h _ _
    · rename_i fault rest opening
      simp only
      split
      · exact sound.reject h _ _
      · exact ih _ _ (Opening.length_rest_lt (.inr ⟨_, opening⟩)) (sound.reject h _ _)
    · rename_i request length rest opening
      exact ih _ _ (Opening.length_rest_lt (.inl ⟨_, _, opening⟩)) h
  | body request length window ih =>
    rw [serveWindow_some]
    split
    · exact h
    · rename_i body rest split
      have shorter := (Bytes.splitExactly?_length split).2
      have sequel := sound.answer h config request body
      generalize host.answer config request body = answered at sequel ⊢
      obtain ⟨result, after⟩ := answered
      cases result with
      | next => exact ih rest (by omega) sequel
      | close => exact sequel
      | upgraded conversation => exact sequel

end Serving

variable {active : Active app.Handler} {host : Host app}

theorem occasion (h : r.Holds active host) {signal : Signal app.Event}
    (occasion : signal.isOccasion = true) : r.Holds active (host.record signal) := by
  cases active with
  | http pending => exact sound.serves _ _ (.occasion signal occasion) h
  | webSocket conversation => exact sound.moves _ _ (.occasion signal occasion) h

theorem work (h : r.Holds active host) {tasks : List (Task app.Event)}
    (within : ∀ task ∈ tasks, r.scope.works task) :
    r.Holds active { host with channel := host.channel.run tasks } := by
  cases active with
  | http pending => exact sound.serves _ _ (.work tasks within) h
  | webSocket conversation => exact sound.moves _ _ (.work tasks within) h

theorem wire (h : r.Holds active host) (wire : Wire) :
    r.Holds active { host with channel := { host.channel with wire } } := by
  cases active with
  | http pending => exact sound.serves _ _ (.wire wire) h
  | webSocket conversation => exact sound.moves _ _ (.wire wire) h

theorem clock (h : r.Holds active host) (now : Nat) : r.Holds active { host with now } := by
  cases active with
  | http pending => exact sound.serves _ _ (.clock now) h
  | webSocket conversation => exact sound.moves _ _ (.clock now) h

theorem tables (h : r.Holds active host) (tables : app.Tables) :
    r.Holds active { host with tables } := by
  cases active with
  | http pending => exact sound.serves _ _ (.tables tables) h
  | webSocket conversation => exact h

/-- The end of the stream and the end of the connection are told in the same way. -/
theorem finish (h : r.Holds active host) {signal : Signal app.Event}
    (occasion : signal.isOccasion = true) :
    r.Holds (active.finish (host.record signal)).1 (active.finish (host.record signal)).2 := by
  have shown := sound.occasion h occasion
  cases active with
  | http pending => exact shown
  | webSocket conversation =>
    exact sound.resume shown (WebSocket.Conversation.finish_moves sound.react _) host.now

theorem consume (config : Config) (h : r.Holds active host) (window : Bytes) :
    r.Holds (active.consume config window (host.record (.window window))).1.protocol
      (active.consume config window (host.record (.window window))).2 := by
  have shown : r.Holds active (host.record (.window window)) := sound.occasion h rfl
  cases active with
  | http pending => exact sound.serveWindow shown config pending window window
  | webSocket conversation =>
    have moves := WebSocket.Conversation.takeFrames_moves sound.react _ (sound.honest _ shown)
      window fun payload closes => ⟨window, List.mem_cons_self, closes⟩
    have taken := sound.resume shown moves host.now
    rw [Active.consume_webSocket]
    simp only
    split <;> exact taken

theorem onTimer (h : r.Holds active host) (now : Nat) :
    r.Holds (active.timer now (host.record .timer)).1
      (active.timer now (host.record .timer)).2 := by
  have shown : r.Holds active (host.record .timer) := sound.occasion h rfl
  cases active with
  | http pending => exact shown
  | webSocket conversation =>
    exact sound.resume shown
      (WebSocket.Conversation.onTimer_moves sound.react sound.ping _ now (sound.timer now)) host.now

/-- A connection of a server keeps to a sound regime. -/
theorem keeps (config : Config) : (serving app config).Keeps r.Holds where
  consume := fun window h => sound.consume config h window
  peerClosed := fun h => sound.finish h rfl
  tornDown := fun h => sound.finish h rfl
  timer := fun now h => sound.onTimer h now
  flush := fun h => sound.work h fun task member => by
    rw [List.mem_singleton.1 member]
    exact sound.flush
  close := fun h => sound.work h fun task member => by
    rw [List.mem_singleton.1 member]
    exact sound.close

end Regime.Sound

/-- What can happen to a connection of a server, from its beginning on. -/
inductive Incident (app : App) where
  /-- The socket becomes ready. -/
  | ready (event : Readiness)
  | timer (now : Nat)
  /-- The peer is found to have vanished. -/
  | hangUp
  /-- It is seen whether everything was sent. -/
  | drained
  /-- The wire takes other bytes than before, or fails. -/
  | wire (wire : Wire)
  /-- Bytes arrive, or the end of the stream, and reads are answered in other ways. -/
  | source (source : Source)
  | clock (now : Nat)
  /-- The routes change. -/
  | tables (tables : app.Tables)
  /-- Somebody writes, flushes or closes through a handle of the connection. -/
  | work (tasks : List (Task app.Event))
  /-- Somebody acts through a WebSocket that was kept. -/
  | act (action : WebSocket.Action app.Event)

/-- An incident that keeps to what a scope allows. -/
def Incident.Within (scope : Scope app.Event) : Incident app → Prop
  | .work tasks => ∀ task ∈ tasks, scope.works task
  | .act action => scope.acts action
  | _ => True

/-- An action on the WebSocket of a connection, if it has one. -/
def Active.act (active : Active app.Handler) (action : WebSocket.Action app.Event)
    (host : Host app) : Active app.Handler × Host app :=
  match active with
  | .http pending => (.http pending, host)
  | .webSocket conversation =>
    resume conversation host fun c => { c with socket := (c.socket.perform action).2 }

namespace Connection

/-- A connection after an incident. -/
def meet (config : Config) (c : Connection app (Active app.Handler)) :
    Incident app → Connection app (Active app.Handler)
  | .ready event => c.onEvent (serving app config) event
  | .timer now => c.onTimer (serving app config) now
  | .hangUp => c.hangUp (serving app config)
  | .drained => c.closeIfDrained
  | .wire wire => { c with host := { c.host with channel := { c.host.channel with wire } } }
  | .source source => { c with source }
  | .clock now => { c with host := { c.host with now } }
  | .tables tables => { c with host := { c.host with tables } }
  | .work tasks => { c with host := { c.host with channel := c.host.channel.run tasks } }
  | .act action =>
    let (protocol, host) := c.protocol.act action c.host
    { c with protocol, host }

/-- A connection after some incidents. -/
def meetAll (config : Config) (c : Connection app (Active app.Handler))
    (incidents : List (Incident app)) : Connection app (Active app.Handler) :=
  incidents.foldl (meet config) c

end Connection

namespace Regime.Sound

variable {r : Regime app} (sound : r.Sound) {c : Connection app (Active app.Handler)}

include sound

theorem act {active : Active app.Handler} {host : Host app} (h : r.Holds active host)
    {action : WebSocket.Action app.Event} (within : r.scope.acts action) :
    r.Holds (active.act action host).1 (active.act action host).2 := by
  cases active with
  | http pending => exact h
  | webSocket conversation =>
    let c := conversation.resume host.channel host.now
    have moves : Moves r.scope c.standing
        { c with socket := (c.socket.perform action).2 : WebSocket.Conversation _ _ }.standing :=
      .single (.act action within)
    exact sound.resume h moves host.now

theorem meet (config : Config) (h : c.Has r.Holds) {incident : Incident app}
    (within : incident.Within r.scope) : (c.meet config incident).Has r.Holds := by
  have keeps := sound.keeps config
  cases incident with
  | ready event => exact keeps.onEvent h event
  | timer now => exact keeps.onTimer h now
  | hangUp => exact keeps.hangUp h
  | drained => exact keeps.closeIfDrained h
  | wire wire => exact sound.wire h wire
  | source => exact h
  | clock now => exact sound.clock h now
  | tables tables => exact sound.tables h tables
  | work tasks => exact sound.work h within
  | act action => exact sound.act h within

/-- A sound regime holds through all that happens to a connection. -/
theorem meetAll (config : Config) (h : c.Has r.Holds) {incidents : List (Incident app)}
    (within : ∀ incident ∈ incidents, incident.Within r.scope) :
    (c.meetAll config incidents).Has r.Holds := by
  induction incidents generalizing c with
  | nil => exact h
  | cons incident incidents ih =>
    obtain ⟨first, others⟩ := List.forall_mem_cons.1 within
    exact ih (sound.meet config h first) others

end Regime.Sound
end WebServer

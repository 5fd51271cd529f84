import WebServer.Server.Serving

/-!
# Relations that the server respects

Two connections may differ in what the server never looks at, or never yet. A relation between
sockets is a congruence if the few things that are ever done to a socket lead from related sockets
to related ones (`Socket.Congruence`). Then every function of a conversation comes to the same
result on both sides and leaves them related, and, if hosts are related so that the two fit
together (`Host.Congruence`), so does the serving of a window. The lemmas follow the functions.
-/
namespace WebServer

variable {ε σ : Type}

namespace WebSocket

/-- A script whose actions are of a kind, however they come out. -/
def Script.Within (acts : Action ε → Prop) : Script ε σ → Prop
  | .done _ => True
  | .panic _ => True
  | .note _ next => next.Within acts
  | .act action next => acts action ∧ ∀ outcome, (next outcome).Within acts

/-- A handler whose actions are of a kind. -/
def React.Within (acts : Action ε → Prop) (react : React ε σ) : Prop :=
  ∀ handler callback, (react handler callback).Within acts

theorem Script.within_true (script : Script ε σ) : script.Within fun _ => True := by
  induction script with
  | done state => trivial
  | panic state => trivial
  | note event next ih => exact ih
  | act action next ih => exact ⟨trivial, ih⟩

theorem React.within_true (react : React ε σ) : react.Within fun _ => True :=
  fun _ _ => Script.within_true _

/-- A relation between sockets that no conversation tells apart, if its handler takes only actions
of a kind. -/
structure Socket.Congruence (acts : Action ε → Prop) (R : Socket ε → Socket ε → Prop) :
    Prop where
  session_eq : ∀ {s s'}, R s s' → s.session = s'.session
  now_eq : ∀ {s s'}, R s s' → s.now = s'.now
  isOpen_eq : ∀ {s s'}, R s s' → s.isOpen = s'.isOpen
  note : ∀ {s s'} event, R s s' → R (s.note event) (s'.note event)
  callback : ∀ {s s'} callback, R s s' →
    R (s.record (.callback callback)) (s'.record (.callback callback))
  keepalive : ∀ {s s'} keepalive, R s s' →
    R { s with session := { s.session with keepalive } }
      { s' with session := { s'.session with keepalive } }
  send : ∀ {s s'} frame after, acts (.send frame after) → R s s' → s.session.closing = false →
    R (s.handOver frame after) (s'.handOver frame after)
  beginClosing : ∀ {s s'} origin code reason payload, R s s' → s.session.closing = false →
    R (s.beginClosing origin code reason payload) (s'.beginClosing origin code reason payload)
  takeNotice : ∀ {s s'}, R s s' → s.session.closing = true → R s.takeNotice.2 s'.takeNotice.2
  write : ∀ {s s'} data after, acts (.write data after) → R s s' →
    R { s with channel := s.channel.writeThen data after }
      { s' with channel := s'.channel.writeThen data after }
  closeConnection : ∀ {s s'}, acts .closeConnection → R s s' →
    R { s with channel := s.channel.close } { s' with channel := s'.channel.close }

namespace Socket.Congruence

variable {acts : Action ε → Prop} {R : Socket ε → Socket ε → Prop}
  (cong : Socket.Congruence acts R) {s s' : Socket ε}

include cong

/-- The keepalive may change alike. -/
theorem withKeepalive (h : R s s') (keepalive : Option Keepalive) :
    R ⟨{ s.session with keepalive }, s.channel, s.now⟩
      ⟨{ s.session with keepalive }, s'.channel, s.now⟩ := by
  have kept := cong.keepalive keepalive h
  rwa [← cong.session_eq h, ← cong.now_eq h] at kept

theorem echoClose (h : R s s') (code : CloseCode) (reason : String) (payload : Bytes) :
    R (s.echoClose code reason payload) (s'.echoClose code reason payload) := by
  unfold Socket.echoClose
  rw [← cong.session_eq h]
  split
  · exact h
  · rename_i opened
    exact cong.beginClosing _ _ _ _ h (Bool.eq_false_iff.2 opened)

theorem pongReceived (h : R s s') : R s.pongReceived s'.pongReceived := by
  simp only [Socket.pongReceived, ← cong.session_eq h, ← cong.now_eq h]
  exact cong.withKeepalive h _

theorem tick (h : R s s') (now : Nat) :
    (s.tick now).1 = (s'.tick now).1 ∧ R (s.tick now).2 (s'.tick now).2 := by
  simp only [Socket.tick, ← cong.session_eq h, ← cong.now_eq h]
  split
  · exact ⟨rfl, h⟩
  · exact ⟨rfl, cong.withKeepalive h _⟩

theorem close (h : R s s') (code : CloseCode) (reason : String) :
    (s.perform (.close code reason)).1 = (s'.perform (.close code reason)).1 ∧
      R (s.perform (.close code reason)).2 (s'.perform (.close code reason)).2 := by
  simp only [Socket.perform, Socket.close, ← cong.session_eq h]
  split
  · exact ⟨rfl, h⟩
  · split
    · exact ⟨rfl, h⟩
    · rename_i opened
      exact ⟨rfl, cong.beginClosing _ _ _ _ h (Bool.eq_false_iff.2 opened)⟩

theorem perform {action : Action ε} (within : acts action) (h : R s s') :
    (s.perform action).1 = (s'.perform action).1 ∧
      R (s.perform action).2 (s'.perform action).2 := by
  have same := cong.session_eq h
  cases action with
  | send frame after =>
    simp only [Socket.perform, Socket.send, ← same]
    split
    · exact ⟨rfl, h⟩
    · split
      · exact ⟨rfl, h⟩
      · rename_i opened
        exact ⟨rfl, cong.send _ _ within h (Bool.eq_false_iff.2 opened)⟩
  | close code reason => exact cong.close h code reason
  | setAutoPing interval timeout =>
    simp only [Socket.perform, Socket.setAutoPing, ← same, ← cong.now_eq h]
    split
    · exact ⟨rfl, h⟩
    · split
      · exact ⟨rfl, h⟩
      · exact ⟨rfl, cong.withKeepalive h _⟩
  | cancelAutoPing => exact ⟨rfl, cong.keepalive none h⟩
  | write data after => exact ⟨rfl, cong.write _ _ within h⟩
  | closeConnection => exact ⟨rfl, cong.closeConnection within h⟩
  | isOpen => exact ⟨congrArg Outcome.isOpen (cong.isOpen_eq h), h⟩
  | stats =>
    refine ⟨?_, h⟩
    simp only [Socket.perform, Socket.stats, same]

theorem script {script : Script ε σ} (within : script.Within acts) (h : R s s') :
    (script.run s).1 = (script.run s').1 ∧ R (script.run s).2 (script.run s').2 := by
  induction script generalizing s s' with
  | done state => exact ⟨rfl, h⟩
  | panic state => exact ⟨rfl, h⟩
  | note event next ih => exact ih within (cong.note _ h)
  | act action next ih =>
    obtain ⟨outcome, after⟩ := cong.perform within.1 h
    simp only [Script.run, ← outcome]
    exact ih _ (within.2 _) after

end Socket.Congruence

/-- One turn of taking frames, without the evidence that the loop ends. -/
theorem Conversation.takeFrames_eq (react : React ε σ) (c : Conversation ε σ) (window : Bytes) :
    c.takeFrames react window =
      if (c.settle react).socket.session.closing then (none, c.settle react)
      else match Frame.decode (c.settle react).limit window with
        | .error fault => (none, (c.settle react).fail react (.frame fault))
        | .ok none => (some window, c.settle react)
        | .ok (some (frame, used)) =>
          ((c.settle react).onFrame react frame).takeFrames react (window.drop used) := by
  rw [takeFrames]
  split
  · rfl
  · split <;> rename_i decoded <;> rw [decoded]

/-- Conversations that differ only in their sockets, which are related. -/
inductive Conversation.Related (R : Socket ε → Socket ε → Prop) :
    Conversation ε σ → Conversation ε σ → Prop where
  | mk {handler : σ} {assembling : Option (Opcode × Bytes)} {limit : Nat} {closeNotified : Bool}
    {s s' : Socket ε} (same : R s s') :
    Related R ⟨s, handler, assembling, limit, closeNotified⟩
      ⟨s', handler, assembling, limit, closeNotified⟩

namespace Conversation.Related

variable {acts : Action ε → Prop} {R : Socket ε → Socket ε → Prop} {c c' : Conversation ε σ}

theorem socket (h : c.Related R c') : R c.socket c'.socket := by
  cases h with
  | mk same => exact same

theorem limit_eq (h : c.Related R c') : c.limit = c'.limit := by
  cases h with
  | mk same => rfl

variable (cong : Socket.Congruence acts R)

include cong

theorem pause_eq (h : c.Related R c') : c.pause = c'.pause := by
  cases h with
  | mk same => simp only [pause, cong.session_eq same]

theorem close (h : c.Related R c') (code : CloseCode) (reason : String) :
    (c.close code reason).Related R (c'.close code reason) := by
  cases h with
  | mk same => exact .mk (cong.close same code reason).2

variable {react : React ε σ} (within : react.Within acts)

include within

theorem call (h : c.Related R c') (callback : Callback) :
    (c.call react callback).Related R (c'.call react callback) := by
  cases h with
  | @mk handler _ _ _ s s' same =>
    obtain ⟨ending, socket⟩ := cong.script (within handler callback) (cong.callback callback same)
    simp only [Conversation.call, ← ending]
    split
    · exact .mk socket
    · exact close cong (.mk socket) _ _

theorem notifyClose (h : c.Related R c') (code : CloseCode) (reason : String) :
    (c.notifyClose react code reason).Related R (c'.notifyClose react code reason) := by
  cases h with
  | mk same =>
    simp only [Conversation.notifyClose]
    split
    · exact .mk same
    · exact call cong within (.mk same) _

theorem settle (h : c.Related R c') : (c.settle react).Related R (c'.settle react) := by
  cases h with
  | @mk _ _ _ _ s s' same =>
    have notice : s.takeNotice.1 = s'.takeNotice.1 :=
      congrArg Session.notice (cong.session_eq same)
    simp only [Conversation.settle, ← cong.session_eq same, ← notice]
    split
    · exact .mk same
    · rename_i closing
      have taken := cong.takeNotice same (by simpa using closing)
      split
      · exact notifyClose cong within (.mk taken) _ _
      · exact .mk taken

theorem fail (h : c.Related R c') (violation : Violation) :
    (c.fail react violation).Related R (c'.fail react violation) :=
  settle cong within (close cong h _ _)

theorem start (h : c.Related R c') : (c.start react).Related R (c'.start react) :=
  settle cong within (call cong within h .opened)

theorem deliver (h : c.Related R c') (opcode : Opcode) (payload : Bytes) :
    (c.deliver react opcode payload).Related R (c'.deliver react opcode payload) := by
  unfold Conversation.deliver
  split
  · exact fail cong within h _
  · exact call cong within h _

theorem gather (h : c.Related R c') (opcode : Opcode) (done payload : Bytes) (fin : Bool) :
    (c.gather react opcode done payload fin).Related R
      (c'.gather react opcode done payload fin) := by
  cases h with
  | mk same =>
    simp only [Conversation.gather]
    split
    · exact fail cong within (.mk same) _
    · split
      · exact deliver cong within (.mk same) _ _
      · exact .mk same

theorem onFrame (h : c.Related R c') (frame : Frame) :
    (c.onFrame react frame).Related R (c'.onFrame react frame) := by
  cases h with
  | mk same =>
    simp only [Conversation.onFrame]
    split
    · exact fail cong within (.mk same) _
    · exact fail cong within (.mk same) _
    · split
      · exact deliver cong within (.mk same) _ _
      · exact gather cong within (.mk same) _ _ _ _
    · split
      · exact deliver cong within (.mk same) _ _
      · exact gather cong within (.mk same) _ _ _ _
    · exact fail cong within (.mk same) _
    · exact gather cong within (.mk same) _ _ _ _
    · split
      · exact fail cong within (.mk same) _
      · exact notifyClose cong within (.mk (cong.echoClose same _ _ _)) _ _
    · exact call cong within (.mk same) _
    · exact call cong within (.mk (cong.pongReceived same)) _

/-- The same frames are taken, and the same bytes are left. -/
theorem takeFrames (h : c.Related R c') (window : Bytes) :
    (c.takeFrames react window).1 = (c'.takeFrames react window).1 ∧
      (c.takeFrames react window).2.Related R (c'.takeFrames react window).2 := by
  induction hl : window.length using Nat.strongRecOn generalizing c c' window with
  | ind length ih =>
    have settled := settle cong within h
    rw [takeFrames_eq, takeFrames_eq, ← cong.session_eq settled.socket, ← settled.limit_eq]
    split
    · exact ⟨rfl, settled⟩
    · split
      · exact ⟨rfl, fail cong within settled _⟩
      · exact ⟨rfl, settled⟩
      · rename_i frame used taken
        have := Frame.decode_used taken
        refine ih _ ?_ (onFrame cong within settled frame) _ rfl
        rw [List.length_drop]
        omega

/-- If the sockets are related once the notice is taken, the end of the stream is told alike. -/
theorem finish {S : Socket ε → Socket ε → Prop} (h : c.Related S c')
    (session_eq : c.socket.session = c'.socket.session)
    (taken : R c.socket.takeNotice.2 c'.socket.takeNotice.2) :
    (c.finish react).Related R (c'.finish react) := by
  cases h with
  | @mk _ _ _ _ s s' =>
    have notice : s.takeNotice.1 = s'.takeNotice.1 := congrArg Session.notice session_eq
    simp only [Conversation.finish, ← notice]
    exact notifyClose cong within (.mk taken) _ _

theorem onTimer (pings : acts (.ping [])) (h : c.Related R c') (now : Nat) :
    (c.onTimer react now).Related R (c'.onTimer react now) := by
  cases h with
  | mk same =>
    obtain ⟨tick, ticked⟩ := cong.tick same now
    simp only [Conversation.onTimer, ← tick]
    refine settle cong within ?_
    split
    · exact .mk ticked
    · exact .mk (cong.perform pings ticked).2
    · exact close cong (.mk ticked) _ _

end Conversation.Related

section Clock

/-- No conversation moves the clock. -/
theorem Socket.Congruence.clock (now : Nat) :
    Socket.Congruence (fun _ : Action ε => True) fun s s' => s = s' ∧ s.now = now where
  session_eq := fun ⟨same, _⟩ => congrArg Socket.session same
  now_eq := fun ⟨same, _⟩ => congrArg Socket.now same
  isOpen_eq := fun ⟨same, _⟩ => congrArg Socket.isOpen same
  note := fun _ ⟨same, clock⟩ => ⟨same ▸ rfl, clock⟩
  callback := fun _ ⟨same, clock⟩ => ⟨same ▸ rfl, clock⟩
  keepalive := fun _ ⟨same, clock⟩ => ⟨same ▸ rfl, clock⟩
  send := fun _ _ _ ⟨same, clock⟩ _ => ⟨same ▸ rfl, clock⟩
  beginClosing := fun _ _ _ _ ⟨same, clock⟩ _ => ⟨same ▸ rfl, clock⟩
  takeNotice := fun ⟨same, clock⟩ _ => ⟨same ▸ rfl, clock⟩
  write := fun _ _ _ ⟨same, clock⟩ => ⟨same ▸ rfl, clock⟩
  closeConnection := fun _ ⟨same, clock⟩ => ⟨same ▸ rfl, clock⟩

namespace Conversation

variable (react : React ε σ) (c : Conversation ε σ)

theorem resume_pause {c : Conversation ε σ} {now : Nat} (h : c.socket.now = now) :
    c.pause.resume c.socket.channel now = c := by
  subst h
  rfl

theorem related_self : c.Related (fun s s' => s = s' ∧ s.now = c.socket.now) c := .mk ⟨rfl, rfl⟩

theorem now_start : (c.start react).socket.now = c.socket.now :=
  (Related.start (.clock _) react.within_true c.related_self).socket.2

theorem now_takeFrames (window : Bytes) :
    (c.takeFrames react window).2.socket.now = c.socket.now :=
  (Related.takeFrames (.clock _) react.within_true c.related_self window).2.socket.2

theorem now_onTimer (time : Nat) : (c.onTimer react time).socket.now = c.socket.now :=
  (Related.onTimer (.clock _) react.within_true trivial c.related_self time).socket.2

end Conversation
end Clock
end WebSocket

variable {app : App}

/-- One turn of serving, with a head whose body is awaited. -/
theorem serveWindow_some (config : Config) (request : Http.Request) (length : Nat)
    (window : Bytes) (host : Host app) :
    serveWindow config (some (request, length)) window host =
      match Bytes.splitExactly? length window with
      | none => (.wait (some (request, length)) window, host)
      | some (body, rest) =>
        let answered := host.answer config request body
        match answered.1 with
        | .next => serveWindow config none rest answered.2
        | .close => (.close, answered.2)
        | .upgraded conversation => (.upgraded conversation rest, answered.2) := by
  rw [serveWindow]
  split <;> rename_i split <;> simp only [split]
  generalize host.answer _ _ _ = answered
  obtain ⟨sequel, host⟩ := answered
  cases sequel <;> rfl

/-- One turn of serving at the beginning of a head. -/
theorem serveWindow_none (config : Config) (window : Bytes) (host : Host app) :
    serveWindow config none window host =
      match Opening.ofWindow config window with
      | .incomplete => (.wait none window, host)
      | .unframed fault => (.close, host.reject (.request fault) true)
      | .malformed fault rest =>
        let closes := Host.closesOn false (.request fault)
        let host := host.reject (.request fault) closes
        if closes then (.close, host) else serveWindow config none rest host
      | .request request length rest =>
        serveWindow config (some (request, length)) rest host := by
  rw [serveWindow]
  split <;> rename_i opening <;> rw [opening]

/-- What holds of a window because it holds of what is left behind a head or a body holds of every
window that is served. A body may be empty, but then the next head is not. -/
theorem serveWindow_induction {motive : Pending → Bytes → Prop}
    (head : ∀ window,
      (∀ pending rest, rest.length < window.length → motive pending rest) → motive none window)
    (body : ∀ request length window,
      (∀ rest, rest.length ≤ window.length → motive none rest) →
      motive (some (request, length)) window)
    (pending : Pending) (window : Bytes) : motive pending window := by
  induction hl : window.length using Nat.strongRecOn generalizing pending window with
  | ind length ih =>
    have shorter (window : Bytes) (h : window.length ≤ length) : motive none window :=
      head window fun pending rest less =>
          ih rest.length (Nat.lt_of_lt_of_le less h) pending rest rfl
    match pending with
    | none => exact shorter window (Nat.le_of_eq hl)
    | some (request, length) =>
      exact body request length window fun rest less => shorter rest (hl ▸ less)

namespace App

/-- What is shown when socket routes are asked: the questions, and what the application notes. -/
theorem forall_ask {kind : Signal app.Event → Prop} (request : Http.Request)
    (asked : ∀ route captures, kind (.asked route request captures))
    (note : ∀ event, kind (.note event)) (tables : app.Tables) {signals : List (Signal app.Event)}
    (before : ∀ signal ∈ signals, kind signal) (routes : List (SocketRoute app.Gate)) :
    ∀ signal ∈ (ask request tables signals routes).signals, kind signal := by
  induction routes generalizing tables signals with
  | nil => exact before
  | cons route routes ih =>
    unfold ask
    split
    · exact ih tables before
    · rename_i captures _
      have more : ∀ signal ∈ signals ++ Signal.asked route.key request captures ::
          (app.answerUpgrade route.gate request captures).notes.map Signal.note, kind signal := by
        refine List.forall_mem_append.2 ⟨before, List.forall_mem_cons.2 ⟨asked _ _, ?_⟩⟩
        exact List.forall_mem_map.2 fun event _ => note event
      simp only
      split
      · exact more
      · exact ih _ more
      · exact more

end App

namespace Host

/-- The conversation that begins once an upgrade was admitted. -/
def greeted (host : Host app) (key : String) (handler : app.Handler) (limit : Nat) :
    WebSocket.Conversation app.Event app.Handler :=
  WebSocket.Conversation.start app.react
    { socket := {
        channel := host.channel.write (WebSocket.Handshake.response key).toBytes
        now := host.now }
      handler, limit }

theorem openSocket_eq (host : Host app) (request : Http.Request) (limit : Nat) :
    host.openSocket request limit =
      match WebSocket.Handshake.validate request with
      | .error fault => (.error (.upgrade fault), host)
      | .ok key =>
        let dispatched := App.routeSocket host.tables request
        let host := (host.adopt dispatched).2
        match dispatched.result with
        | .error failure => (.error failure, host)
        | .ok handler =>
          (.ok (host.greeted key handler limit).pause,
            { host with channel := (host.greeted key handler limit).socket.channel }) := by
  unfold openSocket
  cases WebSocket.Handshake.validate request with
  | error fault => rfl
  | ok key =>
    simp only [adopt]
    cases (App.routeSocket host.tables request).result <;> rfl

/-- What becomes of an upgrade that succeeds. -/
theorem openSocket_eq_ok {host asked : Host app} {request : Http.Request} {limit : Nat}
    {conversation : WebSocket.Paused app.Handler}
    (h : host.openSocket request limit = (.ok conversation, asked)) :
    let admitted := (host.adopt (App.routeSocket host.tables request)).2
    ∃ key handler, WebSocket.Handshake.validate request = .ok key ∧
      (App.routeSocket host.tables request).result = .ok handler ∧
      conversation = (admitted.greeted key handler limit).pause ∧
      asked = { admitted with channel := (admitted.greeted key handler limit).socket.channel } := by
  intro admitted
  rw [openSocket_eq] at h
  cases valid : WebSocket.Handshake.validate request with
  | error fault =>
    rw [valid] at h
    cases congrArg Prod.fst h
  | ok key =>
    rw [valid] at h
    cases result : (App.routeSocket host.tables request).result with
    | error failure =>
      simp only [result] at h
      cases congrArg Prod.fst h
    | ok handler =>
      simp only [result] at h
      obtain ⟨paused, after⟩ := Prod.mk.inj h
      exact ⟨key, handler, rfl, rfl, (Except.ok.inj paused).symm, after.symm⟩

theorem answer_eq (host : Host app) (config : Config) (request : Http.Request) (body : Bytes) :
    host.answer config request body =
      match request.attachBody body with
      | .error fault => host.turnDown (.request fault) (!request.isKeepAlive)
      | .ok whole =>
        if WebSocket.Handshake.isUpgrade whole then
          let opened := host.openSocket whole config.maxMessageSize
          match opened.1 with
          | .error failure => opened.2.turnDown failure (!request.isKeepAlive)
          | .ok conversation => (.upgraded conversation, opened.2)
        else
          let dispatched := App.tryRoute host.tables whole
          let host := (host.adopt dispatched).2
          match dispatched.result with
          | .error failure => host.turnDown failure (!request.isKeepAlive)
          | .ok response =>
            (.ofClose (!request.isKeepAlive),
              host.respond (announce response (!request.isKeepAlive)) (whole.method = .head)) := by
  unfold answer
  cases request.attachBody body with
  | error fault => rfl
  | ok whole =>
    simp only
    split
    · generalize host.openSocket _ _ = opened
      obtain ⟨result, host⟩ := opened
      cases result <;> rfl
    · simp only [adopt]
      cases (App.tryRoute host.tables whole).result <;> rfl

end Host

open WebSocket (Socket Action React)

/-- The conversation goes on alike on both hosts. -/
def Host.Joined (R : Socket app.Event → Socket app.Event → Prop)
    (paused : WebSocket.Paused app.Handler) (host host' : Host app) : Prop :=
  host.tables = host'.tables ∧
    R (paused.resume host.channel host.now).socket (paused.resume host'.channel host'.now).socket

theorem Host.Joined.resume {R : Socket app.Event → Socket app.Event → Prop}
    {paused : WebSocket.Paused app.Handler} {host host' : Host app}
    (h : host.Joined R paused host') :
    (paused.resume host.channel host.now).Related R (paused.resume host'.channel host'.now) :=
  .mk h.2

/-- Related conversations that pause on two hosts go on alike on them. -/
theorem Host.Joined.of_related {R : Socket app.Event → Socket app.Event → Prop}
    {c c' : WebSocket.Conversation app.Event app.Handler} {host host' : Host app}
    (tables_eq : host.tables = host'.tables) (h : c.Related R c') (pause_eq : c.pause = c'.pause)
    (now : c.socket.now = host.now) (now' : c'.socket.now = host'.now) :
    Host.Joined R c.pause { host with channel := c.socket.channel }
      { host' with channel := c'.socket.channel } := by
  have left : c.pause.resume c.socket.channel host.now = c :=
    WebSocket.Conversation.resume_pause now
  have right : c.pause.resume c'.socket.channel host'.now = c' := by
    rw [pause_eq]
    exact WebSocket.Conversation.resume_pause now'
  refine ⟨tables_eq, ?_⟩
  simp only
  rw [left, right]
  exact h.socket

/-- The answer to a request leaves hosts related, or lets a conversation begin on both. -/
def Sequel.Related (T : Host app → Host app → Prop) (R : Socket app.Event → Socket app.Event → Prop)
    (host host' : Host app) : Sequel app.Handler → Prop
  | .next | .close => T host host'
  | .upgraded paused => host.Joined R paused host'

/-- So does the serving of a window. -/
def Stop.Related (T : Host app → Host app → Prop) (R : Socket app.Event → Socket app.Event → Prop)
    (host host' : Host app) : Stop app.Handler → Prop
  | .wait .. | .close => T host host'
  | .upgraded paused _ => host.Joined R paused host'

/-- A relation between hosts that the answers to requests respect, and that gives related sockets
for a conversation to begin with. -/
structure Host.Congruence (T : Host app → Host app → Prop)
    (R : Socket app.Event → Socket app.Event → Prop) : Prop where
  tables_eq : ∀ {host host'}, T host host' → host.tables = host'.tables
  routed : ∀ {host host'} request, T host host' →
    T (host.adopt (App.tryRoute host.tables request)).2
      (host'.adopt (App.tryRoute host.tables request)).2
  offered : ∀ {host host'} request, T host host' →
    T (host.adopt (App.routeSocket host.tables request)).2
      (host'.adopt (App.routeSocket host.tables request)).2
  write : ∀ {host host'} data, T host host' → T (host.write data) (host'.write data)
  opens : ∀ {host host'}, T host host' →
    R { channel := host.channel, now := host.now } { channel := host'.channel, now := host'.now }

namespace Host.Congruence

variable {T : Host app → Host app → Prop} {acts : Action app.Event → Prop}
  {R : Socket app.Event → Socket app.Event → Prop} (cong : Host.Congruence T R)
  {host host' : Host app}

include cong

theorem respond (h : T host host') (response : Http.Response) (headOnly : Bool) :
    T (host.respond response headOnly) (host'.respond response headOnly) :=
  cong.write _ h

theorem reject (h : T host host') (failure : Http.Failure) (closes : Bool) :
    T (host.reject failure closes) (host'.reject failure closes) := by
  unfold Host.reject
  rw [← cong.tables_eq h]
  exact cong.respond h _ _

theorem turnDown (h : T host host') (failure : Http.Failure) (close : Bool) :
    (host.turnDown failure close).1 = (host'.turnDown failure close).1 ∧
      (host.turnDown failure close).1.Related T R (host.turnDown failure close).2
        (host'.turnDown failure close).2 := by
  have rejected := cong.reject h failure (closesOn close failure)
  refine ⟨rfl, ?_⟩
  simp only [Host.turnDown, Sequel.ofClose]
  split <;> exact rejected

variable (sockets : Socket.Congruence acts R) (within : React.Within acts app.react)

include sockets within

theorem greeted (h : T host host') (key : String) (handler : app.Handler) (limit : Nat) :
    (host.greeted key handler limit).Related R (host'.greeted key handler limit) :=
  .start sockets within (.mk (cong.opens (cong.write _ h)))

theorem openSocket (h : T host host') (request : Http.Request) (limit : Nat) :
    (host.openSocket request limit).1 = (host'.openSocket request limit).1 ∧
      match (host.openSocket request limit).1 with
      | .error _ => T (host.openSocket request limit).2 (host'.openSocket request limit).2
      | .ok paused =>
        Joined R paused (host.openSocket request limit).2 (host'.openSocket request limit).2 := by
  rw [openSocket_eq, openSocket_eq, ← cong.tables_eq h]
  split
  · exact ⟨rfl, h⟩
  · rename_i key _
    have adopted := cong.offered request h
    have tables := cong.tables_eq adopted
    simp only
    split
    · exact ⟨rfl, adopted⟩
    · rename_i handler _
      have greeted := cong.greeted sockets within adopted key handler limit
      have pause_eq := greeted.pause_eq sockets
      exact ⟨congrArg Except.ok pause_eq, .of_related tables greeted pause_eq
        (WebSocket.Conversation.now_start _ _) (WebSocket.Conversation.now_start _ _)⟩

theorem answer (h : T host host') (config : Config) (request : Http.Request) (body : Bytes) :
    (host.answer config request body).1 = (host'.answer config request body).1 ∧
      (host.answer config request body).1.Related T R (host.answer config request body).2
        (host'.answer config request body).2 := by
  rw [answer_eq, answer_eq, ← cong.tables_eq h]
  split
  · exact cong.turnDown h _ _
  · rename_i whole _
    split
    · have opened := cong.openSocket sockets within h whole config.maxMessageSize
      generalize host.openSocket whole config.maxMessageSize = left at opened
      generalize host'.openSocket whole config.maxMessageSize = right at opened
      obtain ⟨result, after⟩ := left
      obtain ⟨_, after'⟩ := right
      obtain ⟨rfl, related⟩ := opened
      cases result with
      | error failure => exact cong.turnDown related _ _
      | ok paused => exact ⟨rfl, related⟩
    · have routed := cong.routed whole h
      simp only
      split
      · exact cong.turnDown routed _ _
      · refine ⟨rfl, ?_⟩
        simp only [Sequel.ofClose]
        split <;> exact cong.respond routed _ _

/-- The same requests are answered, and serving stops for the same reason. -/
theorem serveWindow (h : T host host') (config : Config) (pending : Pending) (window : Bytes) :
    (WebServer.serveWindow config pending window host).1 =
        (WebServer.serveWindow config pending window host').1 ∧
      (WebServer.serveWindow config pending window host).1.Related T R
        (WebServer.serveWindow config pending window host).2
        (WebServer.serveWindow config pending window host').2 := by
  induction pending, window using serveWindow_induction generalizing host host' with
  | head window ih =>
    rw [serveWindow_none, serveWindow_none]
    split
    · exact ⟨rfl, h⟩
    · exact ⟨rfl, cong.reject h _ _⟩
    · rename_i fault rest opening
      simp only
      split
      · exact ⟨rfl, cong.reject h _ _⟩
      · exact ih _ _ (Opening.length_rest_lt (.inr ⟨_, opening⟩)) (cong.reject h _ _)
    · rename_i request length rest opening
      exact ih _ _ (Opening.length_rest_lt (.inl ⟨_, _, opening⟩)) h
  | body request length window ih =>
    rw [serveWindow_some, serveWindow_some]
    split
    · exact ⟨rfl, h⟩
    · rename_i body rest split
      have shorter := (Bytes.splitExactly?_length split).2
      have answered := cong.answer sockets within h config request body
      generalize host.answer config request body = left at answered
      generalize host'.answer config request body = right at answered
      obtain ⟨sequel, after⟩ := left
      obtain ⟨_, after'⟩ := right
      obtain ⟨rfl, related⟩ := answered
      cases sequel with
      | next => exact ih rest (by omega) related
      | close => exact ⟨rfl, related⟩
      | upgraded paused => exact ⟨rfl, related⟩

end Host.Congruence
end WebServer

import WebServer.Proofs.Stream.Alike
import WebServer.Proofs.WebSocket.Reasons

/-!
# Conversations of a calm application

An application is calm if it leaves closing the connection to the server. A WebSocket of such an
application closes its channel exactly when its closing handshake begins, as the close frame is the
last that is sent; and whoever ends a conversation, its handler is told once. So when frames are no
longer taken, nothing is left that the end of the stream could still bring about.
-/
namespace WebServer

variable {ε σ : Type}

namespace WebSocket

/-- An action that does not close the connection. -/
def Action.Calm : Action ε → Prop
  | .send _ after => after.Calm
  | .write _ after => after.Calm
  | .closeConnection => False
  | .close .. | .setAutoPing .. | .cancelAutoPing | .isOpen | .stats => True

/-- A script whose actions are calm, however they come out. -/
def Script.Calm : Script ε σ → Prop
  | .done _ => True
  | .panic _ => True
  | .note _ next => next.Calm
  | .act action next => action.Calm ∧ ∀ outcome, (next outcome).Calm

/-- A handler whose scripts are calm. -/
def React.Calm (react : React ε σ) : Prop := ∀ handler callback, (react handler callback).Calm

/-- A socket whose channel is open until closing begins. -/
structure Socket.Sound (now : Nat) (s : Socket ε) : Prop where
  flowing : s.channel.Flowing
  isOpen_eq : s.channel.isOpen = !s.session.closing
  now_eq : s.now = now

/-- Closing is for good, and the notice of a close from this side stays until it is taken. -/
structure Socket.Leads (s s' : Socket ε) : Prop where
  closing : s.session.closing = true →
    s'.session.closing = true ∧ s'.session.notice = s.session.notice
  notice : s.session.closing = false → s'.session.closing = true →
    s'.session.notice.isSome = true

namespace Socket

variable {now : Nat} {s s' s'' : Socket ε}

theorem Leads.of_eq (closing : s'.session.closing = s.session.closing)
    (notice : s'.session.notice = s.session.notice) : s.Leads s' :=
  ⟨fun h => ⟨closing.trans h, notice⟩, fun h h' => by rw [closing, h] at h'; cases h'⟩

theorem Leads.refl : s.Leads s := .of_eq rfl rfl

theorem Leads.trans (h : s.Leads s') (h' : s'.Leads s'') : s.Leads s'' where
  closing := fun closed =>
    ⟨(h'.closing (h.closing closed).1).1,
      (h'.closing (h.closing closed).1).2.trans (h.closing closed).2⟩
  notice := fun opened closed => by
    cases before : s'.session.closing with
    | false => exact h'.notice before closed
    | true =>
      rw [(h'.closing before).2]
      exact h.notice opened before

theorem Sound.record (h : s.Sound now) (signal : Signal ε) : (s.record signal).Sound now :=
  ⟨h.flowing.record signal, h.isOpen_eq, h.now_eq⟩

theorem Sound.withChannel (h : s.Sound now) {ch : Channel ε} (flowing : ch.Flowing)
    (isOpen : ch.isOpen = s.channel.isOpen) : Sound now { s with channel := ch } :=
  ⟨flowing, isOpen.trans h.isOpen_eq, h.now_eq⟩

theorem Sound.handOver (h : s.Sound now) (frame : Frame) {after : Completion ε}
    (calm : after.Calm) : (s.handOver frame after).Sound now :=
  h.withChannel ((h.flowing.record _).run _) ((h.flowing.record _).isOpen_writeThen _ calm)

/-- Once the close frame is sent, the channel is closed. -/
theorem Sound.beginClosing (h : s.Sound now) (origin : Origin) (code : CloseCode)
    (reason : String) (payload : Bytes) :
    (s.beginClosing origin code reason payload).Sound now where
  flowing := ((h.flowing.record _).record _).run _
  isOpen_eq := ((h.flowing.record _).record _).isOpen_writeThen_close _
  now_eq := h.now_eq

theorem Sound.echoClose (h : s.Sound now) (code : CloseCode) (reason : String)
    (payload : Bytes) : (s.echoClose code reason payload).Sound now := by
  unfold Socket.echoClose
  split
  · exact h
  · exact h.beginClosing _ _ _ _

theorem Sound.takeNotice (h : s.Sound now) (closing : s.session.closing = true) :
    s.takeNotice.2.Sound now where
  flowing := h.flowing
  isOpen_eq := by
    have closed := h.isOpen_eq
    rwa [closing] at closed
  now_eq := h.now_eq

theorem Sound.pongReceived (h : s.Sound now) : s.pongReceived.Sound now :=
  ⟨h.flowing, h.isOpen_eq, h.now_eq⟩

theorem Leads.pongReceived : s.Leads s.pongReceived := .of_eq rfl rfl

theorem Sound.perform (h : s.Sound now) (action : Action ε) (calm : action.Calm) :
    (s.perform action).2.Sound now := by
  cases action with
  | send frame after =>
    simp only [Socket.perform, Socket.send]
    split
    · exact h
    · split
      · exact h
      · exact h.handOver frame calm
  | close code reason =>
    simp only [Socket.perform, Socket.close]
    split
    · exact h
    · split
      · exact h
      · exact h.beginClosing _ _ _ _
  | setAutoPing interval timeout =>
    simp only [Socket.perform, Socket.setAutoPing]
    split
    · exact h
    · split
      · exact h
      · exact ⟨h.flowing, h.isOpen_eq, h.now_eq⟩
  | cancelAutoPing => exact ⟨h.flowing, h.isOpen_eq, h.now_eq⟩
  | write data after => exact h.withChannel (h.flowing.run _) (h.flowing.isOpen_writeThen _ calm)
  | closeConnection => exact absurd calm id
  | isOpen => exact h
  | stats => exact h

theorem Leads.perform (s : Socket ε) (action : Action ε) : s.Leads (s.perform action).2 := by
  cases action with
  | send frame after =>
    simp only [Socket.perform, Socket.send]
    split
    · exact .refl
    · split
      · exact .refl
      · exact .of_eq rfl rfl
  | close code reason =>
    simp only [Socket.perform, Socket.close]
    split
    · exact .refl
    · split
      · exact .refl
      · rename_i opened
        exact ⟨fun closed => absurd closed opened, fun _ _ => rfl⟩
  | setAutoPing interval timeout =>
    simp only [Socket.perform, Socket.setAutoPing]
    split
    · exact .refl
    · split
      · exact .refl
      · exact .of_eq rfl rfl
  | cancelAutoPing => exact .of_eq rfl rfl
  | write data after => exact .of_eq rfl rfl
  | closeConnection => exact .of_eq rfl rfl
  | isOpen => exact .refl
  | stats => exact .refl

theorem Sound.script (h : s.Sound now) {script : Script ε σ} (calm : script.Calm) :
    (script.run s).2.Sound now := by
  induction script generalizing s with
  | done state => exact h
  | panic state => exact h
  | note event next ih => exact ih (h.record _) calm
  | act action next ih => exact ih _ (h.perform action calm.1) (calm.2 _)

theorem Leads.script (s : Socket ε) (script : Script ε σ) : s.Leads (script.run s).2 := by
  induction script generalizing s with
  | done state => exact .refl
  | panic state => exact .refl
  | note event next ih => exact (Leads.of_eq rfl rfl : s.Leads (s.note event)).trans (ih _)
  | act action next ih => exact (Leads.perform s action).trans (ih _ _)

end Socket

namespace Conversation

/-- A conversation whose socket is sound and whose handler hears of every end, or has heard. -/
structure Sound (now : Nat) (c : Conversation ε σ) : Prop where
  socket : c.socket.Sound now
  told : c.socket.session.closing = true →
    c.socket.session.notice.isSome = true ∨ c.closeNotified = true

/-- If the conversation is at its end, nothing more is to be told. -/
def Settled (c : Conversation ε σ) : Prop :=
  c.socket.session.closing = true →
    c.socket.session.notice = none ∧ c.closeNotified = true

variable {now : Nat} {c c' : Conversation ε σ} {react : React ε σ}

theorem Sound.of_leads (h : c.Sound now) (sound : c'.socket.Sound now)
    (leads : c.socket.Leads c'.socket) (same : c'.closeNotified = c.closeNotified) :
    c'.Sound now where
  socket := sound
  told := fun closed => by
    cases before : c.socket.session.closing with
    | false => exact .inl (leads.notice before closed)
    | true =>
      rw [(leads.closing before).2, same]
      exact h.told before

theorem Sound.close (h : c.Sound now) (code : CloseCode) (reason : String) :
    (c.close code reason).Sound now :=
  h.of_leads (h.socket.perform (.close code reason) trivial)
    (.perform c.socket (.close code reason)) rfl

/-- A close with a reason that fits is not refused. -/
theorem closing_close (c : Conversation ε σ) {code : CloseCode} {reason : String}
    (fits : reason.utf8ByteSize ≤ reasonLimit) :
    (c.close code reason).socket.session.closing = true := by
  simp only [Conversation.close, Socket.close, if_neg (Nat.not_lt.2 fits)]
  split
  · assumption
  · rfl

theorem closeNotified_call (react : React ε σ) (c : Conversation ε σ) (callback : Callback) :
    (c.call react callback).closeNotified = c.closeNotified := by
  simp only [call]
  split <;> rfl

/-- After this, the handler has heard of the end. -/
theorem closeNotified_notifyClose (react : React ε σ) (c : Conversation ε σ) (code : CloseCode)
    (reason : String) : (c.notifyClose react code reason).closeNotified = true := by
  unfold notifyClose
  split
  · assumption
  · exact closeNotified_call _ _ _

theorem call_socket (calm : react.Calm) (h : c.socket.Sound now) (callback : Callback) :
    (c.call react callback).socket.Sound now ∧
      c.socket.Leads (c.call react callback).socket := by
  have sound := (h.record (.callback callback)).script (calm c.handler callback)
  have leads : c.socket.Leads _ :=
    (Socket.Leads.of_eq rfl rfl : c.socket.Leads (c.socket.record (.callback callback))).trans
      (.script _ (react c.handler callback))
  simp only [call]
  split
  · exact ⟨sound, leads⟩
  · refine ⟨sound.perform (.close .internal "internal error") trivial, ?_⟩
    exact leads.trans (.perform _ (.close .internal "internal error"))

theorem Sound.call (calm : react.Calm) (h : c.Sound now) (callback : Callback) :
    (c.call react callback).Sound now := by
  obtain ⟨sound, leads⟩ := call_socket calm h.socket callback
  exact h.of_leads sound leads (closeNotified_call _ _ _)

theorem notifyClose_socket (calm : react.Calm) (h : c.socket.Sound now) (code : CloseCode)
    (reason : String) :
    (c.notifyClose react code reason).socket.Sound now ∧
      c.socket.Leads (c.notifyClose react code reason).socket := by
  unfold notifyClose
  split
  · exact ⟨h, .refl⟩
  · exact call_socket (c := { c with closeNotified := true }) calm h _

theorem settle_of_open (opened : c.socket.session.closing = false) : c.settle react = c := by
  simp [settle, opened]

/-- Settling tells the handler of a close from this side, and does not open what is closed. -/
theorem Sound.settle (calm : react.Calm) (h : c.Sound now) :
    (c.settle react).Sound now ∧ (c.settle react).Settled ∧
      (c.socket.session.closing = true → (c.settle react).socket.session.closing = true) := by
  cases closed : c.socket.session.closing with
  | false =>
    rw [settle_of_open closed]
    exact ⟨h, fun closing => absurd closing (Bool.eq_false_iff.1 closed), nofun⟩
  | true =>
    have socket := h.socket.takeNotice closed
    cases notice : c.socket.session.notice with
    | none =>
      have told : c.closeNotified = true := by simpa [notice] using h.told closed
      simp only [Conversation.settle, closed, Socket.takeNotice, notice, Bool.not_true,
        Bool.false_eq_true, if_false]
      exact ⟨⟨socket, fun _ => .inr told⟩, fun _ => ⟨rfl, told⟩, fun _ => trivial⟩
    | some said =>
      obtain ⟨code, reason⟩ := said
      simp only [Conversation.settle, closed, Socket.takeNotice, notice, Bool.not_true,
        Bool.false_eq_true, if_false]
      obtain ⟨sound, leads⟩ :=
        notifyClose_socket (c := { c with socket := c.socket.takeNotice.2 }) calm socket code reason
      have told := closeNotified_notifyClose react { c with socket := c.socket.takeNotice.2 } code
        reason
      exact ⟨⟨sound, fun _ => .inr told⟩, fun _ => ⟨(leads.closing rfl).2, told⟩,
        fun _ => (leads.closing rfl).1⟩

theorem Sound.fail (calm : react.Calm) (h : c.Sound now) (violation : Violation) :
    (c.fail react violation).Sound now :=
  ((h.close _ _).settle calm).1

/-- A fault of a frame ends the conversation. -/
theorem Sound.fail_frame (calm : react.Calm) (h : c.Sound now) {fault : FrameFault}
    (fits : fault.message.utf8ByteSize ≤ reasonLimit) :
    (c.fail react (.frame fault)).socket.session.closing = true ∧
      (c.fail react (.frame fault)).Settled := by
  obtain ⟨-, settled, closing⟩ := (h.close fault.closeCode fault.message).settle calm
  exact ⟨closing (closing_close c fits), settled⟩

theorem Sound.start (calm : react.Calm) (h : c.Sound now) :
    (c.start react).Sound now ∧ (c.start react).Settled := by
  obtain ⟨sound, settled, -⟩ := (h.call calm .opened).settle calm
  exact ⟨sound, settled⟩

/-- What is assembled of a message plays no part in how a conversation ends. -/
theorem Sound.withAssembling (h : c.Sound now) (assembling : Option (Opcode × Bytes)) :
    Sound now { c with assembling } :=
  ⟨h.socket, h.told⟩

theorem Sound.deliver (calm : react.Calm) (h : c.Sound now) (opcode : Opcode) (payload : Bytes) :
    (c.deliver react opcode payload).Sound now := by
  unfold Conversation.deliver
  split
  · exact h.fail calm _
  · exact h.call calm _

theorem Sound.gather (calm : react.Calm) (h : c.Sound now) (opcode : Opcode)
    (done payload : Bytes) (fin : Bool) : (c.gather react opcode done payload fin).Sound now := by
  unfold Conversation.gather
  split
  · exact h.fail calm _
  · split
    · exact (h.withAssembling none).deliver calm _ _
    · exact h.withAssembling _

theorem Sound.onFrame (calm : react.Calm) (h : c.Sound now) (frame : Frame) :
    (c.onFrame react frame).Sound now := by
  unfold Conversation.onFrame
  split
  · exact h.fail calm _
  · exact h.fail calm _
  · split
    · exact h.deliver calm _ _
    · exact h.gather calm _ _ _ _
  · split
    · exact h.deliver calm _ _
    · exact h.gather calm _ _ _ _
  · exact h.fail calm _
  · exact h.gather calm _ _ _ _
  · split
    · exact h.fail calm _
    · rename_i code reason _
      obtain ⟨sound, -⟩ := notifyClose_socket
        (c := { c with socket := c.socket.echoClose code reason frame.payload }) calm
        (h.socket.echoClose _ _ _) code reason
      exact ⟨sound, fun _ => .inr (closeNotified_notifyClose _ _ _ _)⟩
  · exact h.call calm _
  · have answered : Sound now { c with socket := c.socket.pongReceived } :=
      h.of_leads h.socket.pongReceived .pongReceived rfl
    exact answered.call calm _

/-- Frames are taken until the conversation is at its end, and then all is told, or until more
bytes are needed, and then it is not at its end. -/
theorem Sound.takeFrames (calm : react.Calm) (h : c.Sound now) (window : Bytes) :
    (c.takeFrames react window).2.Sound now ∧
      ((c.takeFrames react window).1 = none →
        (c.takeFrames react window).2.socket.session.closing = true ∧
          (c.takeFrames react window).2.Settled) ∧
      ∀ rest, (c.takeFrames react window).1 = some rest →
        (c.takeFrames react window).2.socket.session.closing = false := by
  induction hl : window.length using Nat.strongRecOn generalizing c window with
  | ind length ih =>
    obtain ⟨sound, settled, -⟩ := h.settle calm
    rw [takeFrames_eq]
    split
    · rename_i closing
      exact ⟨sound, fun _ => ⟨closing, settled⟩, nofun⟩
    · rename_i goesOn
      split
      · rename_i fault refused
        exact ⟨sound.fail calm _,
          fun _ => sound.fail_frame calm (message_le_of_decode refused), nofun⟩
      · exact ⟨sound, nofun, fun _ _ => Bool.eq_false_iff.2 goesOn⟩
      · rename_i frame used taken
        have := Frame.decode_used taken
        refine ih _ ?_ (sound.onFrame calm frame) _ rfl
        rw [List.length_drop]
        omega

/-- What the timer does leaves the conversation sound, and all is told if it is at its end. -/
theorem Sound.onTimer (calm : react.Calm) (h : c.Sound now) (time : Nat) :
    (c.onTimer react time).Sound now ∧ (c.onTimer react time).Settled := by
  have ticked : Sound now { c with socket := (c.socket.tick time).2 } := by
    unfold Socket.tick
    split
    · exact h
    · exact h.of_leads ⟨h.socket.flowing, h.socket.isOpen_eq, h.socket.now_eq⟩ (.of_eq rfl rfl) rfl
  have settles {c' : Conversation ε σ} (sound : c'.Sound now) :
      (c'.settle react).Sound now ∧ (c'.settle react).Settled :=
    ⟨(sound.settle calm).1, (sound.settle calm).2.1⟩
  have pings : (Action.ping [] : Action ε).Calm := trivial
  unfold Conversation.onTimer
  refine settles ?_
  split
  · exact ticked
  · exact ticked.of_leads (ticked.socket.perform (.ping []) pings) (.perform _ (.ping [])) rfl
  · exact ticked.close _ _

/-- The end of the stream means nothing to a handler that was told of the end. -/
theorem finish_of_told (told : c.closeNotified = true) :
    c.finish react = { c with socket := c.socket.takeNotice.2 } := by
  simp only [finish, notifyClose, told, if_true]

end Conversation
end WebSocket

/-- An application that leaves closing a connection to the server. Its WebSockets it may close. -/
def App.Calm (app : App) : Prop := WebSocket.React.Calm app.react

/-- An application with nothing in it: no functions to call, and handlers that do nothing. -/
def bareApp : App where
  Event := Unit
  Endpoint := Unit
  Gate := Unit
  Page := Unit
  Handler := Unit
  call := fun _ _ _ => { verdict := .decline }
  answerUpgrade := fun _ _ _ => { verdict := .decline }
  react := fun _ _ => .done ()
  page := fun _ _ _ => none

/-- The bare application leaves closing to the server. -/
theorem bareApp_calm : bareApp.Calm := fun _ _ => trivial

variable {app : App}

/-- A host on which requests can be answered. -/
structure Host.Ready (host : Host app) : Prop where
  flowing : host.channel.Flowing
  isOpen : host.isOpen = true

/-- A conversation that goes on with its host. -/
structure WebSocket.Paused.Sound (host : Host app) (paused : WebSocket.Paused app.Handler) :
    Prop where
  sound : (paused.resume host.channel host.now).Sound host.now
  settled : (paused.resume host.channel host.now).Settled

/-- A conversation asks nothing of its host but an open channel until it closes, on which nothing
waits. -/
theorem WebSocket.Paused.Sound.withHost {host host' : Host app}
    {paused : WebSocket.Paused app.Handler} (h : paused.Sound host)
    (flowing : host'.channel.Flowing) (isOpen : host'.channel.isOpen = host.channel.isOpen) :
    paused.Sound host' :=
  ⟨⟨⟨flowing, isOpen.trans h.sound.socket.isOpen_eq, rfl⟩, h.sound.told⟩, h.settled⟩

/-- A conversation that is put aside goes on with its own channel. -/
theorem WebSocket.Paused.Sound.of_conversation {host : Host app}
    {c : WebSocket.Conversation app.Event app.Handler} (sound : c.Sound host.now)
    (settled : c.Settled) : c.pause.Sound { host with channel := c.socket.channel } := by
  have same := WebSocket.Conversation.resume_pause sound.socket.now_eq
  exact ⟨by rw [same]; exact sound, by rw [same]; exact settled⟩

/-- What an answer leaves behind: a conversation, or a host for the next request. -/
def Sequel.Sound (host : Host app) : Sequel app.Handler → Prop
  | .next | .close => host.Ready
  | .upgraded conversation => conversation.Sound host

/-- What serving leaves behind, likewise. -/
def Stop.Sound (host : Host app) : Stop app.Handler → Prop
  | .wait _ _ | .close => host.Ready
  | .upgraded conversation _ => conversation.Sound host

namespace Host.Ready

variable {host : Host app}

theorem respond (h : host.Ready) (response : Http.Response) (headOnly : Bool) :
    (host.respond response headOnly).Ready :=
  ⟨h.flowing.run _, (h.flowing.isOpen_write _).trans h.isOpen⟩

theorem reject (h : host.Ready) (failure : Http.Failure) (closes : Bool) :
    (host.reject failure closes).Ready := h.respond _ _

theorem adopt {α : Type} (h : host.Ready) (dispatched : Dispatched app α) :
    (host.adopt dispatched).2.Ready := by
  simp only [Host.adopt, Channel.recordAll_eq]
  exact ⟨⟨h.flowing.wire, h.flowing.queue⟩, h.isOpen⟩

theorem turnDown (h : host.Ready) (failure : Http.Failure) (close : Bool) :
    (host.turnDown failure close).1.Sound (host.turnDown failure close).2 := by
  unfold Host.turnDown Sequel.ofClose
  simp only
  split <;> exact h.reject _ _

theorem greeted (calm : app.Calm) (h : host.Ready) (key : String) (handler : app.Handler)
    (limit : Nat) :
    (host.greeted key handler limit).Sound host.now ∧ (host.greeted key handler limit).Settled := by
  refine WebSocket.Conversation.Sound.start calm ⟨⟨h.flowing.run _, ?_, rfl⟩, nofun⟩
  exact (h.flowing.isOpen_write _).trans h.isOpen

theorem openSocket (calm : app.Calm) (h : host.Ready) (request : Http.Request) (limit : Nat) :
    match (host.openSocket request limit).1 with
    | .error _ => (host.openSocket request limit).2.Ready
    | .ok conversation => conversation.Sound (host.openSocket request limit).2 := by
  rw [openSocket_eq]
  cases WebSocket.Handshake.validate request with
  | error fault => exact h
  | ok key =>
    have adopted := h.adopt (App.routeSocket host.tables request)
    simp only
    cases (App.routeSocket host.tables request).result with
    | error failure => exact adopted
    | ok handler =>
      obtain ⟨sound, settled⟩ := adopted.greeted calm key handler limit
      exact .of_conversation sound settled

theorem answer (calm : app.Calm) (h : host.Ready) (config : Config) (request : Http.Request)
    (body : Bytes) :
    (host.answer config request body).1.Sound (host.answer config request body).2 := by
  rw [answer_eq]
  cases request.attachBody body with
  | error fault => exact h.turnDown _ _
  | ok whole =>
    simp only
    split
    · have opened := h.openSocket calm whole config.maxMessageSize
      generalize host.openSocket whole config.maxMessageSize = opening at opened ⊢
      obtain ⟨result, after⟩ := opening
      cases result with
      | error failure => exact turnDown opened _ _
      | ok conversation => exact opened
    · have adopted := h.adopt (App.tryRoute host.tables whole)
      cases (App.tryRoute host.tables whole).result with
      | error failure => exact adopted.turnDown _ _
      | ok response =>
        simp only [Sequel.ofClose]
        split <;> exact adopted.respond _ _

theorem serveWindow (calm : app.Calm) (h : host.Ready) (config : Config) (pending : Pending)
    (window : Bytes) :
    (WebServer.serveWindow config pending window host).1.Sound
      (WebServer.serveWindow config pending window host).2 := by
  induction pending, window using serveWindow_induction generalizing host with
  | head window ih =>
    rw [serveWindow_none]
    split
    · exact h
    · exact h.reject _ _
    · rename_i fault rest opening
      simp only
      split
      · exact h.reject _ _
      · exact ih _ _ (Opening.length_rest_lt (.inr ⟨_, opening⟩)) (h.reject _ _)
    · rename_i request length rest opening
      exact ih _ _ (Opening.length_rest_lt (.inl ⟨_, _, opening⟩)) h
  | body request length window ih =>
    rw [serveWindow_some]
    split
    · exact h
    · rename_i body rest split
      have shorter := (Bytes.splitExactly?_length split).2
      have sequel := h.answer calm config request body
      generalize host.answer config request body = answered at sequel ⊢
      obtain ⟨result, after⟩ := answered
      cases result with
      | next => exact ih rest (by omega) sequel
      | close => exact sequel
      | upgraded conversation => exact sequel

end Host.Ready

end WebServer

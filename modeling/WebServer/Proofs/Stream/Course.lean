import WebServer.Proofs.Stream.Windows

/-!
# The course of a connection

What becomes of the bytes of a connection, without the socket, the read buffer and the occasions on
which windows are shown: `feed` hands bytes to whatever protocol is active, behind those that were
left, and goes on with the next one after an upgrade. Feeding bytes in two pieces is feeding them
at once (`feed_append`), and once the course is over nothing changes it.
-/
namespace WebServer

variable {app : App}

/-- Where a connection stands between two pieces of its stream. -/
inductive Course (app : App) where
  /-- The protocol left these bytes and waits for more. -/
  | goes (active : Active app.Handler) (rest : Bytes) (host : Host app)
  /-- No more bytes are taken, and the channel is closed. -/
  | halted (active : Active app.Handler) (host : Host app)

namespace Course

/-- A WebSocket takes a window, unless it is closed already. -/
def converse (conversation : WebSocket.Paused app.Handler) (window : Bytes) (host : Host app) :
    Course app :=
  if host.isOpen then
    let taken := (conversation.resume host.channel host.now).takeFrames app.react window
    let host := { host with channel := taken.2.socket.channel }
    match taken.1 with
    | some rest => .goes (.webSocket taken.2.pause) rest host
    | none => .halted (.webSocket taken.2.pause) host.close
  else .halted (.webSocket conversation) host

/-- The active protocol takes a window, and so does the one that it hands over to. -/
def take (config : Config) (active : Active app.Handler) (window : Bytes) (host : Host app) :
    Course app :=
  match active with
  | .webSocket conversation => converse conversation window host
  | .http pending =>
    let served := serveWindow config pending window host
    match served.1 with
    | .wait later rest => .goes (.http later) rest served.2
    | .close => .halted (.http none) served.2.close
    | .upgraded conversation rest => converse conversation rest served.2

/-- More bytes come. -/
def feed (config : Config) (bytes : Bytes) : Course app → Course app
  | .goes active rest host => take config active (rest ++ bytes) host
  | .halted active host => .halted active host

/-- No more bytes will come. -/
def finish : Course app → Course app
  | .goes active _ host => .halted (active.finish host).1 (active.finish host).2.close
  | .halted active host => .halted active host

end Course

/-- A protocol that can go on with its host. -/
def Active.Sound (host : Host app) : Active app.Handler → Prop
  | .http _ => host.Ready
  | .webSocket conversation => conversation.Sound host

/-- A protocol to which the end of the stream means nothing. -/
def Active.Told {σ : Type} : Active σ → Prop
  | .http _ => True
  | .webSocket conversation => conversation.closeNotified = true

/-- What holds on every course. -/
def Course.Sound : Course app → Prop
  | .goes active rest host =>
    active.Sound host ∧ host.isOpen = true ∧ ∀ pending, active = .http pending → pending.Awaits rest
  | .halted active host => host.channel.Flowing ∧ host.isOpen = false ∧ active.Told

namespace Host

theorem isOpen_close (host : Host app) : host.close.isOpen = false := by
  simp [close, isOpen, Channel.close_eq_shut]

theorem flowing_close {host : Host app} (h : host.channel.Flowing) : host.close.channel.Flowing :=
  h.run _

theorem close_of_closed {host : Host app} (h : host.isOpen = false) : host.close = host := by
  simp only [close, Channel.close_eq_shut, Channel.shut_of_closed h]

end Host

/-- A handler that was told of the end hears nothing more. -/
theorem Active.finish_of_told {active : Active app.Handler} (told : active.Told)
    (host : Host app) : (active.finish host).2 = host := by
  cases active with
  | http pending => rfl
  | webSocket conversation =>
    have silent : (conversation.resume host.channel host.now).finish app.react = _ :=
      WebSocket.Conversation.finish_of_told told
    simp only [Active.finish, Active.resume, silent]
    rfl

/-- At the end of the stream a handler hears of the end at the latest. -/
theorem Active.told_finish (active : Active app.Handler) (host : Host app) :
    (active.finish host).1.Told := by
  cases active with
  | http pending => trivial
  | webSocket conversation => exact WebSocket.Conversation.closeNotified_notifyClose _ _ _ _

theorem Active.name_finish (active : Active app.Handler) (host : Host app) :
    (active.finish host).1.name = active.name := by
  cases active <;> rfl

namespace Course

theorem converse_sound (calm : app.Calm) {conversation : WebSocket.Paused app.Handler}
    {host : Host app} (h : conversation.Sound host) (window : Bytes) :
    (converse conversation window host).Sound := by
  obtain ⟨sound, settled⟩ := h
  unfold converse
  split
  · obtain ⟨after, ended, waits⟩ := sound.takeFrames calm window
    generalize (conversation.resume host.channel host.now).takeFrames app.react window = taken
      at after ended waits ⊢
    obtain ⟨rest, c⟩ := taken
    cases rest with
    | some rest =>
      have opened := waits rest rfl
      refine ⟨.of_conversation after ?_, ?_, nofun⟩
      · exact fun closing => absurd closing (Bool.eq_false_iff.1 opened)
      · exact after.socket.isOpen_eq.trans (by rw [opened]; rfl)
    | none =>
      obtain ⟨closing, told⟩ := ended rfl
      exact ⟨Host.flowing_close after.socket.flowing, Host.isOpen_close _, (told closing).2⟩
  · rename_i closed
    have closed := Bool.eq_false_iff.2 closed
    refine ⟨sound.socket.flowing, closed, (settled ?_).2⟩
    have opened := sound.socket.isOpen_eq
    rw [show (conversation.resume host.channel host.now).socket.channel.isOpen = false from closed]
      at opened
    simpa using opened.symm

theorem take_sound (calm : app.Calm) (config : Config) {active : Active app.Handler}
    {host : Host app} (h : active.Sound host) (window : Bytes) :
    (take config active window host).Sound := by
  cases active with
  | webSocket conversation => exact converse_sound calm h window
  | http pending =>
    have sound := Host.Ready.serveWindow calm h config pending window
    have leaves := serveWindow_leaves config pending window host
    unfold take
    simp only
    generalize serveWindow config pending window host = served at sound leaves ⊢
    obtain ⟨stop, after⟩ := served
    cases stop with
    | wait later rest =>
      refine ⟨sound, sound.isOpen, fun _ same => ?_⟩
      obtain rfl := Active.http.inj same
      exact leaves.2
    | close => exact ⟨Host.flowing_close sound.flowing, Host.isOpen_close _, trivial⟩
    | upgraded conversation rest => exact converse_sound calm sound rest

theorem feed_sound (calm : app.Calm) (config : Config) {x : Course app} (h : x.Sound)
    (bytes : Bytes) : (x.feed config bytes).Sound := by
  cases x with
  | goes active rest host => exact take_sound calm config h.1 _
  | halted active host => exact h

theorem finish_sound {x : Course app} (h : x.Sound) : x.finish.Sound := by
  cases x with
  | halted active host => exact h
  | goes active rest host =>
    have flowing : host.channel.Flowing := by
      cases active with
      | http pending => exact h.1.flowing
      | webSocket conversation => exact h.1.sound.socket.flowing
    have after := ((Host.Alike.refl flowing).finish active).2.channel.left
    exact ⟨Host.flowing_close after, Host.isOpen_close _, Active.told_finish _ _⟩

theorem finish_eq_halted (x : Course app) : ∃ active host, x.finish = .halted active host := by
  cases x with
  | goes active rest host => exact ⟨_, _, rfl⟩
  | halted active host => exact ⟨_, _, rfl⟩

theorem converse_append (calm : app.Calm) (config : Config)
    {conversation : WebSocket.Paused app.Handler} {host : Host app}
    (h : conversation.Sound host) (window more : Bytes) :
    converse conversation (window ++ more) host =
      (converse conversation window host).feed config more := by
  unfold converse
  split
  · obtain ⟨after, -, waits⟩ := h.sound.takeFrames calm window
    have whole := WebSocket.Conversation.takeFrames_append app.react
      (conversation.resume host.channel host.now) window more
    generalize (conversation.resume host.channel host.now).takeFrames app.react window = taken
      at after waits whole ⊢
    obtain ⟨rest, c⟩ := taken
    cases rest with
    | none => simp only [whole, feed]
    | some rest =>
      have opened : c.socket.channel.isOpen = true := by
        rw [after.socket.isOpen_eq, waits rest rfl]
        rfl
      have same := WebSocket.Conversation.resume_pause after.socket.now_eq
      simp only [whole, feed, take, converse, same, Host.isOpen, opened, if_true]
  · rfl

theorem take_append (calm : app.Calm) (config : Config) {active : Active app.Handler}
    {host : Host app} (h : active.Sound host) (window more : Bytes) :
    take config active (window ++ more) host =
      (take config active window host).feed config more := by
  cases active with
  | webSocket conversation => exact converse_append calm config h window more
  | http pending =>
    have sound := Host.Ready.serveWindow calm h config pending window
    unfold take
    simp only [serveWindow_append config pending window more host]
    generalize serveWindow config pending window host = served at sound ⊢
    obtain ⟨stop, after⟩ := served
    cases stop with
    | wait later rest => rfl
    | close => rfl
    | upgraded conversation rest => exact converse_append calm config sound rest more

/-- Bytes that come in two pieces are bytes that come at once. -/
theorem feed_append (calm : app.Calm) (config : Config) {x : Course app} (h : x.Sound)
    (bytes more : Bytes) :
    x.feed config (bytes ++ more) = (x.feed config bytes).feed config more := by
  cases x with
  | halted active host => rfl
  | goes active rest host =>
    simp only [feed]
    rw [← List.append_assoc]
    exact take_append calm config h.1 _ _

/-- Where every connection begins. -/
def fresh (tables : app.Tables) (now : Nat) : Course app := .goes (.http none) [] { tables, now }

theorem fresh_sound (tables : app.Tables) (now : Nat) : (fresh tables now).Sound :=
  ⟨⟨⟨.plain, rfl⟩, rfl⟩, rfl, fun _ same => by obtain rfl := Active.http.inj same; exact nofun⟩

theorem feed_nil_fresh (config : Config) (tables : app.Tables) (now : Nat) :
    (fresh tables now).feed config [] = fresh tables now := by
  have none : 0 < Pending.need none := Nat.one_pos
  simp only [fresh, feed, take, List.append_nil, serveWindow_nil config none]

end Course
end WebServer

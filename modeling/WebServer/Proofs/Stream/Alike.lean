import WebServer.Proofs.Stream.Congruence
import WebServer.Proofs.Stream.Flowing

/-!
# What a connection does on alike channels

No function of the server looks at the trace or at the wire of its channel. So from states that
differ in nothing else, each of them comes to the same result and to states that are alike again.
-/
namespace WebServer

variable {ε σ : Type}

namespace WebSocket

/-- Sockets that differ only in their channels, which are alike. -/
inductive Socket.Alike : Socket ε → Socket ε → Prop where
  | mk {session : Session} {now : Nat} {ch ch' : Channel ε} (same : ch.Alike ch') :
    Alike ⟨session, ch, now⟩ ⟨session, ch', now⟩

namespace Socket.Alike

variable {s s' : Socket ε}

theorem channel (h : s.Alike s') : s.channel.Alike s'.channel := by
  cases h with
  | mk same => exact same

theorem congruence : Socket.Congruence (fun _ : Action ε => True) Socket.Alike where
  session_eq := fun (.mk _) => rfl
  now_eq := fun (.mk _) => rfl
  isOpen_eq := fun (.mk same) => by simp only [Socket.isOpen, same.isOpen]
  note := fun _ (.mk same) => .mk (same.record _)
  callback := fun _ (.mk same) => .mk (same.record _)
  keepalive := fun _ (.mk same) => .mk same
  send := fun _ _ _ (.mk same) _ => .mk ((same.record _).writeThen _ _)
  beginClosing := fun _ _ _ _ (.mk same) _ => .mk (((same.record _).record _).writeThen _ _)
  takeNotice := fun (.mk same) _ => .mk same
  write := fun _ _ _ (.mk same) => .mk (same.writeThen _ _)
  closeConnection := fun _ (.mk same) => .mk same.close

theorem takeNotice (h : s.Alike s') : s.takeNotice.2.Alike s'.takeNotice.2 := by
  cases h with
  | mk same => exact .mk same

end Socket.Alike

/-- Conversations that differ only in their sockets, which are alike. -/
abbrev Conversation.Alike : Conversation ε σ → Conversation ε σ → Prop :=
  Conversation.Related Socket.Alike

namespace Conversation.Alike

variable {c c' : Conversation ε σ} (react : React ε σ)

theorem pause_eq (h : c.Alike c') : c.pause = c'.pause := Related.pause_eq Socket.Alike.congruence h

theorem takeFrames (h : c.Alike c') (window : Bytes) :
    (c.takeFrames react window).1 = (c'.takeFrames react window).1 ∧
      (c.takeFrames react window).2.Alike (c'.takeFrames react window).2 :=
  Related.takeFrames Socket.Alike.congruence react.within_true h window

theorem finish (h : c.Alike c') : (c.finish react).Alike (c'.finish react) :=
  Related.finish Socket.Alike.congruence react.within_true h
    (Socket.Alike.congruence.session_eq h.socket) h.socket.takeNotice

end Conversation.Alike
end WebSocket

variable {app : App}

/-- Hosts that differ only in their channels, which are alike. -/
inductive Host.Alike : Host app → Host app → Prop where
  | mk {tables : app.Tables} {now : Nat} {ch ch' : Channel app.Event} (same : ch.Alike ch') :
    Alike ⟨ch, tables, now⟩ ⟨ch', tables, now⟩

namespace Host.Alike

variable {host host' host'' : Host app}

theorem refl (h : host.channel.Flowing) : host.Alike host := .mk (.refl h)

theorem channel (h : host.Alike host') : host.channel.Alike host'.channel := by
  cases h with
  | mk same => exact same

theorem symm (h : host.Alike host') : host'.Alike host := by
  cases h with
  | mk same => exact .mk same.symm

theorem trans (h : host.Alike host') (h' : host'.Alike host'') : host.Alike host'' := by
  cases h with
  | mk same =>
    cases h' with
    | mk same' => exact .mk (same.trans same')

theorem record_left (h : host.Alike host') (signal : Signal app.Event)
    (isDeed : signal.isDeed = false) (accepted : signal.accepted = []) :
    (host.record signal).Alike host' := by
  cases h with
  | mk same => exact .mk (same.record_left isDeed accepted)

theorem resume (h : host.Alike host') (paused : WebSocket.Paused app.Handler) :
    (paused.resume host.channel host.now).Alike (paused.resume host'.channel host'.now) := by
  cases h with
  | mk same => exact .mk (.mk same)

theorem withChannel (h : host.Alike host') {ch ch' : Channel app.Event} (same : ch.Alike ch') :
    Alike { host with channel := ch } { host' with channel := ch' } := by
  cases h with
  | mk _ => exact .mk same

/-- Hosts on which a conversation goes on alike are alike. -/
theorem of_joined {paused : WebSocket.Paused app.Handler}
    (h : host.Joined WebSocket.Socket.Alike paused host') : host.Alike host' := by
  obtain ⟨ch, tables, now⟩ := host
  obtain ⟨ch', tables', now'⟩ := host'
  obtain ⟨tables_eq, socket⟩ := h
  obtain rfl : tables = tables' := tables_eq
  obtain rfl : now = now' := WebSocket.Socket.Alike.congruence.now_eq socket
  exact .mk socket.channel

theorem congruence : Host.Congruence Host.Alike (@WebSocket.Socket.Alike app.Event) where
  tables_eq := fun (.mk _) => rfl
  routed := fun _ (.mk same) => .mk (same.recordAll _)
  offered := fun _ (.mk same) => .mk (same.recordAll _)
  write := fun _ (.mk same) => .mk (same.write _)
  opens := fun (.mk same) => .mk same

theorem close (h : host.Alike host') : host.close.Alike host'.close := h.withChannel h.channel.close

theorem finish (h : host.Alike host') (active : Active app.Handler) :
    (active.finish host).1 = (active.finish host').1 ∧
      (active.finish host).2.Alike (active.finish host').2 := by
  cases active with
  | http pending => exact ⟨rfl, h⟩
  | webSocket conversation =>
    have after := (h.resume conversation).finish app.react
    exact ⟨congrArg Active.webSocket after.pause_eq, h.withChannel after.socket.channel⟩

/-- The same requests are answered, and serving stops for the same reason. -/
theorem serveWindow (h : host.Alike host') (config : Config) (pending : Pending) (window : Bytes) :
    (WebServer.serveWindow config pending window host).1 =
        (WebServer.serveWindow config pending window host').1 ∧
      (WebServer.serveWindow config pending window host).2.Alike
        (WebServer.serveWindow config pending window host').2 := by
  obtain ⟨stop, related⟩ := congruence.serveWindow WebSocket.Socket.Alike.congruence
    (WebSocket.React.within_true app.react) h config pending window
  refine ⟨stop, ?_⟩
  cases stopped : (WebServer.serveWindow config pending window host).1 with
  | wait | close =>
    rw [stopped] at related
    exact related
  | upgraded =>
    rw [stopped] at related
    exact .of_joined related

end Host.Alike
end WebServer

import WebServer.Server.Serving
import WebServer.WebSocket.Offsets

/-!
# Serving with checked sums

What a machine does that checks its sums: a connection is served as `serving` says, until a sum of
offsets is no word. From then on nothing is promised, and only the failure itself is remembered.
-/
namespace WebServer

open WebSocket (Paused)

variable {app : App} {π : Type}

/-- Takes a window as `consume` does, with checked sums; `none` if one of them is no word. -/
def Active.consumeChecked (config : Config) (active : Active app.Handler) (window : Bytes)
    (host : Host app) : Option (Consumed (Active app.Handler) × Host app) :=
  match active with
  | .http pending => some (consume config (.http pending) window host)
  | .webSocket conversation =>
    ((conversation.resume host.channel host.now).takeFramesChecked app.react window).map
      (ofFrames window host)

/-- The same protocol, which remembers whether it ever failed to take a window. -/
def Protocol.watched (protocol : Protocol app π) (fails : π → Bytes → Host app → Bool) :
    Protocol app (π × Bool) where
  name p := protocol.name p.1
  consume p window host :=
    let (said, after) := protocol.consume p.1 window host
    (⟨said.used, (said.protocol, p.2 || fails p.1 window host), said.move⟩, after)
  peerClosed p host :=
    let (next, host) := protocol.peerClosed p.1 host
    ((next, p.2), host)
  tornDown p host :=
    let (next, host) := protocol.tornDown p.1 host
    ((next, p.2), host)
  deadline p := protocol.deadline p.1
  timer p now host :=
    let (next, host) := protocol.timer p.1 now host
    ((next, p.2), host)
  handovers := protocol.handovers

/-- The protocol of the connections of a server that checks its sums. -/
def servingChecked (app : App) (config : Config) : Protocol app (Active app.Handler × Bool) :=
  (serving app config).watched fun active window host =>
    (active.consumeChecked config window host).isNone

end WebServer

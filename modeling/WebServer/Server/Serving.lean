import WebServer.Connection
import WebServer.Server.Answer
import WebServer.Server.Framing

/-!
# Serving

The protocol of every connection of a server: it begins with requests, which are answered one after
another in their order, and may become a WebSocket.
-/
namespace WebServer

open Http (Request)
open WebSocket (Paused Conversation)

/-- A head whose body has not fully arrived, with the length of the body. -/
abbrev Pending := Option (Request × Nat)

/-- What a connection speaks. -/
inductive Active (σ : Type) where
  | http (pending : Pending)
  | webSocket (conversation : Paused σ)

/-- How the requests in a window end. -/
inductive Stop (σ : Type) where
  /-- More bytes are needed behind these. -/
  | wait (pending : Pending) (rest : Bytes)
  | close
  | upgraded (conversation : Paused σ) (rest : Bytes)

variable {app : App}

/-- Answers the requests in a window one after another. -/
def serveWindow (config : Config) (pending : Pending) (window : Bytes) (host : Host app) :
    Stop app.Handler × Host app :=
  match pending with
  | some (request, length) =>
    match _h : Bytes.splitExactly? length window with
    | none => (.wait (some (request, length)) window, host)
    | some (body, rest) =>
      match host.answer config request body with
      | (.next, host) => serveWindow config none rest host
      | (.close, host) => (.close, host)
      | (.upgraded conversation, host) => (.upgraded conversation rest, host)
  | none =>
    match _h : Opening.ofWindow config window with
    | .incomplete => (.wait none window, host)
    | .unframed fault => (.close, host.reject (.request fault) true)
    | .malformed fault rest =>
      let closes := Host.closesOn false (.request fault)
      let host := host.reject (.request fault) closes
      if closes then (.close, host) else serveWindow config none rest host
    | .request request length rest => serveWindow config (some (request, length)) rest host
termination_by 2 * window.length + if pending.isSome then 1 else 0
decreasing_by
  · have := Bytes.splitExactly?_length _h
    simp only [Option.isSome_none, Option.isSome_some, Bool.false_eq_true, if_true, if_false]; omega
  · have := Opening.length_rest_lt (.inr ⟨_, _h⟩)
    simp only [Option.isSome_none, Bool.false_eq_true, if_false]; omega
  · have := Opening.length_rest_lt (.inl ⟨_, _, _h⟩)
    simp only [Option.isSome_none, Option.isSome_some, Bool.false_eq_true, if_true, if_false]; omega

namespace Active

/-- What taking a window comes to, if the requests in it end so. -/
def ofStop (window : Bytes) : Stop app.Handler → Consumed (Active app.Handler)
  | .wait pending rest => ⟨window.length - rest.length, .http pending, .wait⟩
  | .close => ⟨window.length, .http none, .close⟩
  | .upgraded conversation rest =>
    ⟨window.length - rest.length, .webSocket conversation, .switch⟩

/-- Goes on with a conversation and puts it back. -/
def resume (conversation : Paused app.Handler) (host : Host app)
    (go : Conversation app.Event app.Handler → Conversation app.Event app.Handler) :
    Active app.Handler × Host app :=
  let conversation := go (conversation.resume host.channel host.now)
  (.webSocket conversation.pause, { host with channel := conversation.socket.channel })

/-- What taking a window comes to, if a conversation leaves so much of it; the conversation is put
back. -/
def ofFrames (window : Bytes) (host : Host app) :
    Option Bytes × Conversation app.Event app.Handler →
      Consumed (Active app.Handler) × Host app
  | (some rest, conversation) =>
    (⟨window.length - rest.length, .webSocket conversation.pause, .wait⟩,
      { host with channel := conversation.socket.channel })
  | (none, conversation) =>
    (⟨window.length, .webSocket conversation.pause, .close⟩,
      { host with channel := conversation.socket.channel })

def consume (config : Config) (active : Active app.Handler) (window : Bytes)
    (host : Host app) : Consumed (Active app.Handler) × Host app :=
  match active with
  | .http pending =>
    let (stop, host) := serveWindow config pending window host
    (ofStop window stop, host)
  | .webSocket conversation =>
    ofFrames window host
      ((conversation.resume host.channel host.now).takeFrames app.react window)

/-- A conversation hears that the peer is gone; requests do not. -/
def finish (active : Active app.Handler) (host : Host app) : Active app.Handler × Host app :=
  match active with
  | .http pending => (.http pending, host)
  | .webSocket conversation => resume conversation host (·.finish app.react)

def timer (active : Active app.Handler) (now : Nat) (host : Host app) :
    Active app.Handler × Host app :=
  match active with
  | .http pending => (.http pending, host)
  | .webSocket conversation => resume conversation host (·.onTimer app.react now)

def deadline {σ : Type} : Active σ → Option Nat
  | .http _ => none
  | .webSocket conversation => conversation.session.keepalive.map (·.deadline)

def name {σ : Type} : Active σ → String
  | .http _ => "http"
  | .webSocket _ => "websocket"

end Active

/-- The protocol of the connections of a server. -/
def serving (app : App) (config : Config) : Protocol app (Active app.Handler) where
  name := Active.name
  consume := Active.consume config
  peerClosed := Active.finish
  tornDown := Active.finish
  deadline := Active.deadline
  timer := Active.timer

end WebServer

import WebServer.Connection.Protocol
import WebServer.Http.Failure
import WebServer.Server.Config
import WebServer.WebSocket.Conversation
import WebServer.WebSocket.Handshake

/-!
# Answers

What a connection does with one whole request: it routes it and writes the response, writes an
answer for a failure, or lets the connection become a WebSocket. Each request gets exactly one
response.
-/
namespace WebServer

open Http (Request Response Failure)
open WebSocket (Conversation Handshake.isUpgrade Handshake.validate Handshake.response)

/-- How a connection goes on after an answer. -/
inductive Sequel (σ : Type) where
  | next
  | close
  | upgraded (conversation : WebSocket.Paused σ)

def Sequel.ofClose {σ : Type} (closes : Bool) : Sequel σ := if closes then .close else .next

namespace Host

variable {app : App}

/-- Writes a response; of the answer to a HEAD request, only the head. -/
def respond (host : Host app) (response : Response) (headOnly : Bool) : Host app :=
  let bytes := response.toBytes
  host.write <|
    if headOnly then ((Request.cutHead? bytes).map Prod.fst).getD bytes else bytes

/-- A response that tells the peer whether the connection closes. -/
def announce (response : Response) (closes : Bool) : Response :=
  if closes then response.setHeader "Connection" "close" else response

/-- A failure ends the connection if the request did anyway, or if it is fatal. -/
def closesOn (close : Bool) (failure : Failure) : Bool := close || failure.isFatal

/-- Answers a failure. -/
def reject (host : Host app) (failure : Failure) (closes : Bool) : Host app :=
  host.respond (announce (App.errorFor host.tables failure) closes) false

/-- The application decides on an upgrade that is valid. -/
def openSocket (host : Host app) (request : Request) (limit : Nat) :
    Except Failure (WebSocket.Paused app.Handler) × Host app :=
  match Handshake.validate request with
  | .error fault => (.error (.upgrade fault), host)
  | .ok key =>
    match host.adopt (App.routeSocket host.tables request) with
    | (.error failure, host) => (.error failure, host)
    | (.ok handler, host) =>
      let host := host.write (Handshake.response key).toBytes
      let socket : WebSocket.Socket app.Event := { channel := host.channel, now := host.now }
      let conversation : Conversation app.Event app.Handler := { socket, handler, limit }
      let conversation := conversation.start app.react
      (.ok conversation.pause, { host with channel := conversation.socket.channel })

/-- Answers a failure of a request, which may be fatal. -/
def turnDown (host : Host app) (failure : Failure) (close : Bool) :
    Sequel app.Handler × Host app :=
  let closes := closesOn close failure
  (.ofClose closes, host.reject failure closes)

/-- Answers a request that is complete. -/
def answer (host : Host app) (config : Config) (request : Request) (body : Bytes) :
    Sequel app.Handler × Host app :=
  let closes := !request.isKeepAlive
  match request.attachBody body with
  | .error fault => host.turnDown (.request fault) closes
  | .ok request =>
    if Handshake.isUpgrade request then
      match host.openSocket request config.maxMessageSize with
      | (.error failure, host) => host.turnDown failure closes
      | (.ok conversation, host) => (.upgraded conversation, host)
    else
      match host.adopt (App.tryRoute host.tables request) with
      | (.error failure, host) => host.turnDown failure closes
      | (.ok response, host) =>
        let host := host.respond (announce response closes) (request.method = .head)
        (.ofClose closes, host)

end Host
end WebServer

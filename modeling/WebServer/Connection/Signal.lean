import WebServer.Connection.Wire
import WebServer.Http.Request
import WebServer.WebSocket.Frame

/-!
# Signals

What happens on a connection, in the order in which it happens: what the application notes, which
of its functions are called and with what, what a protocol is offered, and what the wire is asked
to take. `ε` is the type of the application's notes.
-/
namespace WebServer

/-- What to do once a write is fully sent: work on the channel. What the application does besides,
it does because of the note. -/
inductive Completion (ε : Type) where
  | done
  | note (event : ε) (next : Completion ε)
  | write (data : Bytes) (after : Completion ε) (next : Completion ε)
  | close (next : Completion ε)
  | flush (next : Completion ε)
  deriving DecidableEq, Repr

/-- The groups that a pattern captured in a path. -/
abbrev Captures := List (Option String)

namespace WebSocket

/-- A whole message. -/
inductive Message where
  | text (text : String)
  | binary (data : Bytes)
  deriving DecidableEq, Repr

/-- What a handler is called back with. -/
inductive Callback where
  | opened
  | message (message : Message)
  | ping (payload : Bytes)
  | pong (payload : Bytes)
  | closed (code : CloseCode) (reason : String)
  deriving DecidableEq, Repr

/-- Which side begins the closing handshake. -/
inductive Origin where
  | here | peer
  deriving DecidableEq, Repr

end WebSocket

inductive Signal (ε : Type) where
  /-- The application notes an event. -/
  | note (event : ε)
  /-- The handler of the route with that key is called. -/
  | handled (route : Nat) (request : Http.Request) (captures : Captures)
  /-- The socket route with that key is asked to accept. -/
  | asked (route : Nat) (request : Http.Request) (captures : Captures)
  /-- The handler of the WebSocket is called back. -/
  | callback (callback : WebSocket.Callback)
  /-- The WebSocket hands a frame to the channel. -/
  | framed (frame : WebSocket.Frame)
  /-- The WebSocket begins to close. -/
  | closing (origin : WebSocket.Origin) (code : WebSocket.CloseCode) (reason : String)
  /-- The protocol is offered a window. -/
  | window (bytes : Bytes)
  /-- The timer of the protocol runs. -/
  | timer
  /-- The protocol hears that the peer is gone. -/
  | peerClosed
  /-- The protocol hears that the connection is over. -/
  | tornDown
  /-- A write is made on the open channel. -/
  | wrote (data : Bytes)
  /-- The wire is offered bytes. -/
  | attempt (offered : Bytes) (answer : WriteAnswer)
  /-- The first write that was not fully sent now is; its completion begins. -/
  | sent
  /-- The channel closes. -/
  | shut
  deriving DecidableEq, Repr

namespace Signal

variable {ε : Type}

/-- What the application noted. -/
def note? : Signal ε → Option ε
  | .note event => some event
  | _ => none

/-- The bytes that the wire took. -/
def accepted : Signal ε → Bytes
  | .attempt offered (.accepts count) => offered.take count
  | _ => []

end Signal
end WebServer

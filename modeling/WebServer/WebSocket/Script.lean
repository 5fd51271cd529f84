import WebServer.Connection.Signal

/-!
# What handlers do

A handler of a WebSocket is called back with what happened, and answers with a script: the actions
it takes on the socket one after another, each of which may depend on how the ones before it came
out, and at the end its own new state. Scripts are finite trees, so every callback ends.
-/
namespace WebServer.WebSocket

/-- The longest reason that fits a close frame beside the code. -/
def reasonLimit : Nat := controlLimit - 2

/-- Why an action is refused. -/
inductive Misuse where
  | payloadTooLong (length : Nat)
  | reasonTooLong (length : Nat)
  | zeroInterval
  | closed
  deriving DecidableEq, Repr

def Misuse.message : Misuse → String
  | .payloadTooLong length => s!"control frame payload of {length} bytes exceeds 125"
  | .reasonTooLong length => s!"close reason of {length} bytes exceeds 123"
  | .zeroInterval => "keepalive interval must be non-zero"
  | .closed => "websocket is closing"

/-- What can be done with a socket. Times are in milliseconds. -/
inductive Action (ε : Type) where
  /-- Sends a frame and goes on with `after` once it is fully sent. -/
  | send (frame : Frame) (after : Completion ε)
  | close (code : CloseCode) (reason : String)
  | setAutoPing (interval timeout : Nat)
  | cancelAutoPing
  /-- Writes bytes past the socket to its connection. -/
  | write (data : Bytes) (after : Completion ε)
  | closeConnection
  | isOpen
  | stats
  deriving Repr

namespace Action

variable {ε : Type}

def text (text : String) : Action ε := .send ⟨true, .text, Text.encode text⟩ .done
def binary (data : Bytes) : Action ε := .send ⟨true, .binary, data⟩ .done
def ping (payload : Bytes) : Action ε := .send ⟨true, .ping, payload⟩ .done
def pong (payload : Bytes) : Action ε := .send ⟨true, .pong, payload⟩ .done

end Action

/-- How an action came out. -/
inductive Outcome where
  | done
  | refused (fault : Misuse)
  | isOpen (value : Bool)
  /-- When the last ping was sent and the last pong came, while pings are sent at all. -/
  | stats (value : Option (Option Nat × Option Nat))
  deriving DecidableEq, Repr

/-- The rest of a callback of a handler with state `σ`. -/
inductive Script (ε σ : Type) where
  | done (state : σ)
  | panic (state : σ)
  | note (event : ε) (next : Script ε σ)
  | act (action : Action ε) (next : Outcome → Script ε σ)

namespace Script

variable {ε σ : Type}

/-- Answers a ping with a pong of the same payload, whatever comes of it. -/
def pong (payload : Bytes) (state : σ) : Script ε σ := .act (.pong payload) fun _ => .done state

end Script

end WebServer.WebSocket

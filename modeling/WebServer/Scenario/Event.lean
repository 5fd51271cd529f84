import WebServer.Scenario.Report
import WebServer.WebSocket.Script

/-!
# Events of a scenario

What the scripted parts of a scenario note as it runs, and the form of it in a report.
-/
namespace WebServer.Scenario

open WebSocket

inductive Event where
  /-- The handler of a route was called. -/
  | called (route : String)
  /-- A socket route was asked to accept. -/
  | asked (route : String) (captures : Captures)
  | opened
  | text (text : String)
  | binary (data : Bytes)
  | ping (payload : Bytes)
  | pong (payload : Bytes)
  | closed (code : CloseCode) (reason : String)
  /-- A write with that label is fully sent. -/
  | sent (label : String)
  | refused (action : String) (fault : Misuse)
  | isOpen (value : Bool)
  /-- A window was shown to a protocol of lines. -/
  | offered (window : Bytes)
  | peerClosed
  | timer
  | peer (address : Option String)
  | noSocket
  deriving DecidableEq, Repr

namespace Report

def captures (captures : Captures) : Json := .list (captures.map (.orNull .text))

def misuseName : Misuse → String
  | .payloadTooLong _ => "ControlPayloadTooLong"
  | .reasonTooLong _ => "ReasonTooLong"
  | .zeroInterval => "ZeroInterval"
  | .closed => "Closed"

def event : Event → Json
  | .called route => .texts ["call", route]
  | .asked route groups => .list [.text "factory", .text route, captures groups]
  | .opened => .texts ["open"]
  | .text content => .texts ["text", content]
  | .binary data => .list [.text "binary", bytes data]
  | .ping payload => .list [.text "ping", bytes payload]
  | .pong payload => .list [.text "pong", bytes payload]
  | .closed code reason => .list [.text "close", .nat code.code.toNat, .text reason]
  | .sent label => .texts ["sent", label]
  | .refused action fault => .texts ["fail", action, misuseName fault, fault.message]
  | .isOpen value => .list [.text "is_open", .bool value]
  | .offered window => .list [.text "offer", bytes window]
  | .peerClosed => .texts ["peer_closed"]
  | .timer => .texts ["timer"]
  | .peer address => .list [.text "peer", .orNull .text address]
  | .noSocket => .texts ["no websocket"]

/-- What the application noted, in order. -/
def events (signals : List (Signal Event)) : Json :=
  .list (signals.filterMap fun signal => signal.note?.map event)

/-- The bytes that the wire took, in order. -/
def written (signals : List (Signal Event)) : Json := bytes (signals.flatMap Signal.accepted)

end Report
end WebServer.Scenario

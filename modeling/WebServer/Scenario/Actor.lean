import WebServer.Scenario.Event

/-!
# Scripted handlers of WebSockets

An actor does fixed things when it is called back: it notes the callback and then performs actions
one after another. What a socket refuses is noted too.
-/
namespace WebServer.Scenario

open WebSocket

/-- One thing that an actor does. -/
inductive Deed where
  | text (text : String)
  | binary (data : Bytes)
  | ping (payload : Bytes)
  | pong (payload : Bytes)
  | send (frame : Frame)
  /-- Sends a frame and notes a label once it is fully sent. -/
  | sendThen (frame : Frame) (label : String)
  | close (code : CloseCode) (reason : String)
  | autoPing (interval timeout : Nat)
  | cancelAutoPing
  | closeConnection
  | write (data : Bytes)
  | isOpen
  /-- Sends back what was received. -/
  | echo
  | panic
  deriving DecidableEq, Repr

namespace Deed

def name : Deed → String
  | .text _ => "text"
  | .binary _ => "binary"
  | .ping _ => "ping"
  | .pong _ => "pong"
  | .send _ => "send"
  | .sendThen .. => "send_then"
  | .close .. => "close"
  | .autoPing .. => "auto_ping"
  | .cancelAutoPing => "cancel_auto_ping"
  | .closeConnection => "conn_close"
  | .write _ => "conn_write"
  | .isOpen => "is_open"
  | .echo => "echo"
  | .panic => "panic"

/-- What an echo sends in answer to a callback. -/
def echoAction? : Callback → Option (Action Event)
  | .message (.text content) => some (.text content)
  | .message (.binary data) => some (.binary data)
  | .ping payload | .pong payload => some (.pong payload)
  | .opened | .closed .. => none

/-- The action that a deed is, if it is one. `callback` is what the actor was called back with. -/
def action? (callback : Option Callback) : Deed → Option (Action Event)
  | .text content => some (.text content)
  | .binary data => some (.binary data)
  | .ping payload => some (.ping payload)
  | .pong payload => some (.pong payload)
  | .send frame => some (.send frame .done)
  | .sendThen frame label => some (.send frame (.note (.sent label) .done))
  | .close code reason => some (.close code reason)
  | .autoPing interval timeout => some (.setAutoPing interval timeout)
  | .cancelAutoPing => some .cancelAutoPing
  | .closeConnection => some .closeConnection
  | .write data => some (.write data .done)
  | .isOpen => some .isOpen
  | .echo => callback.bind echoAction?
  | .panic => none

/-- What an actor notes of the outcome of a deed. -/
def noteOf? (deed : Deed) : Outcome → Option Event
  | .refused fault => some (.refused deed.name fault)
  | .isOpen value => some (.isOpen value)
  | .done | .stats _ => none

/-- Performs deeds one after another. -/
def perform {σ : Type} (state : σ) (callback : Option Callback) : List Deed → Script Event σ
  | [] => .done state
  | .panic :: _ => .panic state
  | deed :: deeds =>
    match deed.action? callback with
    | none => perform state callback deeds
    | some action => .act action fun outcome =>
      match deed.noteOf? outcome with
      | none => perform state callback deeds
      | some event => .note event (perform state callback deeds)

end Deed

/-- What an actor does on each callback. -/
structure Actor where
  /-- Notes messages and does nothing else. -/
  bare : Bool := false
  onOpen : List Deed := []
  onText : List Deed := []
  /-- What it does on certain texts instead. -/
  texts : List (String × List Deed) := []
  onBinary : List Deed := []
  /-- Without deeds of its own it answers a ping with a pong and notes nothing. -/
  onPing : Option (List Deed) := none
  onPong : List Deed := []
  onClose : List Deed := []
  deriving DecidableEq, Repr

namespace Actor

/-- What a bare actor does. -/
def reactBare (actor : Actor) : Callback → Script Event Actor
  | .message (.text text) => .note (.text text) (.done actor)
  | .message (.binary data) => .note (.binary data) (.done actor)
  | .ping payload => .pong payload actor
  | .opened | .pong _ | .closed .. => .done actor

def react (actor : Actor) (callback : Callback) : Script Event Actor :=
  let play (event : Event) (deeds : List Deed) : Script Event Actor :=
    .note event (Deed.perform actor (some callback) deeds)
  if actor.bare then actor.reactBare callback
  else match callback with
    | .opened => play .opened actor.onOpen
    | .message (.text text) => play (.text text) ((actor.texts.lookup text).getD actor.onText)
    | .message (.binary data) => play (.binary data) actor.onBinary
    | .ping payload =>
      match actor.onPing with
      | none => .pong payload actor
      | some deeds => play (.ping payload) deeds
    | .pong payload => play (.pong payload) actor.onPong
    | .closed code reason => play (.closed code reason) actor.onClose

end Actor
end WebServer.Scenario

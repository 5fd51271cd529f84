import WebServer.Connection
import WebServer.Scenario.ConversationTrial
import WebServer.Scenario.Lines
import WebServer.Server.Checking

/-!
# Trials of a connection

A connection is driven by events, by writes of the application and by what happens to its socket.
-/
namespace WebServer.Scenario

open WebSocket

inductive ConnectionStep where
  /-- Bytes arrive and the socket can be read. -/
  | feed (data : Bytes)
  | event (event : Readiness)
  | write (data : Bytes)
  | writeThen (data : Bytes) (after : Completion Event)
  | close
  /-- The timer runs at a time. -/
  | timer (time : Nat)
  | advance (time : Nat)
  /-- The application acts on the WebSocket that its handler saw last. -/
  | act (deed : Deed)
  | socket (step : SocketStep)

/-- How the application reaches the WebSocket of a connection, if its handler has seen one. -/
abbrev Reach (π : Type) := π → Host site → Deed → Option (π × Host site)

/-- Protocols without WebSockets. -/
def reachNone : Reach Lines := fun _ _ _ => none

/-- The handler was called with something that shows it the socket: a bare one sees it with its
first message, any other one when it is opened. -/
def hasSeen (actor : Actor) (signals : List (Signal Event)) : Bool :=
  signals.any fun
    | .callback (.message _) => true
    | .callback .opened => !actor.bare
    | _ => false

/-- Acts on the WebSocket that a connection became. -/
def reachSocket : Reach (Active Actor) := fun active host deed =>
  match active with
  | .http _ => none
  | .webSocket paused =>
    if hasSeen paused.handler host.channel.trace then
      let socket := actOn ⟨paused.session, host.channel, host.now⟩ deed
      some (.webSocket { paused with session := socket.session },
        { host with channel := socket.channel })
    else none

/-- Reaches through what a watched protocol remembers. -/
def Reach.watched {π : Type} (reach : Reach π) : Reach (π × Bool) := fun p host deed =>
  (reach p.1 host deed).map fun (next, host) => ((next, p.2), host)

namespace ConnectionTrial

variable {π : Type}

def onHost (c : Connection site π) (f : Host site → Host site) : Connection site π :=
  { c with host := f c.host }

def step (protocol : Protocol site π) (reach : Reach π) (peer : Option String)
    (c : Connection site π) : ConnectionStep → Connection site π
  | .feed data =>
    let source := SocketStep.onSource c.source (.push data)
    Connection.onEvent protocol { c with source } { readable := true }
  | .event event => c.onEvent protocol event
  | .write data => onHost c (·.write data)
  | .writeThen data after =>
    onHost c fun host => { host with channel := host.channel.writeThen data after }
  | .close => c.close
  | .timer time => c.onTimer protocol time
  | .advance time => onHost c fun host => { host with now := host.now + time }
  | .act deed =>
    match reach c.protocol c.host deed with
    | none => onHost c (·.note Event.noSocket)
    | some (protocol, host) =>
      onHost { c with protocol, host } (·.note (Event.peer peer))
  | .socket step =>
    { c with
      source := step.onSource c.source
      host := { c.host with channel := step.onChannel c.host.channel } }

/-- The reports of steps one after another, unless the protocol fails at one of them. -/
def run (protocol : Protocol site (π × Bool)) (reach : Reach (π × Bool)) (peer : Option String)
    (c : Connection site (π × Bool)) : List ConnectionStep → Option (List Json)
  | [] => some []
  | s :: steps => do
    let after := step protocol reach peer c s
    guard !after.protocol.2
    let report := .ofMembers ([("proto", .text (protocol.name after.protocol)),
      ("queued", .bool after.host.channel.hasPending),
      ("read_closed", .bool after.readClosed)] ++
      Report.channel c.host.channel after.host.channel)
    return report :: (← run protocol reach peer after steps)

end ConnectionTrial
end WebServer.Scenario

import WebServer.Scenario.Actor
import WebServer.Scenario.SocketStep
import WebServer.WebSocket.Offsets

/-!
# Trials of a conversation

A WebSocket is driven directly: it is offered windows, its timers run, and the application acts on
its socket from outside.
-/
namespace WebServer.Scenario

open WebSocket

abbrev Talk := Conversation Event Actor

structure ConversationTrial where
  talk : Talk
  buffer : Bytes := []

inductive ConversationStep where
  | feed (data : Bytes)
  | act (deed : Deed)
  /-- The timer runs at a time. -/
  | timer (time : Nat)
  /-- The timer runs when it is due. -/
  | dueTimer
  | advance (time : Nat)
  | finish
  | stats
  | socket (step : SocketStep)

/-- Performs a deed on a socket from outside of any callback. -/
def actOn (socket : Socket Event) (deed : Deed) : Socket Event :=
  ((Deed.perform () none [deed]).run socket).2

namespace ConversationTrial

/-- The bytes used and the move of a window, and the trial after it; `none` if a sum of offsets is
no word. -/
def feed (t : ConversationTrial) (data : Bytes) : Option (Json × ConversationTrial) := do
  let buffer := t.buffer ++ data
  let (rest, talk) ← t.talk.takeFramesChecked Actor.react buffer
  let used := buffer.length - (rest.getD []).length
  let next : Json := if rest.isSome then .null else .text "close"
  return (.ofMembers [("used", .nat used), ("next", next)], { talk, buffer := rest.getD [] })

def step (t : ConversationTrial) : ConversationStep → Option (Json × ConversationTrial)
  | .feed data => t.feed data
  | .act deed => some (.null, { t with talk := { t.talk with socket := actOn t.talk.socket deed } })
  | .timer time => some (.null, { t with talk := t.talk.onTimer Actor.react time })
  | .dueTimer =>
    match t.talk.socket.deadline with
    | none => some (.null, t)
    | some time => some (.null, { t with talk := t.talk.onTimer Actor.react time })
  | .advance time =>
    let socket := { t.talk.socket with now := t.talk.socket.now + time }
    some (.null, { t with talk := { t.talk with socket } })
  | .finish => some (.null, { t with talk := t.talk.finish Actor.react })
  | .stats =>
    let pair (times : Option Nat × Option Nat) : Json :=
      .list [.orNull .nat times.1, .orNull .nat times.2]
    some (.orNull pair t.talk.socket.stats, t)
  | .socket step =>
    let socket := { t.talk.socket with channel := step.onChannel t.talk.socket.channel }
    some (.null, { t with talk := { t.talk with socket } })

def report (before after : ConversationTrial) (result : Json) : Json :=
  .ofMembers ([("result", result), ("deadline", .orNull .nat after.talk.socket.deadline),
    ("open", .bool after.talk.socket.isOpen)] ++
    Report.channel before.talk.socket.channel after.talk.socket.channel)

/-- The reports of steps one after another, unless one of them fails. -/
def runSteps (t : ConversationTrial) : List ConversationStep → Option (List Json)
  | [] => some []
  | step :: steps => do
    let (result, after) ← t.step step
    return t.report after result :: (← runSteps after steps)

/-- Opens a conversation and takes the steps. -/
def run (actor : Actor) (limit : Nat) (steps : List ConversationStep) : Option (List Json) :=
  let socket : Socket Event := { channel := {} }
  let before : ConversationTrial := { talk := { socket, handler := actor, limit } }
  let after := { before with talk := before.talk.start Actor.react }
  (after.runSteps steps).map (before.report after .null :: ·)

end ConversationTrial
end WebServer.Scenario

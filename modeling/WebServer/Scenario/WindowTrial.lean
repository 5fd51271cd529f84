import WebServer.Scenario.Registry
import WebServer.Scenario.SocketStep
import WebServer.Server.Checking

/-!
# Trials of a server's protocol

The protocol is offered windows directly, without a connection around it. What it does not take
stays in a buffer.
-/
namespace WebServer.Scenario

structure WindowTrial where
  host : Host site
  active : Active Actor := .http none
  buffer : Bytes := []

inductive WindowStep where
  | feed (data : Bytes)
  /-- Feeds pieces of that size one after another. -/
  | chunks (data : Bytes) (size : Nat)
  | socket (step : SocketStep)

namespace WindowTrial

/-- Pieces of a size, of which the last one may be shorter. -/
def pieces (size : Nat) (data : Bytes) : List Bytes :=
  if _h : data = [] ∨ size = 0 then []
  else data.take size :: pieces size (data.drop size)
termination_by data.length
decreasing_by
  have := List.length_pos_iff.2 (not_or.1 _h).1
  simp only [List.length_drop]; omega

/-- Offers the buffer with more bytes behind it; `none` if a sum of offsets is no word. -/
def offer (config : Config) (t : WindowTrial) (data : Bytes) :
    Option (Nat × Option String × WindowTrial) := do
  let buffer := t.buffer ++ data
  let (consumed, host) ← Active.consumeChecked config t.active buffer t.host
  let move := match consumed.move with
    | .wait => none
    | .switch => some s!"switch {consumed.protocol.name}"
    | .close => some "close"
  return (consumed.used, move,
    { host, active := consumed.protocol, buffer := buffer.drop consumed.used })

/-- Offers pieces one after another. Gives how many bytes each of them used and the last move. -/
def offerAll (config : Config) (t : WindowTrial) (move : Option String) :
    List Bytes → Option (List Nat × Option String × WindowTrial)
  | [] => some ([], move, t)
  | piece :: rest => do
    let (used, next, t) ← t.offer config piece
    let (useds, move, t) ← offerAll config t (next <|> move) rest
    return (used :: useds, move, t)

def step (config : Config) (t : WindowTrial) :
    WindowStep → Option (List Nat × Option String × WindowTrial)
  | .feed data => t.offerAll config none [data]
  | .chunks data size => t.offerAll config none (pieces size data)
  | .socket step =>
    some ([], none, { t with host := { t.host with channel := step.onChannel t.host.channel } })

/-- The reports of steps one after another, unless one of them fails. -/
def run (config : Config) (t : WindowTrial) : List WindowStep → Option (List Json)
  | [] => some []
  | step :: steps => do
    let (used, move, after) ← t.step config step
    let report := .ofMembers ([("used", .list (used.map .nat)), ("next", .orNull .text move),
      ("proto", .text after.active.name), ("left", .nat after.buffer.length)] ++
      Report.channel t.host.channel after.host.channel)
    return report :: (← run config after steps)

end WindowTrial
end WebServer.Scenario

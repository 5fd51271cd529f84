import WebServer.Connection.Channel
import WebServer.Scenario.Event

/-!
# Steps on a socket

What a scenario does to the two sides of a socket between the events of a connection.
-/
namespace WebServer.Scenario

inductive SocketStep where
  /-- Bytes arrive. -/
  | push (data : Bytes)
  /-- Nothing more will arrive. -/
  | ended
  /-- Writes fail from now on. -/
  | broken
  | budget (count : Option Nat)
  /-- Adds to the budget. -/
  | grant (count : Nat)
  | reads (answers : List ReadAnswer)
  | writes (answers : List WriteAnswer)
  deriving DecidableEq, Repr

namespace SocketStep

def onWire (wire : Wire) : SocketStep → Wire
  | .broken => { wire with broken := true }
  | .budget count => { wire with budget := count }
  | .grant count => { wire with budget := some (wire.budget.getD 0 + count) }
  | .writes answers => { wire with answers := wire.answers ++ answers }
  | .push _ | .ended | .reads _ => wire

def onSource (source : Source) : SocketStep → Source
  | .push data => { source with arrived := source.arrived ++ data }
  | .ended => { source with ended := true }
  | .reads answers => { source with answers := source.answers ++ answers }
  | .broken | .budget _ | .grant _ | .writes _ => source

def onChannel (channel : Channel Event) (step : SocketStep) : Channel Event :=
  { channel with wire := step.onWire channel.wire }

end SocketStep

namespace Report

/-- What happened on a channel since its trace had that length: the bytes that the wire took and
the events, and how the channel stands. -/
def channel (before : Channel Event) (after : Channel Event) : List (String × Json) :=
  let signals := after.since before.trace.length
  [("out", written signals), ("ev", events signals), ("closed", .bool (!after.isOpen)),
    ("pending", .nat after.unsent)]

end Report
end WebServer.Scenario

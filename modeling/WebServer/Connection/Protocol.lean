import WebServer.Routing.Dispatcher
import WebServer.Connection.Channel

/-!
# Protocols

What gives the bytes of a connection their meaning. A protocol is shown a window of bytes, says
how many of them it took and whether it stays, hands over to another protocol, or wants the
connection closed. It acts on the connection through its host.
-/
namespace WebServer

/-- What a protocol acts on: the sending side of its connection, the tables of the application and
the clock, in milliseconds. -/
structure Host (app : App) where
  channel : Channel app.Event := {}
  tables : app.Tables := {}
  now : Nat := 0

namespace Host

variable {app : App}

def record (host : Host app) (signal : Signal app.Event) : Host app :=
  { host with channel := host.channel.record signal }

def note (host : Host app) (event : app.Event) : Host app := host.record (.note event)

def write (host : Host app) (data : Bytes) : Host app :=
  { host with channel := host.channel.write data }

def flush (host : Host app) : Host app := { host with channel := host.channel.flush }

def close (host : Host app) : Host app := { host with channel := host.channel.close }

def isOpen (host : Host app) : Bool := host.channel.isOpen

/-- Takes over what a dispatch did and gives its result. -/
def adopt {α : Type} (host : Host app) (dispatched : Dispatched app α) : α × Host app :=
  (dispatched.result,
    { host with
      tables := dispatched.tables
      channel := host.channel.recordAll dispatched.signals })

end Host

/-- How a connection goes on behind the bytes that were taken. -/
inductive Move where
  | wait
  /-- Another protocol takes over, also the rest of the window. -/
  | switch
  /-- No more bytes are read; the connection closes once everything is sent. -/
  | close
  deriving DecidableEq, Repr

/-- What a protocol did with a window. -/
structure Consumed (π : Type) where
  used : Nat
  /-- The protocol that goes on. -/
  protocol : π
  move : Move

/-- Protocols with states of a type. -/
structure Protocol (app : App) (π : Type) where
  name : π → String
  consume : π → Bytes → Host app → Consumed π × Host app
  /-- The peer sends no more, or vanished. -/
  peerClosed : π → Host app → π × Host app := fun p host => (p, host)
  /-- The connection is over. -/
  tornDown : π → Host app → π × Host app := fun p host => (p, host)
  /-- When the timer should run next. -/
  deadline : π → Option Nat := fun _ => none
  timer : π → Nat → Host app → π × Host app := fun p _ host => (p, host)
  /-- How many times in a row protocols may hand over without taking a byte. -/
  handovers : Nat := 0

end WebServer

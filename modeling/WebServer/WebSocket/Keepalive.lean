/-!
# Keepalive

Pings at regular times, and the time by which the pong for the last of them is due. All times are
in milliseconds.
-/
namespace WebServer.WebSocket

structure Keepalive where
  interval : Nat
  timeout : Nat
  nextPing : Nat
  /-- The pong for the last ping is due then. -/
  pongDeadline : Option Nat := none
  lastPing : Option Nat := none
  lastPong : Option Nat := none
  deriving DecidableEq, Repr

/-- What the timer asks for. -/
inductive Tick where
  | idle | ping | timedOut
  deriving DecidableEq, Repr

namespace Keepalive

/-- The first ping is due after one interval. -/
def start (now interval timeout : Nat) : Keepalive :=
  { interval, timeout, nextPing := now + interval }

/-- When `tick` has something to do next. -/
def deadline (k : Keepalive) : Nat :=
  match k.pongDeadline with
  | some due => min due k.nextPing
  | none => k.nextPing

/-- What is due at a time. A pong that did not come counts first; a ping sets the time by which its
pong is due. -/
def tick (k : Keepalive) (now : Nat) : Tick × Keepalive :=
  if k.pongDeadline.any (· ≤ now) then (.timedOut, k)
  else if k.nextPing ≤ now then
    (.ping, { k with
      lastPing := some now
      pongDeadline := some (now + k.timeout)
      nextPing := now + k.interval })
  else (.idle, k)

/-- A pong came, whichever ping it is for. -/
def pongReceived (k : Keepalive) (now : Nat) : Keepalive :=
  { k with pongDeadline := none, lastPong := some now }

end Keepalive
end WebServer.WebSocket

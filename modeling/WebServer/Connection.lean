import WebServer.Connection.Protocol

/-!
# Connections

A connection owns both sides of a socket, the bytes that were read and not yet taken, and the
protocol that takes them. It is driven by events: the socket can be read or written, the peer hung
up, a timer ran out. Once it drains, because the protocol wants it closed or because the peer sends
no more, it reads nothing and closes as soon as all that was written is sent.
-/
namespace WebServer

structure Connection (app : App) (π : Type) where
  host : Host app := {}
  source : Source := {}
  /-- What was read and not yet taken. -/
  inbound : Bytes := []
  protocol : π
  /-- No more bytes are offered; the connection closes once everything is sent. -/
  draining : Bool := false
  /-- The peer sends no more. -/
  readClosed : Bool := false
  /-- The most bytes that one read takes. -/
  chunk : Nat

/-- What a socket is ready for. -/
structure Readiness where
  readable : Bool := false
  writable : Bool := false
  hangup : Bool := false
  deriving DecidableEq, Repr

/-- How reading all that is there ends. -/
inductive ReadEnd where
  /-- More may come later. -/
  | more
  | ended | failed
  deriving DecidableEq, Repr

namespace Source

theorem length_take_lt {s : Source} {size : Nat} {b : UInt8} {bs : Bytes}
    (h : (s.take size).1 = .bytes (b :: bs)) :
    (s.take size).2.arrived.length < s.arrived.length ∧
      (s.take size).2.answers = s.answers := by
  unfold take at h ⊢
  split
  · rename_i heq
    rw [heq] at h
    simp only at h
    split at h <;> simp at h
  · rename_i heq
    split at h
    · contradiction
    · simp only [Reading.bytes.injEq] at h
      cases size with
      | zero => simp at h
      | succ size =>
        cases hs : s.arrived with
        | nil => simp_all
        | cons c cs =>
          refine ⟨?_, rfl⟩
          simp only [List.drop_succ_cons, List.length_drop, List.length_cons]
          omega

/-- The steps that reading all that is there can still take. -/
def stepsLeft (s : Source) : Nat := s.answers.length + s.arrived.length

theorem stepsLeft_read_lt_of_bytes {s : Source} {size : Nat} {b : UInt8} {bs : Bytes}
    (h : (s.read size).1 = .bytes (b :: bs)) : (s.read size).2.stepsLeft < s.stepsLeft := by
  unfold read at h ⊢
  split
  · rename_i heq
    rw [heq] at h
    have := length_take_lt h
    simp only [stepsLeft, this.2]; omega
  · rename_i heq
    rw [heq] at h
    have := length_take_lt h
    simp only [stepsLeft, this.2, heq, List.length_cons] at this ⊢; omega
  all_goals
    rename_i heq
    rw [heq] at h
    simp at h

theorem stepsLeft_read_lt_of_interrupted {s : Source} {size : Nat}
    (h : (s.read size).1 = .interrupted) : (s.read size).2.stepsLeft < s.stepsLeft := by
  have none_take (s : Source) (size : Nat) : (s.take size).1 ≠ .interrupted := by
    unfold take
    split
    · split <;> simp
    · simp
  unfold read at h ⊢
  split
  · rename_i heq
    rw [heq] at h
    exact absurd h (none_take _ _)
  · rename_i heq
    rw [heq] at h
    exact absurd h (none_take _ _)
  · rename_i heq
    simp [stepsLeft, heq]
  all_goals
    rename_i heq
    rw [heq] at h
    simp at h

/-- Reads in chunks until less than a chunk is there. `gathered` holds what was read before, the
latest byte first. -/
def readAll (s : Source) (chunk : Nat) (gathered : Bytes) : ReadEnd × Bytes × Source :=
  match _h : s.read chunk with
  | (.bytes [], s') => (.ended, gathered.reverse, s')
  | (.bytes (b :: bs), s') =>
    let gathered := (b :: bs).reverse ++ gathered
    if bs.length + 1 < chunk then (.more, gathered.reverse, s')
    else readAll s' chunk gathered
  | (.interrupted, s') => readAll s' chunk gathered
  | (.wouldBlock, s') => (.more, gathered.reverse, s')
  | (.fails, s') => (.failed, gathered.reverse, s')
termination_by s.stepsLeft
decreasing_by
  · have h : (s.read chunk).1 = .bytes (b :: bs) := by rw [_h]
    have := stepsLeft_read_lt_of_bytes h
    rwa [_h] at this
  · have h : (s.read chunk).1 = .interrupted := by rw [_h]
    have := stepsLeft_read_lt_of_interrupted h
    rwa [_h] at this

end Source

namespace Connection

variable {app : App} {π : Type}

def isClosed (c : Connection app π) : Bool := !c.host.isOpen

/-- Offers what was read to the protocol, and after a handover to the next one. `handovers` counts
those that are still allowed before a byte is taken. -/
def offer (protocol : Protocol app π) (c : Connection app π) (handovers : Nat) :
    Connection app π :=
  match _h : c.inbound with
  | [] => c
  | b :: bs =>
    if c.isClosed then c
    else
      let (consumed, host) :=
        protocol.consume c.protocol (b :: bs) (c.host.record (.window (b :: bs)))
      let c := { c with host, protocol := consumed.protocol }
      match consumed.used, consumed.move with
      | used, .wait => { c with inbound := (b :: bs).drop used }
      | _, .close => { c with inbound := [], draining := true }
      | used + 1, .switch =>
        offer protocol { c with inbound := bs.drop used } protocol.handovers
      | 0, .switch =>
        match handovers with
        | 0 => { c with inbound := b :: bs }
        | handovers + 1 => offer protocol { c with inbound := b :: bs } handovers
termination_by (c.inbound.length, handovers)
decreasing_by
  · rw [_h]
    exact Prod.Lex.left _ _ (by simp only [List.length_drop, List.length_cons]; omega)
  · rw [_h]
    exact Prod.Lex.right _ (Nat.lt_succ_self _)

/-- Lets the protocol take what was read. -/
def process (protocol : Protocol app π) (c : Connection app π) : Connection app π :=
  if c.draining then { c with inbound := [] } else c.offer protocol protocol.handovers

/-- Tells the protocol that nothing more will come. -/
def tellPeerClosed (protocol : Protocol app π) (c : Connection app π) : Connection app π :=
  let (next, host) := protocol.peerClosed c.protocol (c.host.record .peerClosed)
  { c with protocol := next, host }

def close (c : Connection app π) : Connection app π := { c with host := c.host.close }

/-- The peer vanished. -/
def hangUp (protocol : Protocol app π) (c : Connection app π) : Connection app π :=
  (c.tellPeerClosed protocol).close

/-- The peer sends no more, but may still read. -/
def endOfStream (protocol : Protocol app π) (c : Connection app π) : Connection app π :=
  tellPeerClosed protocol { c with readClosed := true, draining := true, inbound := [] }

def closeIfDrained (c : Connection app π) : Connection app π :=
  if c.draining && !c.host.channel.hasPending then c.close else c

/-- The end of an event: queued writes go out if the socket takes them. -/
def settle (c : Connection app π) (writable : Bool) : Connection app π :=
  (if writable then { c with host := c.host.flush } else c).closeIfDrained

/-- Handles what the socket became ready for. -/
def onEvent (protocol : Protocol app π) (c : Connection app π) (event : Readiness) :
    Connection app π :=
  if c.isClosed then c
  else if event.hangup then c.hangUp protocol
  else if event.readable && !c.readClosed then
    let (readEnd, bytes, source) := c.source.readAll c.chunk []
    let c := { c with source, inbound := c.inbound ++ bytes }
    match readEnd with
    | .more => (c.process protocol).settle event.writable
    | .ended => ((c.process protocol).endOfStream protocol).settle event.writable
    | .failed => c.hangUp protocol
  else c.settle event.writable

/-- Runs the timers that are due. -/
def onTimer (protocol : Protocol app π) (c : Connection app π) (now : Nat) : Connection app π :=
  if c.draining || c.isClosed then c
  else
    let (next, host) := protocol.timer c.protocol now (c.host.record .timer)
    { c with protocol := next, host }.closeIfDrained

/-- When `onTimer` should run next. -/
def deadline (protocol : Protocol app π) (c : Connection app π) : Option Nat :=
  if c.draining then none else protocol.deadline c.protocol

/-- Ends the connection. -/
def tearDown (protocol : Protocol app π) (c : Connection app π) : Connection app π :=
  let c := c.close
  let (next, host) := protocol.tornDown c.protocol (c.host.record .tornDown)
  { c with protocol := next, host }

end Connection
end WebServer

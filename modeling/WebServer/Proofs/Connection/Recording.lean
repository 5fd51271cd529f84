import WebServer.Proofs.Connection.Forgetting

/-!
# Connections with a journal

A protocol can keep a journal of what it is shown and what it says, without anything else being
different: `Protocol.recording` writes it, and `Connection.plain` forgets it. Together with what the
reads gave, it is the history of the receiving side of a connection. With a journal a connection
goes through the same episodes as without one (`plain_undergoAllNoting`).
-/
namespace WebServer

/-- What passes on the receiving side of a connection. -/
inductive Passage (π : Type) where
  /-- A read gives bytes. -/
  | read (bytes : Bytes)
  /-- The protocol is shown a window. It says what it did with it and leaves the channel open, or
  not. -/
  | shown (protocol : π) (window : Bytes) (said : Consumed π) (isOpen : Bool)
  /-- The protocol hears that the peer sends no more, or vanished. -/
  | gone (next : π)
  /-- The protocol changes without being shown anything. -/
  | changed (next : π)
  /-- The channel is closed. -/
  | closed

abbrev Journal (π : Type) := List (Passage π)

variable {app : App} {π ρ : Type}

namespace Protocol

/-- The same protocol with a journal. -/
def recording (protocol : Protocol app π) : Protocol app (π × Journal π) where
  name p := protocol.name p.1
  consume p window host :=
    let (said, host) := protocol.consume p.1 window host
    let journal := p.2 ++ [.shown p.1 window said host.isOpen]
    (⟨said.used, (said.protocol, journal), said.move⟩, host)
  peerClosed p host :=
    let (next, host) := protocol.peerClosed p.1 host
    ((next, p.2 ++ [.gone next]), host)
  tornDown p host :=
    let (next, host) := protocol.tornDown p.1 host
    ((next, p.2 ++ [.changed next]), host)
  deadline p := protocol.deadline p.1
  timer p now host :=
    let (next, host) := protocol.timer p.1 now host
    ((next, p.2 ++ [.changed next]), host)
  handovers := protocol.handovers

theorem recording_consume {protocol : Protocol app π} {p : π × Journal π} {window : Bytes}
    {host after : Host app} {said : Consumed (π × Journal π)}
    (h : protocol.recording.consume p window host = (said, after)) :
    ∃ next, protocol.consume p.1 window host = (⟨said.used, next, said.move⟩, after) ∧
      said.protocol =
        (next, p.2 ++ [.shown p.1 window ⟨said.used, next, said.move⟩ after.isOpen]) := by
  obtain ⟨rfl, rfl⟩ := Prod.mk.inj h
  exact ⟨_, rfl, rfl⟩

theorem recording_extends (protocol : Protocol app π) :
    protocol.recording.Extends Prod.fst protocol := ⟨rfl, rfl, rfl, rfl⟩

end Protocol

namespace Source

/-- The bytes that reads in chunks give one after another, until less than a chunk is there. -/
def readings (s : Source) (chunk : Nat) : List Bytes :=
  match _h : s.read chunk with
  | (.bytes (b :: bs), s') =>
    (b :: bs) :: if bs.length + 1 < chunk then [] else readings s' chunk
  | (.interrupted, s') => readings s' chunk
  | (.bytes [], _) | (.wouldBlock, _) | (.fails, _) => []
termination_by s.stepsLeft
decreasing_by
  · have h : (s.read chunk).1 = .bytes (b :: bs) := by rw [_h]
    have := stepsLeft_read_lt_of_bytes h
    rwa [_h] at this
  · have h : (s.read chunk).1 = .interrupted := by rw [_h]
    have := stepsLeft_read_lt_of_interrupted h
    rwa [_h] at this

/-- All that is read are the bytes that the reads gave. -/
theorem readAll_readings (s : Source) (chunk : Nat) (gathered : Bytes) :
    (s.readAll chunk gathered).2.1 = gathered.reverse ++ (s.readings chunk).flatten := by
  fun_induction readAll s chunk gathered with
  | case1 s gathered s' read | case5 s gathered s' read | case6 s gathered s' read =>
    rw [readings, read]
    simp
  | case2 s gathered b bs s' read gathered' short =>
    rw [readings, read]
    simp [gathered', short]
  | case3 s gathered b bs s' read gathered' whole ih =>
    rw [readings, read, ih]
    simp [gathered', whole]
  | case4 s gathered s' read ih =>
    rw [readings, read, ih]

end Source

namespace Connection

section Journal

variable (protocol : Protocol app π) (c : Connection app (π × Journal π))

def journal : Journal π := c.protocol.2

/-- The connection without its journal. -/
def plain : Connection app π where
  host := c.host
  source := c.source
  inbound := c.inbound
  protocol := c.protocol.1
  draining := c.draining
  readClosed := c.readClosed
  chunk := c.chunk

def enter (entries : Journal π) : Connection app (π × Journal π) :=
  { c with protocol := (c.protocol.1, c.protocol.2 ++ entries) }

/-- What the reads of an episode give, if there are any. -/
def reads : Episode app π → Journal π
  | .ready event =>
    if c.isClosed || event.hangup || !event.readable || c.readClosed then []
    else (c.source.readings c.chunk).map .read
  | _ => []

/-- A connection with a journal goes through an episode. What is read is entered at the beginning,
and in the end that the channel is closed, if it is. -/
def undergoNoting (episode : Episode app π) : Connection app (π × Journal π) :=
  let after := (c.enter (c.reads episode)).undergo protocol.recording
    (episode.map fun next => (next, c.journal ++ [.changed next]))
  if after.isClosed then after.enter [.closed] else after

def undergoAllNoting (episodes : List (Episode app π)) : Connection app (π × Journal π) :=
  episodes.foldl (undergoNoting protocol) c

end Journal

/-- The beginning of a journal. -/
def withJournal (c : Connection app π) : Connection app (π × Journal π) where
  host := c.host
  source := c.source
  inbound := c.inbound
  protocol := (c.protocol, [])
  draining := c.draining
  readClosed := c.readClosed
  chunk := c.chunk

section Plain

variable (protocol : Protocol app π) (c : Connection app (π × Journal π))

theorem plain_undergoNoting (episode : Episode app π) :
    (c.undergoNoting protocol episode).plain = c.plain.undergo protocol episode := by
  have after := forgetting_undergo protocol.recording_extends (c.enter (c.reads episode))
    (fun next => (next, c.journal ++ [.changed next])) (fun _ => rfl) episode
  rw [undergoNoting]
  split <;> exact after

/-- A connection goes through the same with a journal and without one. -/
theorem plain_undergoAllNoting (episodes : List (Episode app π)) :
    (c.undergoAllNoting protocol episodes).plain = c.plain.undergoAll protocol episodes := by
  induction episodes generalizing c with
  | nil => rfl
  | cons episode episodes ih =>
    refine (ih _).trans ?_
    rw [plain_undergoNoting]
    rfl

end Plain
end Connection
end WebServer

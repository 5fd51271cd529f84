import WebServer.Proofs.Channel.Silent
import WebServer.Proofs.Connection.Recording

/-!
# No byte that comes in is lost

Whatever protocols say of the windows that they are shown, and whatever the socket gives: each
window is what the reads gave by then, without what the protocols took before (`windows_lossless`).
The invariant is that a connection which still reads and offers holds just these bytes; `Lossless`
says it of its journal.
-/
namespace WebServer

variable {app : App} {π : Type}

namespace Passage

/-- The protocol that goes on. -/
def next? : Passage π → Option π
  | .shown _ _ said _ => some said.protocol
  | .gone next | .changed next => some next
  | .read _ | .closed => none

/-- Whether nothing more is to be shown: the protocol wanted to close, the peer is gone or sends no
more, or the channel is closed. -/
def isLast : Passage π → Bool
  | .shown _ _ said isOpen => said.move = .close || !isOpen
  | .gone _ | .closed => true
  | .read _ | .changed _ => false

/-- The bytes that a read gave. -/
def bytes : Passage π → Bytes
  | .read bytes => bytes
  | _ => []

/-- How many bytes a protocol took of its window. It cannot take more than there are. -/
def count : Passage π → Nat
  | .shown _ window said _ => min said.used window.length
  | _ => 0

end Passage

namespace Journal

/-- All bytes that were read. -/
def returned (journal : Journal π) : Bytes := journal.flatMap Passage.bytes

/-- How many of them were taken. -/
def taken (journal : Journal π) : Nat :=
  journal.foldl (fun taken passage => taken + passage.count) 0

/-- The protocol that is active in the end. -/
def active (first : π) (journal : Journal π) : π :=
  journal.foldl (fun protocol passage => passage.next?.getD protocol) first

/-- Each window that was shown was not empty, held the bytes that were read and not taken yet, and
was shown to the protocol that was active, while nothing had come to an end. -/
def Lossless (first : π) (journal : Journal π) : Prop :=
  ∀ before after protocol window said isOpen,
    journal = before ++ .shown protocol window said isOpen :: after →
      window ≠ [] ∧ window = (returned before).drop (taken before) ∧
        protocol = active first before ∧ ∀ passage ∈ before, passage.isLast = false

variable {first : π} {journal : Journal π}

theorem returned_concat (passage : Passage π) :
    returned (journal ++ [passage]) = returned journal ++ passage.bytes := by
  simp [returned]

theorem taken_concat (passage : Passage π) :
    taken (journal ++ [passage]) = taken journal + passage.count := by
  simp [taken]

theorem active_concat (passage : Passage π) :
    active first (journal ++ [passage]) = passage.next?.getD (active first journal) := by
  simp [active]

theorem Lossless.nil : Lossless first ([] : Journal π) := by
  intro before after protocol window said isOpen split
  simp at split

/-- A journal grows by passages that show nothing, or show what is there. -/
theorem Lossless.concat (h : Lossless first journal) {passage : Passage π}
    (fits : ∀ protocol window said isOpen, passage = .shown protocol window said isOpen →
      window ≠ [] ∧ window = (returned journal).drop (taken journal) ∧
        protocol = active first journal ∧ ∀ passage ∈ journal, passage.isLast = false) :
    Lossless first (journal ++ [passage]) := by
  intro before after protocol window said isOpen split
  rcases List.eq_nil_or_concat after with rfl | ⟨after, last, rfl⟩
  · obtain ⟨rfl, same⟩ := List.append_inj' split rfl
    exact fits protocol window said isOpen (List.cons.inj same).1
  · refine h before after protocol window said isOpen ?_
    rw [List.concat_eq_append, ← List.cons_append, ← List.append_assoc] at split
    exact (List.append_inj' split rfl).1

end Journal

namespace Connection

open Journal

/-- A connection keeps to its journal: as long as it reads and offers, it holds what was read and
not taken. -/
structure Faithful (first : π) (c : Connection app (π × Journal π)) : Prop where
  lossless : Lossless first c.journal
  taken_le : taken c.journal ≤ (returned c.journal).length
  active_eq : c.protocol.1 = active first c.journal
  goesOn : c.draining = false → c.isClosed = false →
    c.inbound = (returned c.journal).drop (taken c.journal) ∧
      ∀ passage ∈ c.journal, passage.isLast = false

namespace Faithful

variable {first : π} {protocol : Protocol app π} {c c' : Connection app (π × Journal π)}

/-- The journal and the bytes stay as they are, or the connection comes to an end. -/
theorem of_same (h : Faithful first c) (protocol_eq : c'.protocol = c.protocol)
    (goesOn : c'.draining = false → c'.isClosed = false →
      c.draining = false ∧ c.isClosed = false ∧ c'.inbound = c.inbound) : Faithful first c' := by
  have journal : c'.journal = c.journal := congrArg Prod.snd protocol_eq
  refine ⟨journal ▸ h.lossless, journal ▸ h.taken_le, ?_, fun reads opened => ?_⟩
  · rw [journal, protocol_eq]
    exact h.active_eq
  · obtain ⟨before, opened', inbound⟩ := goesOn reads opened
    rw [journal, inbound]
    exact h.goesOn before opened'

/-- Something other than a read or a window is entered. -/
theorem of_entry (h : Faithful first c) (passage : Passage π) (bytes : passage.bytes = [])
    (other : ∀ protocol window said isOpen, passage ≠ .shown protocol window said isOpen)
    (journal : c'.journal = c.journal ++ [passage])
    (active_eq : c'.protocol.1 = passage.next?.getD c.protocol.1)
    (goesOn : c'.draining = false → c'.isClosed = false → c.draining = false ∧
      c.isClosed = false ∧ c'.inbound = c.inbound ∧ passage.isLast = false) :
    Faithful first c' := by
  have count : passage.count = 0 := by
    cases passage with
    | shown => exact absurd rfl (other _ _ _ _)
    | read | gone | changed | closed => rfl
  have returned_eq : returned c'.journal = returned c.journal := by
    rw [journal, returned_concat, bytes, List.append_nil]
  have taken_eq : taken c'.journal = taken c.journal := by
    rw [journal, taken_concat, count, Nat.add_zero]
  refine ⟨?_, ?_, ?_, fun reads opened => ?_⟩
  · rw [journal]
    exact h.lossless.concat fun _ _ _ _ same => absurd same (other _ _ _ _)
  · rw [returned_eq, taken_eq]
    exact h.taken_le
  · rw [active_eq, journal, active_concat, h.active_eq]
  · obtain ⟨before, opened', inbound, last⟩ := goesOn reads opened
    obtain ⟨holds, live⟩ := h.goesOn before opened'
    rw [inbound, returned_eq, taken_eq, journal]
    exact ⟨holds, List.forall_mem_append.2 ⟨live, List.forall_mem_singleton.2 last⟩⟩

/-- A protocol is shown what the connection holds. -/
theorem of_shown (h : Faithful first c) (reads : c.draining = false) (opened : c.isClosed = false)
    {window : Bytes} (inbound : c.inbound = window) (some : window ≠ []) {used : Nat} {next : π}
    {move : Move} (protocol_eq : c'.protocol =
      (next, c.journal ++ [.shown c.protocol.1 window ⟨used, next, move⟩ c'.host.isOpen]))
    (goesOn : c'.draining = false → move ≠ .close ∧ c'.inbound = window.drop used) :
    Faithful first c' := by
  let passage : Passage π := .shown c.protocol.1 window ⟨used, next, move⟩ c'.host.isOpen
  have journal : c'.journal = c.journal ++ [passage] := congrArg Prod.snd protocol_eq
  obtain ⟨holds, live⟩ := h.goesOn reads opened
  rw [inbound] at holds
  have left : window.length = (returned c.journal).length - taken c.journal := by
    rw [holds, List.length_drop]
  have taken_eq : taken c'.journal = taken c.journal + min used window.length := by
    rw [journal, taken_concat]
    rfl
  have returned_eq : returned c'.journal = returned c.journal := by
    rw [journal, returned_concat]
    exact List.append_nil _
  have taken_le := h.taken_le
  refine ⟨?_, ?_, ?_, fun reads' opened' => ?_⟩
  · rw [journal]
    refine h.lossless.concat fun _ _ _ _ same => ?_
    obtain ⟨rfl, rfl, rfl, rfl⟩ := Passage.shown.inj same
    exact ⟨some, holds, h.active_eq, live⟩
  · rw [taken_eq, returned_eq]
    omega
  · rw [journal, active_concat, protocol_eq]
    rfl
  · obtain ⟨waits, inbound'⟩ := goesOn reads'
    have isOpen : c'.host.isOpen = true := by simpa [isClosed] using opened'
    have last : passage.isLast = false := by simp [passage, Passage.isLast, waits, isOpen]
    have behind : window.drop used = window.drop (min used window.length) := by
      rcases Nat.le_total used window.length with within | beyond
      · rw [Nat.min_eq_left within]
      · rw [Nat.min_eq_right beyond, List.drop_length, List.drop_of_length_le beyond]
    rw [inbound', behind, taken_eq, returned_eq, ← List.drop_drop, ← holds, journal]
    exact ⟨rfl, List.forall_mem_append.2 ⟨live, List.forall_mem_singleton.2 last⟩⟩

/-- What is read is added to what the connection holds. -/
theorem read (h : Faithful first c) (source : Source) (readings : List Bytes) :
    Faithful first { c.enter (readings.map .read) with
      source, inbound := c.inbound ++ readings.flatten } := by
  induction readings generalizing c with
  | nil =>
    refine h.of_same (Prod.ext rfl (List.append_nil _)) fun reads opened => ?_
    exact ⟨reads, opened, List.append_nil _⟩
  | cons bytes readings ih =>
    let next : Connection app (π × Journal π) :=
      { c.enter [.read bytes] with inbound := c.inbound ++ bytes }
    have journal : next.journal = c.journal ++ [.read bytes] := rfl
    have taken_eq : taken next.journal = taken c.journal := by
      rw [journal, taken_concat]
      rfl
    have returned_eq : returned next.journal = returned c.journal ++ bytes := by
      rw [journal, returned_concat]
      rfl
    have first' : Faithful first next := by
      refine ⟨?_, ?_, ?_, fun reads opened => ?_⟩
      · rw [journal]
        exact h.lossless.concat nofun
      · rw [taken_eq, returned_eq, List.length_append]
        exact Nat.le_trans h.taken_le (Nat.le_add_right _ _)
      · rw [journal, active_concat]
        exact h.active_eq
      · obtain ⟨holds, live⟩ := h.goesOn reads opened
        rw [taken_eq, returned_eq, List.drop_append_of_le_length h.taken_le, ← holds, journal]
        exact ⟨rfl, List.forall_mem_append.2 ⟨live, List.forall_mem_singleton.2 rfl⟩⟩
    refine (ih first').of_same (Prod.ext rfl ?_) fun reads opened => ⟨reads, opened, ?_⟩
    · simp [enter, next]
    · simp [next]

theorem offer (h : Faithful first c) (reads : c.draining = false) (handovers : Nat) :
    Faithful first (c.offer protocol.recording handovers) := by
  fun_induction Connection.offer protocol.recording c handovers with
  | case1 | case2 => exact h
  | case3 c handovers b bs inbound opened said host taken next waits =>
    obtain ⟨later, -, same⟩ := Protocol.recording_consume taken
    exact h.of_shown reads (Bool.eq_false_iff.2 opened) inbound (List.cons_ne_nil b bs) same
      fun _ => ⟨by simp [waits], rfl⟩
  | case4 c handovers b bs inbound opened said host taken next closes =>
    obtain ⟨later, -, same⟩ := Protocol.recording_consume taken
    exact h.of_shown reads (Bool.eq_false_iff.2 opened) inbound (List.cons_ne_nil b bs) same
      fun drains => Bool.noConfusion drains
  | case5 c handovers b bs inbound opened said host taken next used switches used_eq ih =>
    obtain ⟨later, -, same⟩ := Protocol.recording_consume taken
    exact ih (h.of_shown reads (Bool.eq_false_iff.2 opened) inbound (List.cons_ne_nil b bs) same
      fun _ => ⟨by simp [switches], by rw [used_eq]; rfl⟩) reads
  | case6 c b bs inbound opened said host taken next switches used_eq =>
    obtain ⟨later, -, same⟩ := Protocol.recording_consume taken
    exact h.of_shown reads (Bool.eq_false_iff.2 opened) inbound (List.cons_ne_nil b bs) same
      fun _ => ⟨by simp [switches], by rw [used_eq]; rfl⟩
  | case7 c b bs inbound opened said host taken next switches used_eq handovers ih =>
    obtain ⟨later, -, same⟩ := Protocol.recording_consume taken
    exact ih (h.of_shown reads (Bool.eq_false_iff.2 opened) inbound (List.cons_ne_nil b bs) same
      fun _ => ⟨by simp [switches], by rw [used_eq]; rfl⟩) reads

theorem process (h : Faithful first c) : Faithful first (c.process protocol.recording) := by
  unfold Connection.process
  split
  · rename_i draining
    refine h.of_same rfl fun reads => ?_
    rw [show c.draining = false from reads] at draining
    cases draining
  · rename_i reads
    exact h.offer (Bool.eq_false_iff.2 reads) _

/-- A connection does not open again through work on its channel. -/
theorem work (h : Faithful first c) (tasks : List (Task app.Event)) :
    Faithful first { c with host := { c.host with channel := c.host.channel.run tasks } } := by
  refine h.of_same rfl fun reads opened => ⟨reads, ?_, rfl⟩
  have isOpen : (c.host.channel.run tasks).isOpen = true := by
    simpa [isClosed, Host.isOpen] using opened
  simp [isClosed, Host.isOpen, Channel.isOpen_of_run isOpen]

theorem closeIfDrained (h : Faithful first c) : Faithful first c.closeIfDrained := by
  unfold Connection.closeIfDrained
  split
  · exact h.work _
  · exact h

theorem settle (h : Faithful first c) (writable : Bool) : Faithful first (c.settle writable) := by
  unfold Connection.settle
  split
  · exact (h.work _).closeIfDrained
  · exact h.closeIfDrained

theorem hangUp (h : Faithful first c) : Faithful first (c.hangUp protocol.recording) := by
  refine h.of_entry (.gone _) rfl nofun rfl rfl fun _ opened => ?_
  have closed : (c.hangUp protocol.recording).isClosed = true := by
    simp [Connection.hangUp, Connection.close, isClosed, Host.isOpen_close]
  rw [closed] at opened
  cases opened

theorem endOfStream (h : Faithful first c) : Faithful first (c.endOfStream protocol.recording) :=
  h.of_entry (.gone _) rfl nofun rfl rfl nofun

theorem onTimer (h : Faithful first c) (now : Nat) :
    Faithful first (c.onTimer protocol.recording now) := by
  unfold Connection.onTimer
  split
  · exact h
  · rename_i goesOn
    obtain ⟨reads, opened⟩ : c.draining = false ∧ c.isClosed = false := by simpa using goesOn
    refine Faithful.closeIfDrained ?_
    exact h.of_entry (.changed _) rfl nofun rfl rfl fun _ _ => ⟨reads, opened, rfl, rfl⟩

/-- An event in which nothing is read. -/
theorem passive (h : Faithful first c) {event : Readiness}
    (unread : (c.isClosed || event.hangup || !event.readable || c.readClosed) = true) :
    Faithful first (c.onEvent protocol.recording event) := by
  unfold Connection.onEvent
  split
  · exact h
  · rename_i opened
    split
    · exact h.hangUp
    · rename_i present
      split
      · rename_i readable
        simp [opened, present] at unread readable
        simp [readable] at unread
      · exact h.settle _

theorem ready (h : Faithful first c) (event : Readiness) :
    Faithful first ((c.enter (c.reads (.ready event))).onEvent protocol.recording event) := by
  by_cases unread : (c.isClosed || event.hangup || !event.readable || c.readClosed) = true
  · refine passive ?_ unread
    rw [reads, if_pos unread]
    exact h.of_same (Prod.ext rfl (List.append_nil _)) fun reads opened => ⟨reads, opened, rfl⟩
  · obtain ⟨opened, present, readable⟩ : ¬ c.isClosed = true ∧ ¬ event.hangup = true ∧
        (event.readable && !c.readClosed) = true := by
      simpa [and_assoc] using unread
    rw [reads, if_neg unread, Connection.onEvent]
    let entered := c.enter ((c.source.readings c.chunk).map .read)
    rw [if_neg (show ¬ entered.isClosed = true from opened), if_neg present,
      if_pos (show (event.readable && !entered.readClosed) = true from readable)]
    have gathered := c.source.readAll_readings c.chunk []
    rcases read : c.source.readAll c.chunk [] with ⟨readEnd, bytes, source⟩
    rw [show entered.source.readAll entered.chunk [] = (readEnd, bytes, source) from read]
    obtain rfl : bytes = (c.source.readings c.chunk).flatten := by
      rw [read] at gathered
      exact gathered
    have held := h.read source (c.source.readings c.chunk)
    cases readEnd with
    | more => exact held.process.settle _
    | ended => exact held.process.endOfStream.settle _
    | failed => exact held.hangUp

theorem undergoNoting (h : Faithful first c) (episode : Episode app π) :
    Faithful first (c.undergoNoting protocol episode) := by
  have unread {entries : Journal π} (none : entries = []) : Faithful first (c.enter entries) := by
    subst none
    exact h.of_same (Prod.ext rfl (List.append_nil _)) fun reads opened => ⟨reads, opened, rfl⟩
  have after : Faithful first ((c.enter (c.reads episode)).undergo protocol.recording
      (episode.map fun next => (next, c.journal ++ [.changed next]))) := by
    cases episode with
    | ready event => exact h.ready event
    | timer now => exact (unread rfl).onTimer now
    | hangUp => exact (unread rfl).hangUp
    | woken => exact (unread rfl).closeIfDrained
    | source | wire | clock | tables =>
      exact (unread rfl).of_same rfl fun reads opened => ⟨reads, opened, rfl⟩
    | work tasks => exact (unread rfl).work tasks
    | altered next =>
      exact h.of_entry (.changed next) rfl nofun rfl rfl fun reads opened =>
        ⟨reads, opened, rfl, rfl⟩
  unfold Connection.undergoNoting
  simp only
  split
  · rename_i closed
    exact after.of_entry .closed rfl nofun rfl rfl fun _ opened =>
      absurd closed (Bool.eq_false_iff.1 opened)
  · exact after

theorem undergoAllNoting (h : Faithful first c) (episodes : List (Episode app π)) :
    Faithful first (c.undergoAllNoting protocol episodes) := by
  induction episodes generalizing c with
  | nil => exact h
  | cons episode episodes ih => exact ih (h.undergoNoting episode)

end Faithful

/-- Whatever a protocol does with what it is shown, in whatever pieces and with whatever failures
the socket is read, and whatever else a connection goes through: each window that a protocol is
shown is not empty, and consists of the bytes that the reads gave by then, without those that were
taken of the windows before. It is shown to the protocol that the last one handed over to. Once a
protocol wanted to close, the peer was gone or sent no more, or the channel was closed, no window is
shown any more. Nor is any byte lost that was not shown yet: it is held, as long as the connection
reads and offers. -/
theorem windows_lossless (protocol : Protocol app π) (first : π) (host : Host app) (source : Source)
    (chunk : Nat) (episodes : List (Episode app π)) :
    let begun : Connection app π := { host, source, protocol := first, chunk }
    let c := begun.withJournal.undergoAllNoting protocol episodes
    c.plain = begun.undergoAll protocol episodes ∧ Lossless first c.journal ∧
      (c.draining = false → c.isClosed = false →
        c.inbound = (returned c.journal).drop (taken c.journal)) := by
  intro begun c
  have fresh : Faithful first begun.withJournal := by
    refine ⟨.nil, Nat.le_refl _, rfl, fun _ _ => ⟨rfl, nofun⟩⟩
  have faithful : Faithful first c := fresh.undergoAllNoting episodes
  exact ⟨plain_undergoAllNoting protocol _ episodes, faithful.lossless,
    fun reads opened => (faithful.goesOn reads opened).1⟩

end Connection
end WebServer

import WebServer.Proofs.Channel.Ledger
import WebServer.Proofs.Channel.Seen

/-!
# Work that writes nothing

A completion is silent if it notes, flushes and closes, but writes nothing. On a channel that has
only silent completions queued, silent work sends what is queued and adds nothing to it. If the last
write in the queue has a completion that closes the channel, then it stays the last one until it is
fully sent, and then the channel is closed.
-/
namespace WebServer

variable {ε : Type}

/-- A completion that writes nothing. -/
def Completion.Silent : Completion ε → Prop
  | .done => True
  | .note _ next => next.Silent
  | .write .. => False
  | .close next => next.Silent
  | .flush next => next.Silent

/-- A task that writes nothing. -/
def Task.Silent : Task ε → Prop
  | .complete completion => completion.Silent
  | .flush => True

theorem Task.Silent.rest {task : Task ε} (h : task.Silent) (sent : Bool) :
    ∀ later ∈ task.rest sent, later.Silent := by
  match task with
  | .complete .done => exact nofun
  | .complete (.note _ next) | .complete (.close next) | .complete (.flush next) =>
    simpa [Task.rest, Task.Silent, Completion.Silent] using h
  | .flush => cases sent <;> simp [Task.rest, Task.Silent]

namespace Channel

/-- A channel whose writes are accounted for, and on which only silent completions wait. -/
structure Plain (ch : Channel ε) : Prop where
  kept : ∃ writes started, Kept writes started ch
  silent : ∀ job ∈ ch.queue, job.after.Silent

namespace Plain

variable {ch : Channel ε}

theorem fresh (wire : Wire) : Plain ({ wire } : Channel ε) :=
  ⟨⟨[], [], .fresh wire⟩, nofun⟩

theorem accepted (h : ch.Plain) : acceptedIn ch.trace <+: writtenIn ch.trace := by
  obtain ⟨writes, started, kept⟩ := h.kept
  rw [kept.written_eq]
  exact kept.accounted.accepted_within_written

/-- While the channel is open, what was not taken is queued. -/
theorem while_open (h : ch.Plain) (isOpen : ch.isOpen = true) :
    acceptedIn ch.trace ++ jobsData ch.queue = writtenIn ch.trace := by
  obtain ⟨writes, started, kept⟩ := h.kept
  obtain ⟨sent, waiting, taken, left, d⟩ := kept.accounted
  rw [kept.written_eq, d.accepted_eq, d.queue_eq, if_pos isOpen, d.writes_eq, jobsData_append,
    d.remaining.data_eq, List.append_assoc]

/-- What is recorded beside the writes and attempts does not matter. -/
theorem beside (h : ch.Plain) {new : List (Signal ε)}
    (written : ∀ signal ∈ new, signal.written = [] ∧ signal.accepted = [] ∧
      signal.isFailure = false) : Plain { ch with trace := new ++ ch.trace } := by
  obtain ⟨⟨writes, started, kept⟩, silent⟩ := h
  obtain ⟨⟨sent, waiting, taken, left, d⟩, written_eq, ahead, failure⟩ := kept
  have noneWritten : writtenIn new = [] := by
    simp only [writtenIn, List.flatMap_eq_nil_iff, List.mem_reverse]
    exact fun signal member => (written signal member).1
  have noneAccepted : acceptedIn new = [] := by
    simp only [acceptedIn, List.flatMap_eq_nil_iff, List.mem_reverse]
    exact fun signal member => (written signal member).2.1
  have accounted : Accounted writes started { ch with trace := new ++ ch.trace } :=
    ⟨sent, waiting, taken, left, d.writes_eq, d.started_eq, d.remaining,
      by rw [acceptedIn_append, noneAccepted, List.append_nil, d.accepted_eq], d.queue_eq,
      d.unsent_eq⟩
  have sameWritten : writtenIn (new ++ ch.trace) = jobsData writes := by
    rw [writtenIn_append, noneWritten, List.append_nil, written_eq]
  refine ⟨⟨writes, started, accounted, sameWritten, ?_, ?_⟩, silent⟩
  · refine ahead.append new noneWritten ?_
    rw [written_eq]
    exact accounted.accepted_within_written
  · rintro ⟨signal, member, fails⟩
    rcases List.mem_append.1 member with later | earlier
    · rw [(written signal later).2.2] at fails
      cases fails
    · exact failure ⟨signal, earlier, fails⟩

theorem record (h : ch.Plain) {signal : Signal ε} (written : signal.written = [])
    (accepted : signal.accepted = []) (works : signal.isFailure = false) :
    (ch.record signal).Plain := by
  have beside : ∀ other ∈ [signal], other.written = [] ∧ other.accepted = [] ∧
      other.isFailure = false := by simp [written, accepted, works]
  exact h.beside beside

theorem withWire (h : ch.Plain) (wire : Wire) : Plain { ch with wire } := by
  obtain ⟨⟨writes, started, kept⟩, silent⟩ := h
  obtain ⟨⟨sent, waiting, taken, left, d⟩, written_eq, ahead, failure⟩ := kept
  exact ⟨⟨writes, started, ⟨sent, waiting, taken, left, d.writes_eq, d.started_eq, d.remaining,
    d.accepted_eq, d.queue_eq, d.unsent_eq⟩, written_eq, ahead, failure⟩, silent⟩

end Plain

section Completions

variable {P : Completion ε → Prop} {ch : Channel ε}

/-- An offer adds no completion to the queue, and at most one that was queued begins. -/
theorem Offering.completions {ch' : Channel ε} {completion : Option (Completion ε)}
    (o : Offering ch completion ch') (queued : ∀ job ∈ ch.queue, P job.after) :
    (∀ job ∈ ch'.queue, P job.after) ∧ ∀ begun ∈ completion, P begun := by
  cases o with
  | nothing => exact ⟨queued, nofun⟩
  | sent wire isOpen first offered works =>
    rw [first] at queued
    obtain ⟨begun, others⟩ := List.forall_mem_cons.1 queued
    exact ⟨others, by simpa using begun⟩
  | blocked wire isOpen first offered left works =>
    rw [first] at queued
    obtain ⟨same, others⟩ := List.forall_mem_cons.1 queued
    exact ⟨List.forall_mem_cons.2 ⟨same, others⟩, nofun⟩
  | failed wire isOpen first offered left => exact ⟨nofun, nofun⟩

/-- A task adds no completion to the queue but that of the write it makes. -/
theorem completions_act (queued : ∀ job ∈ ch.queue, P job.after) {task : Task ε}
    (written : ∀ data after next, task = .complete (.write data after next) → P after) :
    (∀ job ∈ (task.act ch).2.queue, P job.after) ∧ ∀ begun ∈ (task.act ch).1, P begun := by
  have none : ∀ begun ∈ (none : Option (Completion ε)), P begun := by simp
  cases task with
  | flush => exact ch.sendFirst_offering.completions queued
  | complete completion =>
    cases completion with
    | done | note | flush => exact ⟨queued, none⟩
    | close next =>
      refine ⟨fun job member => ?_, none⟩
      simp only [Task.act] at member
      unfold Channel.shut at member
      split at member
      · cases member
      · exact queued job member
    | write data completion next =>
      have placed : ∀ job ∈ (ch.place ⟨data, completion⟩).queue, P job.after := by
        intro job member
        rcases List.mem_append.1 member with earlier | last
        · exact queued job earlier
        · rw [List.mem_singleton.1 last]
          exact written data completion next rfl
      simp only [Task.act]
      cases isOpen : ch.isOpen with
      | false =>
        rw [enqueue_of_closed isOpen]
        exact ⟨queued, none⟩
      | true =>
        by_cases queue : ch.queue = []
        · rw [enqueue_of_queue_nil isOpen queue]
          exact (sendFirst_offering _).completions placed
        · rw [enqueue_of_queue_ne_nil isOpen queue]
          exact ⟨placed, none⟩

end Completions

/-- No task opens a channel. -/
theorem isOpen_of_act {ch : Channel ε} {task : Task ε} (h : (task.act ch).2.isOpen = true) :
    ch.isOpen = true := by
  refine @Task.act_preserves ε (fun _ _ ch' => ch'.isOpen = true → ch.isOpen = true)
    (fun _ _ _ _ h => h) ?_ (fun _ _ _ _ _ h => h) ?_ [] [] ch task id h
  · intro _ _ ch' ih isOpen
    unfold Channel.shut at isOpen
    split at isOpen
    · cases isOpen
    · exact ih isOpen
  · intro _ _ _ _ _ o ih isOpen
    cases o with
    | nothing => exact ih isOpen
    | sent wire stillOpen | blocked wire stillOpen => exact ih stillOpen
    | failed => cases isOpen

theorem isOpen_of_run {ch : Channel ε} {tasks : List (Task ε)}
    (h : (ch.run tasks).isOpen = true) : ch.isOpen = true := by
  refine Stage.run_induction
    (motive := fun ch tasks => (ch.run tasks).isOpen = true → ch.isOpen = true) ?_ ?_ ch tasks h
  · intro ch isOpen
    rwa [Channel.run] at isOpen
  · intro ch task tasks ih isOpen
    rw [Stage.run_cons] at isOpen
    exact isOpen_of_act (ih isOpen)

namespace Plain

variable {ch : Channel ε}

/-- A task whose write, if it makes one, has a silent completion. -/
theorem act (h : ch.Plain) {task : Task ε}
    (after : ∀ data after next, task = .complete (.write data after next) → after.Silent) :
    (task.act ch).2.Plain ∧ (∀ begun ∈ (task.act ch).1, begun.Silent) ∧
      writtenIn (task.act ch).2.trace = writtenIn ch.trace ++ jobsData (task.writes ch) := by
  obtain ⟨⟨writes, started, kept⟩, silent⟩ := h
  have kept' := kept.act task
  have written :
      writtenIn (task.act ch).2.trace = writtenIn ch.trace ++ jobsData (task.writes ch) := by
    rw [kept'.written_eq, kept.written_eq, jobsData_append]
  obtain ⟨queued, begins⟩ := completions_act silent after
  exact ⟨⟨⟨_, _, kept'⟩, queued⟩, begins, written⟩

/-- Silent tasks write nothing, and only silent ones come of them. -/
theorem act_silent (h : ch.Plain) {task : Task ε} (silent : task.Silent) :
    (task.act ch).2.Plain ∧
      (∀ later ∈ ((task.act ch).1.map Task.complete).toList ++ task.rest (task.act ch).1.isSome,
        later.Silent) ∧
      writtenIn (task.act ch).2.trace = writtenIn ch.trace := by
  have noWrite : ∀ data after next, task = .complete (.write data after next) → after.Silent := by
    rintro data after next rfl
    exact absurd silent id
  obtain ⟨plain, begins, written⟩ := h.act noWrite
  refine ⟨plain, fun later member => ?_, ?_⟩
  · rcases List.mem_append.1 member with begun | rest
    · simp only [Option.mem_toList, Option.map_eq_some_iff] at begun
      obtain ⟨completion, begun, rfl⟩ := begun
      exact begins completion begun
    · exact silent.rest _ later rest
  · have none : task.writes ch = [] := by
      match task with
      | .complete .done | .complete (.note event next) | .complete (.flush next)
      | .complete (.close next) | .flush => rfl
      | .complete (.write data after next) => exact absurd silent id
    rw [written, none]
    simp

/-- Silent work sends what is queued and writes nothing. -/
theorem run_silent (h : ch.Plain) {tasks : List (Task ε)} (silent : ∀ task ∈ tasks, task.Silent) :
    (ch.run tasks).Plain ∧ writtenIn (ch.run tasks).trace = writtenIn ch.trace := by
  refine Stage.run_induction (motive := fun ch tasks => ch.Plain → (∀ task ∈ tasks, task.Silent) →
    (ch.run tasks).Plain ∧ writtenIn (ch.run tasks).trace = writtenIn ch.trace) ?_ ?_ ch tasks h
    silent
  · intro ch plain _
    rw [Channel.run]
    exact ⟨plain, rfl⟩
  · intro ch task tasks ih plain silent
    obtain ⟨first, others⟩ := List.forall_mem_cons.1 silent
    obtain ⟨plain', later, same⟩ := plain.act_silent first
    rw [Stage.run_cons, ← same]
    exact ih plain' (List.forall_mem_append.2 ⟨later, others⟩)

end Plain

/-- An open channel on which the last write in the queue has yet to be sent and will close it, or
where that close is to be done next. -/
def Parting (ch : Channel ε) (tasks : List (Task ε)) : Prop :=
  ch.isOpen = true →
    (∃ jobs rest, ch.queue = jobs ++ [⟨rest, .close .done⟩] ∧ rest ≠ []) ∨
      .complete (.close .done) ∈ tasks

namespace Parting

variable {ch : Channel ε} {tasks : List (Task ε)}

theorem of_closed (closed : ch.isOpen = false) : Parting ch tasks := by
  intro isOpen
  rw [closed] at isOpen
  cases isOpen

theorem mono {more : List (Task ε)} (subset : tasks ⊆ more) (h : Parting ch tasks) :
    Parting ch more := fun isOpen => (h isOpen).imp id fun member => subset member

/-- The last write stays the last one, until it is sent and its completion begins. -/
theorem offer {completion : Option (Completion ε)} {ch' : Channel ε}
    (o : Offering ch completion ch') (h : Parting ch tasks) :
    Parting ch' ((completion.map Task.complete).toList ++ tasks) := by
  cases o with
  | nothing => exact h
  | @sent job jobs attempts wire isOpen first offered works =>
    intro _
    rcases h isOpen with ⟨before, rest, queue, left⟩ | member
    · rw [first] at queue
      cases before with
      | nil =>
        obtain ⟨rfl, rfl⟩ := List.cons.inj queue
        exact .inr (List.mem_cons_self)
      | cons earlier before => exact .inl ⟨before, rest, (List.cons.inj queue).2, left⟩
    · exact .inr (List.mem_cons_of_mem _ member)
  | @blocked job jobs attempts unsent wire isOpen first offered left works =>
    intro _
    rcases h isOpen with ⟨before, rest, queue, rest_ne⟩ | member
    · rw [first] at queue
      cases before with
      | nil =>
        obtain ⟨rfl, rfl⟩ := List.cons.inj queue
        exact .inl ⟨[], unsent, rfl, left⟩
      | cons earlier before =>
        obtain ⟨-, rfl⟩ := List.cons.inj queue
        exact .inl ⟨⟨unsent, job.after⟩ :: before, rest, rfl, rest_ne⟩
    · exact .inr member
  | failed => exact .of_closed rfl

theorem act {task : Task ε} (silent : task.Silent) (h : Parting ch (task :: tasks)) :
    Parting (task.act ch).2 (((task.act ch).1.map Task.complete).toList ++
      task.rest (task.act ch).1.isSome ++ tasks) := by
  match task with
  | .complete (.write data after next) => exact absurd silent id
  | .complete .done | .complete (.note event next) | .complete (.flush next) =>
    intro isOpen
    refine (h isOpen).imp id fun member => List.mem_append_right _ ?_
    exact (List.mem_cons.1 member).resolve_left nofun
  | .complete (.close next) =>
    refine .of_closed ?_
    simp only [Task.act, Channel.shut]
    split
    · rfl
    · rename_i closed
      exact Bool.eq_false_iff.2 closed
  | .flush =>
    have onwards : Parting ch tasks := fun isOpen => (h isOpen).imp id (by simp)
    refine (onwards.offer ch.sendFirst_offering).mono ?_
    simp [Task.act]

theorem run (silent : ∀ task ∈ tasks, task.Silent) (plain : ch.Plain) (h : Parting ch tasks) :
    Parting (ch.run tasks) [] := by
  refine Stage.run_induction (motive := fun ch tasks => ch.Plain →
    (∀ task ∈ tasks, task.Silent) → Parting ch tasks → Parting (ch.run tasks) []) ?_ ?_ ch tasks
    plain silent h
  · intro ch _ _ h
    rwa [Channel.run]
  · intro ch task tasks ih plain silent h
    obtain ⟨first, others⟩ := List.forall_mem_cons.1 silent
    obtain ⟨plain', later, -⟩ := plain.act_silent first
    rw [Stage.run_cons]
    exact ih plain' (List.forall_mem_append.2 ⟨later, others⟩) (h.act first)

end Parting

/-- Behind the first part of a write there is only what its completion does. -/
theorem writeThen_eq (ch : Channel ε) (data : Bytes) (after : Completion ε) :
    ch.writeThen data after = (ch.enqueue data after).2.run
      (((ch.enqueue data after).1.map Task.complete).toList ++ [.complete .done]) := by
  rw [writeThen, Stage.run_cons, List.append_nil]
  rfl

/-- A write on an open channel is recorded first. -/
theorem wrote_suffix {ch : Channel ε} (isOpen : ch.isOpen = true) (data : Bytes)
    (after : Completion ε) : (.wrote data :: ch.trace) <:+ (ch.writeThen data after).trace := by
  have enqueued : (.wrote data :: ch.trace) <:+ (ch.enqueue data after).2.trace := by
    by_cases queue : ch.queue = []
    · rw [enqueue_of_queue_nil isOpen queue]
      exact (Extends.offer (sendFirst_offering (ch.place ⟨data, after⟩))).suffix
    · rw [enqueue_of_queue_ne_nil isOpen queue]
      exact List.suffix_refl _
  rw [writeThen_eq]
  exact enqueued.trans (run_extends _ _).suffix

theorem Plain.enqueue {ch : Channel ε} (h : ch.Plain) (data : Bytes) {after : Completion ε}
    (silent : after.Silent) :
    (ch.enqueue data after).2.Plain ∧
      (∀ later ∈ ((ch.enqueue data after).1.map Task.complete).toList ++ [.complete .done],
        later.Silent) ∧
      writtenIn (ch.enqueue data after).2.trace =
        writtenIn ch.trace ++ if ch.isOpen then data else [] := by
  have write : ∀ data' after' next,
      (.complete (.write data after .done) : Task ε) = .complete (.write data' after' next) →
        after'.Silent := by
    rintro _ _ _ ⟨⟩
    exact silent
  obtain ⟨plain, begins, written⟩ := h.act write
  refine ⟨plain, List.forall_mem_append.2 ⟨fun later member => ?_, ?_⟩, written.trans ?_⟩
  · simp only [Option.mem_toList, Option.map_eq_some_iff] at member
    obtain ⟨completion, begun, rfl⟩ := member
    exact begins completion begun
  · simp [Task.Silent, Completion.Silent]
  · cases isOpen : ch.isOpen <;> simp [Task.writes, isOpen]

/-- A write with a silent completion is the one write that is made. -/
theorem Plain.writeThen {ch : Channel ε} (h : ch.Plain) (data : Bytes) {after : Completion ε}
    (silent : after.Silent) :
    (ch.writeThen data after).Plain ∧
      writtenIn (ch.writeThen data after).trace =
        writtenIn ch.trace ++ if ch.isOpen then data else [] := by
  obtain ⟨plain, later, written⟩ := h.enqueue data silent
  rw [writeThen_eq, ← written]
  exact plain.run_silent later

/-- A write that is to close the channel once it is sent. -/
theorem Plain.parting {ch : Channel ε} (h : ch.Plain) {data : Bytes} (some : data ≠ []) :
    Parting (ch.writeThen data (.close .done)) [] := by
  obtain ⟨plain, later, -⟩ := @Plain.enqueue ε ch h data (.close .done) trivial
  rw [writeThen_eq]
  refine Parting.run later plain (Parting.mono (List.subset_append_left _ _) ?_)
  cases isOpen : ch.isOpen with
  | false =>
    rw [enqueue_of_closed isOpen]
    exact .of_closed isOpen
  | true =>
    have placed : Parting (ch.place ⟨data, .close .done⟩) [] :=
      fun _ => .inl ⟨ch.queue, data, rfl, some⟩
    by_cases queue : ch.queue = []
    · rw [enqueue_of_queue_nil isOpen queue, ← List.append_nil (Option.toList _)]
      exact placed.offer (sendFirst_offering _)
    · rw [enqueue_of_queue_ne_nil isOpen queue]
      exact placed

end Channel
end WebServer

import WebServer.Proofs.Channel.Silent
import WebServer.Proofs.Stream.Flowing

/-!
# Channels whose wire works

A wire that works takes what it is offered sooner or later, but perhaps little of it at a time and
nothing for now. What is written and not yet sent waits in the queue, and a channel on such a wire
closes only if something closes it (`Waits`). With a last write that closes the channel once it is
sent, the close comes behind all that was written (`Closing`): on the way there the close waits in
the queue, is due next, or is done, and then nothing of what was written is missing.
-/
namespace WebServer

variable {ε : Type}

/-- A wire that never fails, however little it takes and however often it takes nothing. -/
structure Wire.Sustaining (wire : Wire) : Prop where
  answers : ∀ answer ∈ wire.answers, answer ≠ .fails ∧ answer ≠ .accepts 0
  intact : wire.broken = false

namespace Wire

variable {wire : Wire}

theorem Accepting.sustaining (h : wire.Accepting) : wire.Sustaining where
  answers := fun answer member => by
    rcases h.answers answer member with rfl | ⟨count, rfl⟩ <;> simp
  intact := h.intact

theorem Sustaining.answer (h : wire.Sustaining) (b : UInt8) (bs : Bytes) :
    (wire.answer (b :: bs)).2.Sustaining ∧ (wire.answer (b :: bs)).1 ≠ .fails ∧
      (wire.answer (b :: bs)).1 ≠ .accepts 0 := by
  obtain ⟨answers, intact⟩ := h
  cases scripted : wire.answers with
  | nil =>
    simp only [Wire.answer, scripted, intact, Bool.false_eq_true, if_false]
    rcases wire.budget with _ | _ | count
    · exact ⟨⟨by simp [scripted], intact⟩, by simp⟩
    · exact ⟨⟨by simp [scripted], intact⟩, by simp⟩
    · exact ⟨⟨by simp, rfl⟩, by simp⟩
  | cons first others =>
    rw [scripted] at answers
    obtain ⟨works, rest⟩ := List.forall_mem_cons.1 answers
    have next : ({ wire with answers := others } : Wire).Sustaining := ⟨rest, intact⟩
    cases first with
    | accepts count =>
      cases count with
      | zero => exact absurd rfl works.2
      | succ count =>
        simp only [Wire.answer, scripted]
        exact ⟨next, by simp⟩
    | interrupted | wouldBlock =>
      simp only [Wire.answer, scripted]
      exact ⟨next, by simp⟩
    | fails => exact absurd rfl works.1

end Wire

/-- A calm task leaves calm tasks. -/
theorem Task.Calm.rest {task : Task ε} (h : task.Calm) (sent : Bool) :
    ∀ later ∈ task.rest sent, later.Calm := by
  match task with
  | .complete .done => exact nofun
  | .complete (.note _ next) | .complete (.flush next) =>
    simpa [Task.rest, Task.Calm, Completion.Calm] using h
  | .complete (.write _ after next) => simpa [Task.rest, Task.Calm, Completion.Calm] using h.2
  | .complete (.close next) => exact absurd h id
  | .flush => cases sent <;> simp [Task.rest, Task.Calm]

namespace Channel

theorem send_sustaining (ch : Channel ε) (h : ch.wire.Sustaining) (data : Bytes) :
    (ch.send data).1 ≠ .failed ∧ (ch.send data).2.2.wire.Sustaining ∧
      (ch.send data).2.2.isOpen = ch.isOpen := by
  fun_induction Channel.send ch data with
  | case1 ch => exact ⟨by simp, h, rfl⟩
  | case2 ch b bs wire heq answered => exact absurd (by rw [heq]) (h.answer b bs).2.2
  | case3 ch b bs wire count heq answered sent ih =>
    have next := (h.answer b bs).1
    rw [heq] at next
    exact ih next
  | case4 ch b bs wire heq answered sent ih =>
    have next := (h.answer b bs).1
    rw [heq] at next
    exact ih next
  | case5 ch b bs wire heq answered =>
    have next := (h.answer b bs).1
    rw [heq] at next
    exact ⟨by simp, next, rfl⟩
  | case6 ch b bs wire heq answered => exact absurd (by rw [heq]) (h.answer b bs).2.1

theorem sendFirst_sustaining {ch : Channel ε} (h : ch.wire.Sustaining) :
    ch.sendFirst.2.wire.Sustaining ∧ ch.sendFirst.2.isOpen = ch.isOpen := by
  unfold sendFirst
  split
  · exact ⟨h, rfl⟩
  · rename_i job jobs first
    split
    · exact ⟨h, rfl⟩
    · obtain ⟨works, next, stillOpen⟩ := ch.send_sustaining h job.data
      split <;> rename_i sent <;> rw [sent] at works next stillOpen
      · exact ⟨next, stillOpen⟩
      · exact ⟨next, stillOpen⟩
      · exact absurd rfl works

/-- On a wire that works, only a task that closes the channel closes it. -/
theorem act_sustaining {ch : Channel ε} (h : ch.wire.Sustaining) (task : Task ε) :
    (task.act ch).2.wire.Sustaining ∧ (task.Calm → (task.act ch).2.isOpen = ch.isOpen) := by
  match task with
  | .complete .done | .complete (.flush _) | .complete (.note event _) => exact ⟨h, fun _ => rfl⟩
  | .complete (.close _) =>
    refine ⟨?_, fun calm => absurd calm id⟩
    simp only [Task.act, Channel.shut]
    split <;> exact h
  | .complete (.write data after _) =>
    simp only [Task.act]
    cases isOpen : ch.isOpen with
    | false =>
      rw [enqueue_of_closed isOpen]
      exact ⟨h, fun _ => isOpen⟩
    | true =>
      have placed : (ch.place ⟨data, after⟩).wire.Sustaining := h
      by_cases queue : ch.queue = []
      · rw [enqueue_of_queue_nil isOpen queue]
        obtain ⟨next, stillOpen⟩ := sendFirst_sustaining placed
        exact ⟨next, fun _ => stillOpen.trans isOpen⟩
      · rw [enqueue_of_queue_ne_nil isOpen queue]
        exact ⟨placed, fun _ => isOpen⟩
  | .flush =>
    obtain ⟨next, stillOpen⟩ := sendFirst_sustaining h
    exact ⟨next, fun _ => stillOpen⟩

/-- An open channel on a wire that works, and nothing that waits there will write or close. -/
structure Waits (ch : Channel ε) : Prop where
  plain : ch.Plain
  wire : ch.wire.Sustaining
  isOpen : ch.isOpen = true
  calm : ∀ job ∈ ch.queue, job.after.Calm

namespace Waits

variable {ch : Channel ε}

theorem fresh {wire : Wire} (h : wire.Sustaining) : Waits ({ wire } : Channel ε) :=
  ⟨.fresh wire, h, rfl, nofun⟩

theorem beside (h : ch.Waits) {new : List (Signal ε)}
    (beside : ∀ signal ∈ new, signal.written = [] ∧ signal.accepted = [] ∧
      signal.isFailure = false) : Waits { ch with trace := new ++ ch.trace } :=
  ⟨h.plain.beside beside, h.wire, h.isOpen, h.calm⟩

theorem record (h : ch.Waits) {signal : Signal ε} (written : signal.written = [])
    (accepted : signal.accepted = []) (works : signal.isFailure = false) :
    (ch.record signal).Waits :=
  ⟨h.plain.record written accepted works, h.wire, h.isOpen, h.calm⟩

theorem withWire (h : ch.Waits) {wire : Wire} (sustaining : wire.Sustaining) :
    Waits { ch with wire } :=
  ⟨h.plain.withWire wire, sustaining, h.isOpen, h.calm⟩

theorem act (h : ch.Waits) {task : Task ε} (calm : task.Calm)
    (silent : ∀ data after next, task = .complete (.write data after next) → after.Silent) :
    (task.act ch).2.Waits ∧ ∀ begun ∈ (task.act ch).1, begun.Calm := by
  obtain ⟨wire, isOpen⟩ := act_sustaining h.wire task
  have write : ∀ data after next, task = .complete (.write data after next) → after.Calm := by
    rintro data after next rfl
    exact calm.1
  obtain ⟨queued, begins⟩ := completions_act h.calm write
  exact ⟨⟨(h.plain.act silent).1, wire, (isOpen calm).trans h.isOpen, queued⟩, begins⟩

theorem run (h : ch.Waits) {tasks : List (Task ε)}
    (quiet : ∀ task ∈ tasks, task.Silent ∧ task.Calm) : (ch.run tasks).Waits := by
  refine Stage.run_induction (motive := fun ch tasks => ch.Waits →
    (∀ task ∈ tasks, task.Silent ∧ task.Calm) → (ch.run tasks).Waits) ?_ ?_ ch tasks h quiet
  · intro ch waits _
    rwa [Channel.run]
  · intro ch task tasks ih waits quiet
    obtain ⟨⟨silent, calm⟩, others⟩ := List.forall_mem_cons.1 quiet
    obtain ⟨-, later, -⟩ := waits.plain.act_silent silent
    obtain ⟨next, begins⟩ := waits.act calm (by rintro data after next rfl; exact absurd silent id)
    rw [Stage.run_cons]
    refine ih next (List.forall_mem_append.2 ⟨fun task member => ⟨later task member, ?_⟩, others⟩)
    rcases List.mem_append.1 member with begun | rest
    · simp only [Option.mem_toList, Option.map_eq_some_iff] at begun
      obtain ⟨completion, begun, rfl⟩ := begun
      exact begins completion begun
    · exact calm.rest _ task rest

theorem flush (h : ch.Waits) : ch.flush.Waits := h.run (by simp [Task.Silent, Task.Calm])

/-- A write waits like those before it, if its completion does. -/
theorem writeThen (h : ch.Waits) (data : Bytes) {after : Completion ε} (silent : after.Silent)
    (calm : after.Calm) : (ch.writeThen data after).Waits := by
  have write : (.complete (.write data after .done) : Task ε).Calm := ⟨calm, trivial⟩
  obtain ⟨next, begins⟩ := h.act write (by rintro _ _ _ ⟨⟩; exact silent)
  obtain ⟨-, later, -⟩ := h.plain.enqueue data silent
  rw [writeThen_eq]
  refine next.run fun task member => ⟨later task member, ?_⟩
  rcases List.mem_append.1 member with begun | rest
  · simp only [Option.mem_toList, Option.map_eq_some_iff] at begun
    obtain ⟨completion, begun, rfl⟩ := begun
    exact begins completion begun
  · rw [List.mem_singleton.1 rest]
    trivial

theorem written_writeThen (h : ch.Waits) (data : Bytes) {after : Completion ε}
    (silent : after.Silent) :
    writtenIn (ch.writeThen data after).trace = writtenIn ch.trace ++ data := by
  rw [(h.plain.writeThen data silent).2, if_pos h.isOpen]

/-- If nothing waits, all that was written was sent. -/
theorem sent (h : ch.Waits) (empty : ch.queue = []) : acceptedIn ch.trace = writtenIn ch.trace := by
  simpa [empty] using h.plain.while_open h.isOpen

end Waits

/-- Where a close stands that is to come behind all that was written. -/
inductive Ending (ch : Channel ε) : List (Task ε) → Prop where
  /-- It is the completion of the last write, which waits. -/
  | queued {tasks : List (Task ε)} {jobs : List (Job ε)} {rest : Bytes} (isOpen : ch.isOpen = true)
    (queue : ch.queue = jobs ++ [⟨rest, .close .done⟩]) (jobs_calm : ∀ job ∈ jobs, job.after.Calm)
    (tasks_calm : ∀ task ∈ tasks, task.Calm) : Ending ch tasks
  /-- It is done next. -/
  | due {tasks : List (Task ε)} (isOpen : ch.isOpen = true) (empty : ch.queue = []) :
    Ending ch (.complete (.close .done) :: tasks)
  | finished {tasks : List (Task ε)} (closed : ch.isOpen = false)
    (whole : acceptedIn ch.trace = writtenIn ch.trace) : Ending ch tasks

/-- A channel on a wire that works, which is about to close behind all that was written. -/
structure Closing (ch : Channel ε) (tasks : List (Task ε)) : Prop where
  plain : ch.Plain
  wire : ch.wire.Sustaining
  ending : Ending ch tasks

theorem Plain.queue_of_closed {ch : Channel ε} (h : ch.Plain) (closed : ch.isOpen = false) :
    ch.queue = [] := by
  obtain ⟨writes, started, kept⟩ := h.kept
  exact (kept.accounted.queue_of_closed closed).1

/-- An offer of the first write takes the last one nearer to its end. -/
theorem Ending.offer {ch ch' : Channel ε} {completion : Option (Completion ε)}
    {tasks : List (Task ε)} {jobs : List (Job ε)} {rest : Bytes}
    (o : Offering ch completion ch') (works : ch'.isOpen = ch.isOpen) (isOpen : ch.isOpen = true)
    (queue : ch.queue = jobs ++ [⟨rest, .close .done⟩]) (jobs_calm : ∀ job ∈ jobs, job.after.Calm)
    (tasks_calm : ∀ task ∈ tasks, task.Calm) :
    Ending ch' ((completion.map Task.complete).toList ++ tasks) := by
  cases o with
  | nothing empty => simp [empty isOpen] at queue
  | @sent job others attempts wire _ first offered =>
    rw [first] at queue
    cases jobs with
    | nil =>
      obtain ⟨rfl, rfl⟩ := List.cons.inj queue
      exact .due isOpen rfl
    | cons earlier jobs =>
      obtain ⟨rfl, rfl⟩ := List.cons.inj queue
      obtain ⟨calm, jobs_calm⟩ := List.forall_mem_cons.1 jobs_calm
      exact .queued isOpen rfl jobs_calm (List.forall_mem_cons.2 ⟨calm, tasks_calm⟩)
  | @blocked job others attempts unsent wire _ first offered left =>
    rw [first] at queue
    cases jobs with
    | nil =>
      obtain ⟨rfl, rfl⟩ := List.cons.inj queue
      exact @Ending.queued ε _ _ [] unsent isOpen rfl nofun tasks_calm
    | cons earlier jobs =>
      obtain ⟨rfl, rfl⟩ := List.cons.inj queue
      obtain ⟨calm, others_calm⟩ := List.forall_mem_cons.1 jobs_calm
      exact @Ending.queued ε _ _ (⟨unsent, job.after⟩ :: jobs) rest isOpen rfl
        (List.forall_mem_cons.2 ⟨calm, others_calm⟩) tasks_calm
  | failed =>
    rw [isOpen] at works
    cases works

namespace Closing

variable {ch : Channel ε} {tasks : List (Task ε)}

theorem closed_of_empty (h : ch.Closing []) (empty : ch.queue = []) : ch.isOpen = false := by
  cases h.ending with
  | queued isOpen queue => simp [empty] at queue
  | finished closed => exact closed

theorem sent (h : ch.Closing tasks) (closed : ch.isOpen = false) :
    acceptedIn ch.trace = writtenIn ch.trace := by
  cases h.ending with
  | queued isOpen | due isOpen =>
    rw [closed] at isOpen
    cases isOpen
  | finished _ whole => exact whole

theorem record (h : ch.Closing tasks) {signal : Signal ε} (written : signal.written = [])
    (accepted : signal.accepted = []) (works : signal.isFailure = false) :
    (ch.record signal).Closing tasks where
  plain := h.plain.record written accepted works
  wire := h.wire
  ending := by
    cases h.ending with
    | queued isOpen queue jobs_calm tasks_calm => exact .queued isOpen queue jobs_calm tasks_calm
    | due isOpen empty => exact .due isOpen empty
    | finished closed whole =>
      exact .finished closed (by simp [Channel.record, written, accepted, whole])

theorem withWire (h : ch.Closing tasks) {wire : Wire} (sustaining : wire.Sustaining) :
    Closing { ch with wire } tasks where
  plain := h.plain.withWire wire
  wire := sustaining
  ending := by
    cases h.ending with
    | queued isOpen queue jobs_calm tasks_calm => exact .queued isOpen queue jobs_calm tasks_calm
    | due isOpen empty => exact .due isOpen empty
    | finished closed whole => exact .finished closed whole

/-- A channel on which everything was sent may close. -/
theorem shut (h : ch.Waits) (empty : ch.queue = []) (tasks : List (Task ε)) :
    ch.shut.Closing tasks := by
  have done : ch.shut =
      { ch.record .shut with queue := [], unsent := 0, isOpen := false } := if_pos h.isOpen
  refine ⟨?_, (act_sustaining h.wire (.complete (.close .done))).1, .finished (isOpen_shut ch) ?_⟩
  · exact (@Plain.act ε ch h.plain (.complete (.close .done)) nofun).1
  · rw [done]
    simpa [Channel.record, Signal.accepted, Signal.written] using h.sent empty

theorem act {task : Task ε} (silent : task.Silent) (h : ch.Closing (task :: tasks)) :
    (task.act ch).2.Closing (((task.act ch).1.map Task.complete).toList ++
      task.rest (task.act ch).1.isSome ++ tasks) := by
  have plain := (h.plain.act_silent silent).1
  obtain ⟨wire, calm_isOpen⟩ := act_sustaining h.wire task
  refine ⟨plain, wire, ?_⟩
  cases h.ending with
  | @queued _ jobs rest isOpen queue jobs_calm tasks_calm =>
    obtain ⟨calm, others_calm⟩ := List.forall_mem_cons.1 tasks_calm
    have later (sent : Bool) : ∀ next ∈ task.rest sent ++ tasks, next.Calm :=
      List.forall_mem_append.2 ⟨calm.rest sent, others_calm⟩
    match task with
    | .complete .done | .complete (.note event next) | .complete (.flush next) =>
      exact .queued isOpen queue jobs_calm (later false)
    | .complete (.write data after next) => exact absurd silent id
    | .complete (.close next) => exact absurd calm id
    | .flush =>
      rw [List.append_assoc]
      exact .offer ch.sendFirst_offering (calm_isOpen calm) isOpen queue jobs_calm (later _)
  | due isOpen empty =>
    have waits : ch.Waits := ⟨h.plain, h.wire, isOpen, by simp [empty]⟩
    exact (shut waits empty _).ending
  | finished closed whole =>
    have empty := h.plain.queue_of_closed closed
    obtain ⟨-, -, notes, after⟩ := Task.act_of_closed ch closed empty task
    have noneAccepted : acceptedIn (notes.map Signal.note) = [] := by
      simp [acceptedIn, List.flatMap_eq_nil_iff, Signal.accepted]
    have noneWritten : writtenIn (notes.map Signal.note) = [] := by
      simp [writtenIn, List.flatMap_eq_nil_iff, Signal.written]
    rw [after]
    exact .finished closed (by simp [noneAccepted, noneWritten, whole])

theorem run (silent : ∀ task ∈ tasks, task.Silent) (h : ch.Closing tasks) :
    (ch.run tasks).Closing [] := by
  refine Stage.run_induction (motive := fun ch tasks => (∀ task ∈ tasks, task.Silent) →
    ch.Closing tasks → (ch.run tasks).Closing []) ?_ ?_ ch tasks silent h
  · intro ch _ h
    rwa [Channel.run]
  · intro ch task tasks ih silent h
    obtain ⟨first, others⟩ := List.forall_mem_cons.1 silent
    obtain ⟨-, later, -⟩ := h.plain.act_silent first
    rw [Stage.run_cons]
    exact ih (List.forall_mem_append.2 ⟨later, others⟩) (h.act first)

theorem mono {more : List (Task ε)} (calm : ∀ task ∈ more, task.Calm) (h : ch.Closing []) :
    ch.Closing more where
  plain := h.plain
  wire := h.wire
  ending := by
    cases h.ending with
    | queued isOpen queue jobs_calm => exact .queued isOpen queue jobs_calm calm
    | finished closed whole => exact .finished closed whole

theorem flush (h : ch.Closing []) : ch.flush.Closing [] :=
  run (by simp [Task.Silent]) (h.mono (by simp [Task.Calm]))

/-- The last write: once it is sent, the channel closes. -/
theorem writeThen (h : ch.Waits) (data : Bytes) :
    (ch.writeThen data (.close .done)).Closing [] := by
  obtain ⟨plain, later, -⟩ := @Plain.enqueue ε ch h.plain data (.close .done) trivial
  have last : ∀ task ∈ [(.complete .done : Task ε)], task.Calm := by
    simp [Task.Calm, Completion.Calm]
  rw [writeThen_eq]
  refine run later ⟨plain, (act_sustaining h.wire (.complete (.write data _ .done))).1, ?_⟩
  have placed : (ch.place ⟨data, .close .done⟩).queue = ch.queue ++ [⟨data, .close .done⟩] := rfl
  have works : (ch.place ⟨data, .close .done⟩).wire.Sustaining := h.wire
  by_cases queue : ch.queue = []
  · rw [enqueue_of_queue_nil h.isOpen queue]
    exact .offer (sendFirst_offering _) (sendFirst_sustaining works).2 h.isOpen placed h.calm last
  · rw [enqueue_of_queue_ne_nil h.isOpen queue]
    exact .queued h.isOpen placed h.calm last

end Closing

theorem sendFirst_accepting {ch : Channel ε} (h : ch.wire.Accepting) :
    ch.sendFirst.2.wire.Accepting ∧
      (ch.sendFirst.1 = none → ch.isOpen = true → ch.queue = []) := by
  unfold sendFirst
  split
  · exact ⟨h, fun _ _ => ‹_›⟩
  · rename_i job jobs first
    split
    · rename_i closed
      exact ⟨h, fun _ isOpen => by simp [isOpen] at closed⟩
    · obtain ⟨done, next⟩ := Flowing.send ch h job.data
      split <;> rename_i sent <;> rw [sent] at done next
      · exact ⟨next, nofun⟩
      · cases done
      · cases done

theorem act_accepting {ch : Channel ε} (h : ch.wire.Accepting) {task : Task ε}
    (silent : task.Silent) : (task.act ch).2.wire.Accepting := by
  match task with
  | .complete .done | .complete (.flush _) | .complete (.note event _) => exact h
  | .complete (.close _) =>
    simp only [Task.act, Channel.shut]
    split <;> exact h
  | .complete (.write data after next) => exact absurd silent id
  | .flush => exact (sendFirst_accepting h).1

/-- Once a wire takes everything, a flush that is still to come stays so until nothing waits. -/
theorem Plain.flush_or_nil {ch : Channel ε} (h : ch.Plain) (accepting : ch.wire.Accepting)
    {task : Task ε} (silent : task.Silent) {tasks : List (Task ε)}
    (rest : .flush ∈ task :: tasks ∨ ch.queue = []) :
    .flush ∈ ((task.act ch).1.map Task.complete).toList ++ task.rest (task.act ch).1.isSome ++
      tasks ∨ (task.act ch).2.queue = [] := by
  match task with
  | .complete .done | .complete (.flush _) | .complete (.note event _) =>
    rcases rest with member | empty
    · have later : .flush ∈ tasks := by simpa using member
      exact .inl (List.mem_append_right _ later)
    · exact .inr empty
  | .complete (.close _) => exact .inr ((h.act_silent silent).1.queue_of_closed (isOpen_shut ch))
  | .complete (.write data after next) => exact absurd silent id
  | .flush =>
    cases begun : ch.sendFirst.1 with
    | some completion => exact .inl (by simp [Task.act, Task.rest, begun])
    | none =>
      have empty : ch.queue = [] := by
        cases isOpen : ch.isOpen with
        | true => exact (sendFirst_accepting accepting).2 begun isOpen
        | false => exact h.queue_of_closed isOpen
      exact .inr (by simp [Task.act, sendFirst_of_queue_nil empty, empty])

/-- Once a wire takes everything, a flush sends all that waits. -/
theorem Plain.queue_flush {ch : Channel ε} (h : ch.Plain) (accepting : ch.wire.Accepting) :
    ch.flush.queue = [] := by
  refine Stage.run_induction
    (motive := fun ch tasks => ch.Plain → ch.wire.Accepting → (∀ task ∈ tasks, task.Silent) →
      .flush ∈ tasks ∨ ch.queue = [] → (ch.run tasks).queue = []) ?_ ?_ ch [.flush] h accepting
    (List.forall_mem_singleton.2 trivial) (.inl List.mem_cons_self)
  · intro ch _ _ _ rest
    rw [Channel.run]
    exact rest.resolve_left List.not_mem_nil
  · intro ch task tasks ih plain accepting silent rest
    obtain ⟨first, others⟩ := List.forall_mem_cons.1 silent
    obtain ⟨next, later, -⟩ := plain.act_silent first
    rw [Stage.run_cons]
    exact ih next (act_accepting accepting first) (List.forall_mem_append.2 ⟨later, others⟩)
      (plain.flush_or_nil accepting first rest)

end Channel
end WebServer

import WebServer.Proofs.Channel.Effects

/-!
# What is written, sent and queued

The queue of a channel is kept apart from what the wire took, and the number of unsent bytes apart
from the queue. `Accounted` ties them to the writes that were made: the writes split into those
fully sent and those waiting, the first of the waiting ones may be partly sent, and the queue holds
exactly what is left of them. Every task keeps the accounts, so nothing is lost, repeated or sent
out of order, however the wire answers and whatever completions do.
-/
namespace WebServer

variable {ε : Type}

/-- The data of writes, one behind the other. -/
def jobsData (jobs : List (Job ε)) : Bytes := jobs.flatMap (·.data)

@[simp] theorem jobsData_nil : jobsData ([] : List (Job ε)) = [] := rfl

@[simp] theorem jobsData_cons (job : Job ε) (jobs : List (Job ε)) :
    jobsData (job :: jobs) = job.data ++ jobsData jobs := List.flatMap_cons

@[simp] theorem jobsData_append (jobs more : List (Job ε)) :
    jobsData (jobs ++ more) = jobsData jobs ++ jobsData more := List.flatMap_append

/-- What is left of writes of which the wire took `taken`. It took it all from the first of them,
and a write of which nothing is left has waited only if it was empty. -/
inductive Remaining : List (Job ε) → Bytes → List (Job ε) → Prop where
  | nothing : Remaining [] [] []
  | first {taken rest : Bytes} (after : Completion ε) (jobs : List (Job ε))
      (empty : rest = [] → taken = []) :
      Remaining (⟨taken ++ rest, after⟩ :: jobs) taken (⟨rest, after⟩ :: jobs)

theorem Remaining.untouched : ∀ jobs : List (Job ε), Remaining jobs [] jobs
  | [] => .nothing
  | job :: jobs =>
    show Remaining (⟨[] ++ job.data, job.after⟩ :: jobs) [] _ from
      .first job.after jobs fun _ => rfl

theorem Remaining.snoc {waiting left : List (Job ε)} {taken : Bytes}
    (h : Remaining waiting taken left) (job : Job ε) :
    Remaining (waiting ++ [job]) taken (left ++ [job]) := by
  cases h with
  | nothing => exact .untouched [job]
  | first after jobs empty => exact .first after (jobs ++ [job]) empty

theorem Remaining.data_eq {waiting left : List (Job ε)} {taken : Bytes}
    (h : Remaining waiting taken left) : jobsData waiting = taken ++ jobsData left := by
  cases h with
  | nothing => rfl
  | first after jobs empty => simp

theorem Remaining.length_eq {waiting left : List (Job ε)} {taken : Bytes}
    (h : Remaining waiting taken left) : waiting.length = left.length := by
  cases h <;> rfl

/-- How the writes made on a channel are divided: the wire took all of those `sent` and `taken` of
those `waiting`, of which `left` is to be sent unless the channel closed. -/
structure Division (writes : List (Job ε)) (started : List (Completion ε)) (ch : Channel ε)
    (sent waiting : List (Job ε)) (taken : Bytes) (left : List (Job ε)) : Prop where
  writes_eq : writes = sent ++ waiting
  started_eq : started = sent.map (·.after)
  remaining : Remaining waiting taken left
  accepted_eq : acceptedIn ch.trace = jobsData sent ++ taken
  queue_eq : ch.queue = if ch.isOpen then left else []
  unsent_eq : ch.unsent = (jobsData ch.queue).length

/-- The channel accounts for the writes made on it and the completions that began. -/
def Accounted (writes : List (Job ε)) (started : List (Completion ε)) (ch : Channel ε) : Prop :=
  ∃ sent waiting taken left, Division writes started ch sent waiting taken left

namespace Accounted

variable {writes : List (Job ε)} {started : List (Completion ε)} {ch : Channel ε}

theorem fresh (wire : Wire) : Accounted [] [] ({ wire } : Channel ε) :=
  ⟨[], [], [], [], rfl, rfl, .nothing, rfl, rfl, rfl⟩

theorem note (h : Accounted writes started ch) (event : ε) :
    Accounted writes started (ch.note event) := by
  obtain ⟨sent, waiting, taken, left, d⟩ := h
  exact ⟨sent, waiting, taken, left, d.writes_eq, d.started_eq, d.remaining,
    by simpa [Channel.note, Channel.record, Signal.accepted] using d.accepted_eq,
    d.queue_eq, d.unsent_eq⟩

theorem shut (h : Accounted writes started ch) : Accounted writes started ch.shut := by
  obtain ⟨sent, waiting, taken, left, d⟩ := h
  unfold Channel.shut
  split
  · exact ⟨sent, waiting, taken, left, d.writes_eq, d.started_eq, d.remaining,
      by simpa [Channel.record, Signal.accepted] using d.accepted_eq, rfl, rfl⟩
  · exact ⟨sent, waiting, taken, left, d⟩

theorem place (h : Accounted writes started ch) (isOpen : ch.isOpen = true) (job : Job ε) :
    Accounted (writes ++ [job]) started (ch.place job) := by
  obtain ⟨sent, waiting, taken, left, d⟩ := h
  refine ⟨sent, waiting ++ [job], taken, left ++ [job], ?_, d.started_eq, d.remaining.snoc job,
    ?_, ?_, ?_⟩
  · rw [d.writes_eq, List.append_assoc]
  · simpa [Channel.place, Channel.push, Channel.record, Signal.accepted] using d.accepted_eq
  · simp [Channel.place, Channel.push, Channel.record, d.queue_eq, isOpen]
  · simp [Channel.place, Channel.push, Channel.record, d.unsent_eq]

/-- While the channel is open, what is first in the queue is what is left of the first write that
waits. -/
theorem first {sent waiting left : List (Job ε)} {taken : Bytes} {job : Job ε}
    {jobs : List (Job ε)} (d : Division writes started ch sent waiting taken left)
    (isOpen : ch.isOpen = true) (hq : ch.queue = job :: jobs) :
    waiting = ⟨taken ++ job.data, job.after⟩ :: jobs := by
  have queued := d.queue_eq
  rw [if_pos isOpen, hq] at queued
  have remaining := d.remaining
  rw [← queued] at remaining
  cases remaining with
  | first after jobs empty => rfl

theorem offer (h : Accounted writes started ch) {completion : Option (Completion ε)}
    {ch' : Channel ε} (o : Channel.Offering ch completion ch') :
    Accounted writes (started ++ completion.toList) ch' := by
  cases o with
  | nothing => simpa using h
  | @sent job jobs attempts wire isOpen hq offered works =>
    obtain ⟨sent, waiting, taken, left, d⟩ := h
    have waits := first d isOpen hq
    have accepted := offered.taken
    rw [List.append_nil] at accepted
    refine ⟨sent ++ [⟨taken ++ job.data, job.after⟩], jobs, [], jobs, ?_, ?_, .untouched jobs, ?_,
      by simp [isOpen], ?_⟩
    · rw [d.writes_eq, waits, List.append_assoc, List.singleton_append]
    · simp [d.started_eq]
    · simp [Signal.accepted, d.accepted_eq, ← accepted]
    · simp [d.unsent_eq, hq]
  | @blocked job jobs attempts rest wire isOpen hq offered left_ne works =>
    obtain ⟨sent, waiting, taken, left, d⟩ := h
    have waits := first d isOpen hq
    refine ⟨sent, waiting, taken ++ acceptedIn attempts, ⟨rest, job.after⟩ :: jobs, d.writes_eq,
      by simp [d.started_eq], ?_, ?_, by simp [isOpen], ?_⟩
    · rw [waits, offered.taken, ← List.append_assoc]
      exact .first job.after jobs fun h => absurd h left_ne
    · simp [d.accepted_eq]
    · have sizes := congrArg List.length offered.taken
      simp only [List.length_append] at sizes
      simp only [d.unsent_eq, hq, jobsData_cons, List.length_append]
      omega
  | @failed job jobs attempts rest wire isOpen hq offered left_ne =>
    obtain ⟨sent, waiting, taken, left, d⟩ := h
    have waits := first d isOpen hq
    refine ⟨sent, waiting, taken ++ acceptedIn attempts, ⟨rest, job.after⟩ :: jobs, d.writes_eq,
      by simp [d.started_eq], ?_, ?_, rfl, rfl⟩
    · rw [waits, offered.taken, ← List.append_assoc]
      exact .first job.after jobs fun h => absurd h left_ne
    · simp [Signal.accepted, d.accepted_eq]

end Accounted

/-- At every moment of a trace the bytes taken so far are the first ones of the data written so
far. -/
def NeverAhead (trace : List (Signal ε)) : Prop :=
  ∀ later earlier, trace = later ++ earlier → acceptedIn earlier <+: writtenIn earlier

/-- Signals that write nothing keep a trace so, if they end with no more taken than written. -/
theorem NeverAhead.append {trace : List (Signal ε)} (h : NeverAhead trace)
    (new : List (Signal ε)) (silent : writtenIn new = [])
    (ends : acceptedIn (new ++ trace) <+: writtenIn trace) :
    NeverAhead (new ++ trace) := by
  intro later earlier same
  rcases List.append_eq_append_iff.1 same with ⟨between, -, before⟩ | ⟨between, inside, after⟩
  · exact h between earlier before
  · have upTo : acceptedIn earlier <+: acceptedIn (new ++ trace) :=
      ⟨acceptedIn later, by rw [same, acceptedIn_append]⟩
    have written : writtenIn earlier = writtenIn trace := by
      rw [inside, writtenIn_append] at silent
      rw [after, writtenIn_append, (List.append_eq_nil_iff.1 silent).1, List.append_nil]
    rw [written]
    exact upTo.trans ends

theorem writtenIn_attempts {data rest : Bytes} {attempts : List (Signal ε)}
    (h : Channel.Attempts data attempts rest) : writtenIn attempts = [] := by
  simp only [writtenIn, List.flatMap_eq_nil_iff, List.mem_reverse]
  intro signal member
  obtain ⟨offered, answer, rfl, -, -⟩ := h.offers signal member
  rfl

/-- What holds of a channel at every stage of its work, beside the accounts. -/
structure Kept (writes : List (Job ε)) (started : List (Completion ε)) (ch : Channel ε) : Prop where
  accounted : Accounted writes started ch
  written_eq : writtenIn ch.trace = jobsData writes
  neverAhead : NeverAhead ch.trace
  failure : (∃ signal ∈ ch.trace, signal.isFailure = true) → ch.isOpen = false

theorem Accounted.accepted_within_written {writes : List (Job ε)} {started : List (Completion ε)}
    {ch : Channel ε} (h : Accounted writes started ch) :
    acceptedIn ch.trace <+: jobsData writes := by
  obtain ⟨sent, waiting, taken, left, d⟩ := h
  exact ⟨jobsData left, by
    rw [d.accepted_eq, d.writes_eq, jobsData_append, d.remaining.data_eq, List.append_assoc]⟩

namespace Kept

variable {writes : List (Job ε)} {started : List (Completion ε)} {ch : Channel ε}

theorem fresh (wire : Wire) : Kept [] [] ({ wire } : Channel ε) where
  accounted := .fresh wire
  written_eq := rfl
  neverAhead := by
    intro later earlier same
    obtain ⟨-, rfl⟩ := List.append_eq_nil_iff.1 same.symm
    exact List.prefix_refl _
  failure := by simp

theorem note (h : Kept writes started ch) (event : ε) : Kept writes started (ch.note event) where
  accounted := h.accounted.note event
  written_eq := by simpa [Channel.note, Channel.record, Signal.written] using h.written_eq
  neverAhead :=
    h.neverAhead.append [.note event] rfl
      (h.written_eq ▸ (h.accounted.note event).accepted_within_written)
  failure := by simpa [Channel.note, Channel.record, Signal.isFailure] using h.failure

theorem shut (h : Kept writes started ch) : Kept writes started ch.shut := by
  have accounted := h.accounted.shut
  unfold Channel.shut at accounted ⊢
  split at accounted
  · rename_i isOpen
    rw [if_pos isOpen]
    refine ⟨accounted, ?_, ?_, fun _ => rfl⟩
    · simpa [Channel.record, Signal.written] using h.written_eq
    · exact h.neverAhead.append [.shut] rfl (h.written_eq ▸ accounted.accepted_within_written)
  · rename_i isOpen
    rw [if_neg isOpen]
    exact h

theorem place (h : Kept writes started ch) (isOpen : ch.isOpen = true) (job : Job ε) :
    Kept (writes ++ [job]) started (ch.place job) where
  accounted := h.accounted.place isOpen job
  written_eq := by
    simp [Channel.place, Channel.push, Channel.record, Signal.written, h.written_eq]
  neverAhead := by
    intro later earlier same
    change .wrote job.data :: ch.trace = later ++ earlier at same
    cases later with
    | nil =>
      rw [← List.nil_append earlier, ← same]
      simpa [Signal.accepted, Signal.written] using
        (h.neverAhead [] ch.trace rfl).trans (List.prefix_append _ _)
    | cons signal later => exact h.neverAhead later earlier (List.cons.inj same).2
  failure := by
    simpa [Channel.place, Channel.push, Channel.record, Signal.isFailure] using h.failure

theorem offer (h : Kept writes started ch) {completion : Option (Completion ε)} {ch' : Channel ε}
    (o : Channel.Offering ch completion ch') :
    Kept writes (started ++ completion.toList) ch' := by
  have accounted := h.accounted.offer o
  have silent {job : Job ε} {attempts : List (Signal ε)} {rest : Bytes}
      (offered : Channel.Attempts job.data attempts rest) (signal : Signal ε)
      (mute : signal.written = []) : writtenIn (signal :: attempts) = [] := by
    rw [writtenIn_cons, writtenIn_attempts offered, mute, List.nil_append]
  cases o with
  | nothing => simpa using h
  | @sent job jobs attempts wire isOpen hq offered worked =>
    refine ⟨accounted, ?_, ?_, ?_⟩
    · rw [← List.cons_append, writtenIn_append, silent offered _ rfl, List.append_nil]
      exact h.written_eq
    · exact NeverAhead.append h.neverAhead _ (silent offered _ rfl)
        (h.written_eq ▸ accounted.accepted_within_written)
    · rintro ⟨signal, member, fails⟩
      rcases List.mem_cons.1 member with rfl | member
      · cases fails
      · rcases List.mem_append.1 member with new | old
        · rw [worked signal new] at fails
          cases fails
        · exact h.failure ⟨signal, old, fails⟩
  | @blocked job jobs attempts rest wire isOpen hq offered left_ne worked =>
    refine ⟨accounted, ?_, ?_, ?_⟩
    · rw [writtenIn_append, writtenIn_attempts offered, List.append_nil]
      exact h.written_eq
    · exact NeverAhead.append h.neverAhead _ (writtenIn_attempts offered)
        (h.written_eq ▸ accounted.accepted_within_written)
    · rintro ⟨signal, member, fails⟩
      rcases List.mem_append.1 member with new | old
      · rw [worked signal new] at fails
        cases fails
      · exact h.failure ⟨signal, old, fails⟩
  | @failed job jobs attempts rest wire isOpen hq offered left_ne =>
    refine ⟨accounted, ?_, ?_, fun _ => rfl⟩
    · rw [← List.cons_append, writtenIn_append, silent offered _ rfl, List.append_nil]
      exact h.written_eq
    · exact NeverAhead.append h.neverAhead _ (silent offered _ rfl)
        (h.written_eq ▸ accounted.accepted_within_written)

theorem act (h : Kept writes started ch) (task : Task ε) :
    Kept (writes ++ task.writes ch) (started ++ (task.act ch).1.toList) (task.act ch).2 :=
  Task.act_preserves (fun _ _ _ event h => h.note event) (fun _ _ _ h => h.shut)
    (fun _ _ _ job isOpen h => h.place isOpen job) (fun _ _ _ _ _ o h => h.offer o) task h

end Kept

namespace Stage

theorem kept_step {s : Stage ε} (h : Kept s.writes s.started s.channel) :
    Kept s.step.writes s.step.started s.step.channel := by
  match ht : s.tasks with
  | [] => rwa [step_of_tasks_nil ht]
  | task :: tasks =>
    rw [step_of_tasks_cons ht]
    exact h.act task

theorem kept_after (wire : Wire) (calls : List (Task ε)) (k : Nat) :
    Kept ((start wire calls).after k).writes ((start wire calls).after k).started
      ((start wire calls).after k).channel :=
  after_induction (motive := fun s => Kept s.writes s.started s.channel) (Kept.fresh wire)
    (fun _ h => kept_step h) k

end Stage

theorem Accounted.queue_of_closed {writes : List (Job ε)} {started : List (Completion ε)}
    {ch : Channel ε} (h : Accounted writes started ch) (closed : ch.isOpen = false) :
    ch.queue = [] ∧ ch.unsent = 0 := by
  obtain ⟨sent, waiting, taken, left, d⟩ := h
  have queue : ch.queue = [] := by rw [d.queue_eq, closed]; rfl
  exact ⟨queue, by rw [d.unsent_eq, queue]; rfl⟩

/-- On a closed channel a task does nothing, unless it notes something. -/
theorem Task.act_of_closed (ch : Channel ε) (closed : ch.isOpen = false) (hq : ch.queue = [])
    (task : Task ε) :
    (task.act ch).1 = none ∧ task.writes ch = [] ∧
      ∃ notes : List ε, (task.act ch).2 = { ch with trace := notes.map .note ++ ch.trace } := by
  match task with
  | .complete .done | .complete (.flush next) => exact ⟨rfl, rfl, [], rfl⟩
  | .complete (.note event next) => exact ⟨rfl, rfl, [event], rfl⟩
  | .complete (.close next) => exact ⟨rfl, rfl, [], Channel.shut_of_closed closed⟩
  | .complete (.write data after next) =>
    have ignored := Channel.enqueue_of_closed closed data after
    exact ⟨congrArg (·.1) ignored, by simp [Task.writes, closed], [], congrArg (·.2) ignored⟩
  | .flush =>
    have nothing := Channel.sendFirst_of_queue_nil hq
    exact ⟨congrArg (·.1) nothing, rfl, [], congrArg (·.2) nothing⟩

namespace Stage

/-- Once the channel is closed, nothing happens any more but what completions note. -/
theorem after_of_closed {s : Stage ε} (closed : s.channel.isOpen = false)
    (hq : s.channel.queue = []) (k : Nat) :
    (s.after k).writes = s.writes ∧ (s.after k).started = s.started ∧
      ∃ notes : List ε,
        (s.after k).channel = { s.channel with trace := notes.map .note ++ s.channel.trace } := by
  induction k with
  | zero => exact ⟨rfl, rfl, [], rfl⟩
  | succ k ih =>
    obtain ⟨writes, started, notes, channel⟩ := ih
    rw [after_succ]
    match ht : (s.after k).tasks with
    | [] =>
      rw [step_of_tasks_nil ht]
      exact ⟨writes, started, notes, channel⟩
    | task :: tasks =>
      obtain ⟨none, silent, more, act⟩ := Task.act_of_closed (s.after k).channel
        (by rw [channel]; exact closed) (by rw [channel]; exact hq) task
      rw [step_of_tasks_cons ht, none, silent, act]
      refine ⟨?_, ?_, more ++ notes, ?_⟩
      · rw [List.append_nil, writes]
      · simp only [Option.toList_none, List.append_nil]
        exact started
      · simp [channel]

/-- The order of the bytes at a stage: what was written on the open channel, what the wire took of
it, and what is queued. -/
structure Lossless (s : Stage ε) : Prop where
  accepted_within_written : acceptedIn s.channel.trace <+: jobsData s.writes
  written_eq : writtenIn s.channel.trace = jobsData s.writes
  /-- It was so at every moment before, also between two attempts of one write. -/
  neverAhead : NeverAhead s.channel.trace
  while_open : s.channel.isOpen = true →
    acceptedIn s.channel.trace ++ jobsData s.channel.queue = jobsData s.writes
  unsent_eq : s.channel.unsent = (jobsData s.channel.queue).length
  closed_by_failure :
    (∃ signal ∈ s.channel.trace, signal.isFailure = true) → s.channel.isOpen = false
  closed_empty : s.channel.isOpen = false → s.channel.queue = [] ∧ s.channel.unsent = 0
  closed_idle : s.channel.isOpen = false → ∀ data after,
    s.channel.writeThen data after = s.channel ∧ s.channel.flush = s.channel ∧
      s.channel.close = s.channel
  /-- No later task touches the wire, the queue or the trace, but to note something. -/
  closed_forever : s.channel.isOpen = false → ∀ k, ∃ notes : List ε,
    (s.after k).channel = { s.channel with trace := notes.map .note ++ s.channel.trace }

theorem Lossless.of_kept {s : Stage ε} (h : Kept s.writes s.started s.channel) : s.Lossless where
  accepted_within_written := h.accounted.accepted_within_written
  written_eq := h.written_eq
  neverAhead := h.neverAhead
  while_open := by
    intro isOpen
    obtain ⟨sent, waiting, taken, left, d⟩ := h.accounted
    rw [d.accepted_eq, d.queue_eq, if_pos isOpen, d.writes_eq, jobsData_append,
      d.remaining.data_eq, List.append_assoc]
  unsent_eq := by
    obtain ⟨sent, waiting, taken, left, d⟩ := h.accounted
    exact d.unsent_eq
  closed_by_failure := h.failure
  closed_empty := h.accounted.queue_of_closed
  closed_idle := by
    intro closed data after
    have hq := (h.accounted.queue_of_closed closed).1
    refine ⟨?_, ?_, ?_⟩
    · rw [Channel.writeThen, run_cons]
      simp [Task.act, Task.rest, Channel.enqueue_of_closed closed, Channel.run]
    · rw [Channel.flush, run_cons]
      simp [Task.act, Task.rest, Channel.sendFirst_of_queue_nil hq, Channel.run]
    · rw [Channel.close, run_cons]
      simp [Task.act, Task.rest, Channel.shut_of_closed closed, Channel.run]
  closed_forever := fun closed k =>
    (after_of_closed closed (h.accounted.queue_of_closed closed).1 k).2.2

/-- For every wire, whatever it answers, and every sequence of calls, with whatever completions do
between them: at each stage of the work the bytes are in order and none is lost. The stages are
those of making the calls one after another. -/
theorem transmission_lossless (wire : Wire) (calls : List (Task ε)) :
    (∀ k, ((start wire calls).after k).Lossless) ∧
      ∃ k, ((start wire calls).after k).channel =
        calls.foldl (fun ch call => ch.run [call]) { wire } := by
  refine ⟨fun k => .of_kept (kept_after wire calls k), ?_⟩
  obtain ⟨k, -, channel⟩ := (start wire calls).exists_after_eq_run
  exact ⟨k, by rw [channel, run_eq_foldl]; rfl⟩

end Stage
end WebServer

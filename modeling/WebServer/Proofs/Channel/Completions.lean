import WebServer.Proofs.Channel.Ledger

/-!
# When completions begin

A completion belongs to one write and begins when the wire took the last byte of it. The completions
that have begun are those of the first writes, one each and in the order of the calls
(`Division.started_eq`); a write with data has been fully taken exactly if its completion has begun
(`started_iff_taken`); no byte of a write is offered before the completions of all earlier ones have
begun (`InTurn`). An empty write that waits behind others is dropped like them when the channel
closes, although no byte of it is missing: `empty_write_dropped`.
-/
namespace WebServer

variable {ε : Type}

namespace Division

variable {writes sent waiting left : List (Job ε)} {started : List (Completion ε)}
  {ch : Channel ε} {taken : Bytes}

theorem length_started (d : Division writes started ch sent waiting taken left) :
    started.length = sent.length := by
  rw [d.started_eq, List.length_map]

theorem started_eq_take (d : Division writes started ch sent waiting taken left) :
    started = (writes.take started.length).map (·.after) := by
  rw [d.length_started, d.writes_eq, List.take_left, d.started_eq]

/-- A write whose completion has begun is fully taken, and so is every write before it. -/
theorem taken_of_started (d : Division writes started ch sent waiting taken left) {i : Nat}
    (h : i < started.length) : jobsData (writes.take (i + 1)) <+: acceptedIn ch.trace := by
  rw [d.length_started] at h
  have inSent : writes.take (i + 1) = sent.take (i + 1) := by
    rw [d.writes_eq, List.take_append_of_le_length h]
  have upTo : jobsData sent = jobsData (sent.take (i + 1)) ++ jobsData (sent.drop (i + 1)) := by
    rw [← jobsData_append, List.take_append_drop]
  rw [inSent, d.accepted_eq, upTo, List.append_assoc]
  exact List.prefix_append _ _

/-- Of the writes that wait, those of which nothing is missing are empty. -/
theorem data_eq_nil_of_taken (d : Division writes started ch sent waiting taken left) {j : Nat}
    (h : jobsData (waiting.take (j + 1)) <+: taken) :
    ∀ job ∈ waiting.take (j + 1), job.data = [] := by
  cases d.remaining with
  | nothing => simp
  | first after jobs empty =>
    rename_i rest
    have sizes := h.length_le
    simp only [List.take_succ_cons, jobsData_cons, List.length_append] at sizes
    have restNil : rest = [] := List.eq_nil_of_length_eq_zero (by omega)
    have jobsNil : jobsData (jobs.take j) = [] := List.eq_nil_of_length_eq_zero (by omega)
    intro job member
    rw [List.take_succ_cons] at member
    rcases List.mem_cons.1 member with rfl | later
    · rw [restNil, empty restNil]
      rfl
    · exact List.flatMap_eq_nil_iff.1 jobsNil job later

/-- The completion of a write with data has begun exactly if all of it was taken. -/
theorem started_iff_taken (d : Division writes started ch sent waiting taken left) {i : Nat}
    {job : Job ε} (hi : writes[i]? = some job) (hne : job.data ≠ []) :
    i < started.length ↔ jobsData (writes.take (i + 1)) <+: acceptedIn ch.trace := by
  refine ⟨d.taken_of_started, fun allTaken => ?_⟩
  rw [d.length_started]
  refine Nat.lt_of_not_le fun behind => hne ?_
  obtain ⟨j, rfl⟩ := Nat.exists_eq_add_of_le behind
  rw [d.writes_eq, List.getElem?_append_right behind, Nat.add_sub_cancel_left] at hi
  have among : writes.take (sent.length + j + 1) = sent ++ waiting.take (j + 1) := by
    rw [d.writes_eq, Nat.add_assoc, List.take_length_add_append]
  rw [among, d.accepted_eq, jobsData_append] at allTaken
  exact d.data_eq_nil_of_taken ((List.prefix_append_right_inj _).1 allTaken) job
    (List.mem_of_getElem? (i := j) (by rw [List.getElem?_take_of_lt (by omega)]; exact hi))

end Division

/-- Whenever bytes are offered, they are the last ones of the write whose turn it is: as many
completions have begun as there are writes before it. -/
def InTurn (writes : List (Job ε)) (trace : List (Signal ε)) : Prop :=
  ∀ later offered answer earlier, trace = later ++ .attempt offered answer :: earlier →
    ∃ job, writes[earlier.countP Signal.isSent]? = some job ∧ offered ≠ [] ∧ offered <:+ job.data

namespace InTurn

variable {writes : List (Job ε)} {trace : List (Signal ε)}

theorem cons (h : InTurn writes trace) {signal : Signal ε}
    (other : ∀ offered answer, signal ≠ .attempt offered answer) :
    InTurn writes (signal :: trace) := by
  intro later offered answer earlier same
  cases later with
  | nil => exact absurd (List.cons.inj same).1 (other offered answer)
  | cons _ later => exact h later offered answer earlier (List.cons.inj same).2

theorem snoc (h : InTurn writes trace) (job : Job ε) : InTurn (writes ++ [job]) trace := by
  intro later offered answer earlier same
  obtain ⟨its, turn, some, suffix⟩ := h later offered answer earlier same
  exact ⟨its, by rw [List.getElem?_append_left (List.getElem?_eq_some_iff.1 turn).1, turn], some,
    suffix⟩

theorem countP_attempts {data rest : Bytes} {attempts : List (Signal ε)}
    (h : Channel.Attempts data attempts rest) : attempts.countP Signal.isSent = 0 := by
  rw [List.countP_eq_zero]
  intro signal member
  obtain ⟨offered, answer, rfl, -, -⟩ := h.offers signal member
  simp [Signal.isSent]

/-- Attempts at the write whose turn it is, and which may have been sent in part before. -/
theorem attempts (h : InTurn writes trace) {data rest : Bytes} {attempts : List (Signal ε)}
    (offers : Channel.Attempts data attempts rest) {job : Job ε}
    (turn : writes[trace.countP Signal.isSent]? = some job) (suffix : data <:+ job.data) :
    InTurn writes (attempts ++ trace) := by
  intro later offered answer earlier same
  rcases List.append_eq_append_iff.1 same with ⟨between, -, before⟩ | ⟨between, inside, after⟩
  · exact h between offered answer earlier before
  · cases between with
    | nil => exact h [] offered answer earlier after.symm
    | cons signal between =>
      obtain ⟨rfl, tail⟩ := List.cons.inj after
      have member : Signal.attempt offered answer ∈ attempts := by simp [inside]
      obtain ⟨_, _, same, some, part⟩ := offers.offers _ member
      obtain ⟨rfl, rfl⟩ := Signal.attempt.inj same
      have none := countP_attempts offers
      rw [inside, List.countP_append, List.countP_cons] at none
      refine ⟨job, ?_, some, part.trans suffix⟩
      rw [show earlier = between ++ trace from tail, List.countP_append,
        show between.countP Signal.isSent = 0 by omega, Nat.zero_add]
      exact turn

end InTurn

/-- Completions begin in turn, and the trace tells when. -/
structure Turns (writes : List (Job ε)) (started : List (Completion ε)) (ch : Channel ε) :
    Prop where
  accounted : Accounted writes started ch
  count_eq : ch.trace.countP Signal.isSent = started.length
  inTurn : InTurn writes ch.trace

namespace Turns

variable {writes : List (Job ε)} {started : List (Completion ε)} {ch : Channel ε}

theorem fresh (wire : Wire) : Turns [] [] ({ wire } : Channel ε) where
  accounted := .fresh wire
  count_eq := rfl
  inTurn := by
    intro later offered answer earlier same
    simp at same

theorem note (h : Turns writes started ch) (event : ε) : Turns writes started (ch.note event) where
  accounted := h.accounted.note event
  count_eq := by simpa [Channel.note, Channel.record, Signal.isSent] using h.count_eq
  inTurn := h.inTurn.cons (by simp)

theorem shut (h : Turns writes started ch) : Turns writes started ch.shut := by
  have accounted := h.accounted.shut
  unfold Channel.shut at accounted ⊢
  split at accounted
  · rename_i isOpen
    rw [if_pos isOpen]
    exact ⟨accounted, by simpa [Channel.record, Signal.isSent] using h.count_eq,
      h.inTurn.cons (by simp)⟩
  · rename_i isOpen
    rwa [if_neg isOpen]

theorem place (h : Turns writes started ch) (isOpen : ch.isOpen = true) (job : Job ε) :
    Turns (writes ++ [job]) started (ch.place job) where
  accounted := h.accounted.place isOpen job
  count_eq := by
    simpa [Channel.place, Channel.push, Channel.record, Signal.isSent] using h.count_eq
  inTurn := (h.inTurn.snoc job).cons (by simp)

/-- The first write in the queue is the one whose turn it is. -/
theorem turn (h : Turns writes started ch) (isOpen : ch.isOpen = true) {job : Job ε}
    {jobs : List (Job ε)} (hq : ch.queue = job :: jobs) :
    ∃ whole, writes[ch.trace.countP Signal.isSent]? = some whole ∧ job.data <:+ whole.data := by
  obtain ⟨sent, waiting, taken, left, d⟩ := h.accounted
  refine ⟨⟨taken ++ job.data, job.after⟩, ?_, List.suffix_append _ _⟩
  rw [h.count_eq, d.length_started, d.writes_eq, Accounted.first d isOpen hq,
    List.getElem?_append_right (Nat.le_refl _), Nat.sub_self]
  rfl

theorem offer (h : Turns writes started ch) {completion : Option (Completion ε)} {ch' : Channel ε}
    (o : Channel.Offering ch completion ch') :
    Turns writes (started ++ completion.toList) ch' := by
  have accounted := h.accounted.offer o
  cases o with
  | nothing => simpa using h
  | @sent job jobs attempts wire isOpen hq offered worked =>
    obtain ⟨whole, turn, suffix⟩ := h.turn isOpen hq
    refine ⟨accounted, ?_, (h.inTurn.attempts offered turn suffix).cons (by simp)⟩
    simp [List.countP_cons, Signal.isSent, InTurn.countP_attempts offered, h.count_eq]
  | @blocked job jobs attempts rest wire isOpen hq offered left_ne worked =>
    obtain ⟨whole, turn, suffix⟩ := h.turn isOpen hq
    refine ⟨accounted, ?_, h.inTurn.attempts offered turn suffix⟩
    simp [InTurn.countP_attempts offered, h.count_eq]
  | @failed job jobs attempts rest wire isOpen hq offered left_ne =>
    obtain ⟨whole, turn, suffix⟩ := h.turn isOpen hq
    refine ⟨accounted, ?_, (h.inTurn.attempts offered turn suffix).cons (by simp)⟩
    simp [Signal.isSent, InTurn.countP_attempts offered, h.count_eq]

theorem act (h : Turns writes started ch) (task : Task ε) :
    Turns (writes ++ task.writes ch) (started ++ (task.act ch).1.toList) (task.act ch).2 :=
  Task.act_preserves (fun _ _ _ event h => h.note event) (fun _ _ _ h => h.shut)
    (fun _ _ _ job isOpen h => h.place isOpen job) (fun _ _ _ _ _ o h => h.offer o) task h

end Turns

namespace Stage

theorem turns_step {s : Stage ε} (h : Turns s.writes s.started s.channel) :
    Turns s.step.writes s.step.started s.step.channel := by
  match ht : s.tasks with
  | [] => rwa [step_of_tasks_nil ht]
  | task :: tasks =>
    rw [step_of_tasks_cons ht]
    exact h.act task

theorem turns_after (wire : Wire) (calls : List (Task ε)) (k : Nat) :
    Turns ((start wire calls).after k).writes ((start wire calls).after k).started
      ((start wire calls).after k).channel :=
  after_induction (motive := fun s => Turns s.writes s.started s.channel) (Turns.fresh wire)
    (fun _ h => turns_step h) k

/-- A completion that begins is what is done next. -/
theorem tasks_step_of_started {s : Stage ε} {completion : Completion ε}
    (h : s.step.started = s.started ++ [completion]) :
    ∃ tasks, s.step.tasks = .complete completion :: tasks := by
  match ht : s.tasks with
  | [] =>
    rw [step_of_tasks_nil ht] at h
    simp at h
  | task :: tasks =>
    rw [step_of_tasks_cons ht] at h ⊢
    have begun := List.append_cancel_left h
    cases hc : (task.act s.channel).1 with
    | none => simp [hc] at begun
    | some first =>
      simp only [hc, Option.toList_some, List.cons.injEq, and_true] at begun
      simp [begun]

/-- Which completions have begun at a stage. -/
structure CompletesInOrder (s : Stage ε) : Prop where
  /-- Those of the first writes, one each, in the order of the calls. -/
  started_eq : s.started = (s.writes.take s.started.length).map (·.after)
  /-- The completion of a write with data has begun exactly if the wire took all of it, and all
  that was written before. -/
  started_iff : ∀ i job, s.writes[i]? = some job → job.data ≠ [] →
    (i < s.started.length ↔ jobsData (s.writes.take (i + 1)) <+: acceptedIn s.channel.trace)
  /-- With or without data, none begins before that. -/
  taken_of_started : ∀ i < s.started.length,
    jobsData (s.writes.take (i + 1)) <+: acceptedIn s.channel.trace
  /-- While the channel is open, the writes whose completions have not begun are those queued. -/
  length_while_open : s.channel.isOpen = true →
    s.writes.length = s.started.length + s.channel.queue.length
  /-- The bytes offered are always those of the write behind the ones whose completions have
  begun. -/
  inTurn : InTurn s.writes s.channel.trace
  count_eq : s.channel.trace.countP Signal.isSent = s.started.length
  /-- What begins is done next, and nothing begins on a closed channel. -/
  runs_next : ∀ completion, s.step.started = s.started ++ [completion] →
    s.channel.isOpen = true ∧ ∃ tasks, s.step.tasks = .complete completion :: tasks
  closed_forever : s.channel.isOpen = false → ∀ k, (s.after k).started = s.started

theorem CompletesInOrder.of_turns {s : Stage ε} (h : Turns s.writes s.started s.channel) :
    s.CompletesInOrder := by
  obtain ⟨sent, waiting, taken, left, d⟩ := h.accounted
  have closed_forever (closed : s.channel.isOpen = false) (k : Nat) :
      (s.after k).started = s.started :=
    (after_of_closed closed (h.accounted.queue_of_closed closed).1 k).2.1
  refine ⟨d.started_eq_take, fun i job => d.started_iff_taken, fun i => d.taken_of_started, ?_,
    h.inTurn, h.count_eq, ?_, closed_forever⟩
  · intro isOpen
    rw [d.writes_eq, List.length_append, d.length_started, d.remaining.length_eq, d.queue_eq,
      if_pos isOpen]
  · intro completion begins
    refine ⟨?_, tasks_step_of_started begins⟩
    cases isOpen : s.channel.isOpen with
    | true => rfl
    | false =>
      have none := closed_forever isOpen 1
      rw [show s.after 1 = s.step from rfl, begins] at none
      simp at none

/-- For every wire, whatever it answers, and every sequence of calls, with whatever completions do
between them: at each stage of the work completions have begun once each, in order, and for writes
that were fully taken. The stages are those of making the calls one after another. -/
theorem completions_in_order (wire : Wire) (calls : List (Task ε)) :
    (∀ k, ((start wire calls).after k).CompletesInOrder) ∧
      ∃ k, ((start wire calls).after k).channel =
        calls.foldl (fun ch call => ch.run [call]) { wire } := by
  refine ⟨fun k => .of_turns (turns_after wire calls k), ?_⟩
  obtain ⟨k, -, channel⟩ := (start wire calls).exists_after_eq_run
  exact ⟨k, by rw [channel, run_eq_foldl]; rfl⟩

/-- It is not so that every completion begins once the wire took all of its write and of the writes
before: an empty write behind one that closes the channel is dropped. -/
theorem empty_write_dropped :
    ¬ ∀ (wire : Wire) (calls : List (Task Unit)) (k i : Nat),
      i < ((start wire calls).after k).writes.length →
      jobsData (((start wire calls).after k).writes.take (i + 1)) <+:
        acceptedIn ((start wire calls).after k).channel.trace →
      i < ((start wire calls).after k).started.length := by
  intro h
  have := h { answers := [.wouldBlock] }
    [.complete (.write [97] (.close .done) .done), .complete (.write [] (.note () .done) .done),
      .flush] 10 1
  revert this
  decide +kernel

end Stage
end WebServer

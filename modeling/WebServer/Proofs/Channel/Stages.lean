import WebServer.Connection.Channel

/-!
# Stages of the work on a channel

`Channel.run` works off its tasks in one go. Here the work is cut at every task, so that what holds
at each point of it can be stated: a stage is a channel together with what is still to be done, the
writes that were made so far and the completions that have begun. `Stage.step` does the first task;
`exists_after_eq_run` ties the steps to `run`, which every call on a channel is made of.
-/
namespace WebServer

variable {ε : Type}

namespace Task

/-- What the first part of a task does to the channel. Also gives the completion that begins in it,
if a write is fully sent. -/
def act (ch : Channel ε) : Task ε → Option (Completion ε) × Channel ε
  | .complete .done => (none, ch)
  | .complete (.note event _) => (none, ch.note event)
  | .complete (.write data after _) => ch.enqueue data after
  | .complete (.close _) => (none, ch.shut)
  | .complete (.flush _) => (none, ch)
  | .flush => ch.sendFirst

/-- What is left of a task behind its first part. A flush goes on as long as writes get sent. -/
def rest (sent : Bool) : Task ε → List (Task ε)
  | .complete .done => []
  | .complete (.note _ next) => [.complete next]
  | .complete (.write _ _ next) => [.complete next]
  | .complete (.close next) => [.complete next]
  | .complete (.flush next) => [.flush, .complete next]
  | .flush => if sent then [.flush] else []

/-- The write that a task makes, if the channel is open for it. -/
def writes (ch : Channel ε) : Task ε → List (Job ε)
  | .complete (.write data after _) => if ch.isOpen then [⟨data, after⟩] else []
  | _ => []

end Task

/-- The work on a channel between two tasks. -/
structure Stage (ε : Type) where
  channel : Channel ε
  /-- What the calls under way have still to do, the next task first. -/
  tasks : List (Task ε)
  /-- The writes made on the open channel, in the order of the calls. -/
  writes : List (Job ε) := []
  /-- The completions that have begun, the earliest first. -/
  started : List (Completion ε) := []

namespace Stage

/-- A new channel on a wire, before a list of calls. -/
def start (wire : Wire) (calls : List (Task ε)) : Stage ε := { channel := { wire }, tasks := calls }

def step (s : Stage ε) : Stage ε :=
  match s.tasks with
  | [] => s
  | task :: tasks =>
    let (completion, channel) := task.act s.channel
    { channel
      tasks := (completion.map Task.complete).toList ++ task.rest completion.isSome ++ tasks
      writes := s.writes ++ task.writes s.channel
      started := s.started ++ completion.toList }

/-- The stage that many tasks later. -/
def after (s : Stage ε) : Nat → Stage ε
  | 0 => s
  | k + 1 => s.step.after k

theorem after_succ (s : Stage ε) (k : Nat) : s.after (k + 1) = (s.after k).step := by
  induction k generalizing s with
  | zero => rfl
  | succ k ih => exact ih s.step

theorem step_of_tasks_nil {s : Stage ε} (h : s.tasks = []) : s.step = s := by
  simp only [step, h]

theorem step_of_tasks_cons {s : Stage ε} {task : Task ε} {tasks : List (Task ε)}
    (h : s.tasks = task :: tasks) :
    s.step =
      { channel := (task.act s.channel).2
        tasks := ((task.act s.channel).1.map Task.complete).toList ++
          task.rest (task.act s.channel).1.isSome ++ tasks
        writes := s.writes ++ task.writes s.channel
        started := s.started ++ (task.act s.channel).1.toList } := by
  simp only [step, h]

/-- What every step preserves holds at every stage. -/
theorem after_induction {motive : Stage ε → Prop} {s : Stage ε} (h : motive s)
    (next : ∀ s, motive s → motive s.step) (k : Nat) : motive (s.after k) := by
  induction k generalizing s with
  | zero => exact h
  | succ k ih => exact ih (next s h)

/-- Running the first task and then the others is running them all. -/
theorem run_cons (ch : Channel ε) (task : Task ε) (tasks : List (Task ε)) :
    ch.run (task :: tasks) =
      (task.act ch).2.run (((task.act ch).1.map Task.complete).toList ++
        task.rest (task.act ch).1.isSome ++ tasks) := by
  match task with
  | .complete .done => simp [Channel.run, Task.act, Task.rest]
  | .complete (.note event next) => simp [Channel.run, Task.act, Task.rest]
  | .complete (.close next) => simp [Channel.run, Task.act, Task.rest]
  | .complete (.flush next) => simp [Channel.run, Task.act, Task.rest]
  | .complete (.write data completion next) =>
    rw [Channel.run]
    split <;> rename_i heq <;> simp [Task.act, Task.rest, heq]
  | .flush =>
    rw [Channel.run]
    split <;> rename_i heq <;> simp [Task.act, Task.rest, heq]

/-- Calls made one after another are one run of all their tasks. -/
theorem run_append (ch : Channel ε) (tasks more : List (Task ε)) :
    ch.run (tasks ++ more) = (ch.run tasks).run more := by
  fun_induction Channel.run ch tasks with
  | case1 ch => rfl
  | case2 ch tasks ih => rw [List.cons_append, Channel.run]; exact ih
  | case3 ch event next tasks ih => rw [List.cons_append, Channel.run]; exact ih
  | case4 ch next tasks ih => rw [List.cons_append, Channel.run]; exact ih
  | case5 ch next tasks ih => rw [List.cons_append, Channel.run]; exact ih
  | case6 ch data after next tasks ch' heq ih =>
    rw [List.cons_append, run_cons]
    simpa [Task.act, Task.rest, heq] using ih
  | case7 ch data after next tasks completion ch' heq ih =>
    rw [List.cons_append, run_cons]
    simpa [Task.act, Task.rest, heq] using ih
  | case8 ch tasks ch' heq ih =>
    rw [List.cons_append, run_cons]
    simpa [Task.act, Task.rest, heq] using ih
  | case9 ch tasks completion ch' heq ih =>
    rw [List.cons_append, run_cons]
    simpa [Task.act, Task.rest, heq] using ih

theorem run_eq_foldl (ch : Channel ε) (calls : List (Task ε)) :
    ch.run calls = calls.foldl (fun ch call => ch.run [call]) ch := by
  induction calls generalizing ch with
  | nil => rw [Channel.run]; rfl
  | cons call calls ih =>
    rw [← List.singleton_append, run_append, ih]
    rfl

theorem tasksWeight_append (tasks more : List (Task ε)) :
    tasksWeight (tasks ++ more) = tasksWeight tasks + tasksWeight more := by
  induction tasks with
  | nil => simp [tasksWeight]
  | cons task tasks ih => simp only [List.cons_append, tasksWeight, ih, Nat.add_assoc]

/-- The first part of a task leaves less to do than there was. -/
theorem weight_act_lt (ch : Channel ε) (task : Task ε) :
    (task.act ch).2.weight + tasksWeight (((task.act ch).1.map Task.complete).toList ++
      task.rest (task.act ch).1.isSome) < ch.weight + task.weight := by
  match task with
  | .complete .done => simp [Task.act, Task.rest, tasksWeight, Task.weight]
  | .complete (.note event next) =>
    simp [Task.act, Task.rest, tasksWeight, Task.weight, Completion.weight, Channel.note]
  | .complete (.close next) =>
    have := ch.weight_shut_le
    simp only [Task.act, Task.rest, tasksWeight, Task.weight, Completion.weight, Option.map_none,
      Option.toList_none, List.nil_append]
    omega
  | .complete (.flush next) =>
    simp only [Task.act, Task.rest, tasksWeight, Task.weight, Completion.weight, Option.map_none,
      Option.toList_none, List.nil_append]
    omega
  | .complete (.write data completion next) =>
    have := ch.weight_enqueue data completion
    cases h : (ch.enqueue data completion).1 with
    | none =>
      simp only [h, Option.map_none, Option.getD_none] at this
      simp only [Task.act, h, Task.rest, tasksWeight, Task.weight, Completion.weight,
        Option.map_none, Option.toList_none, List.nil_append]
      omega
    | some begun =>
      simp only [h, Option.map_some, Option.getD_some] at this
      simp only [Task.act, h, Task.rest, tasksWeight, Task.weight, Completion.weight,
        Option.map_some, Option.toList_some, List.cons_append, List.nil_append]
      omega
  | .flush =>
    have := ch.weight_sendFirst
    cases h : ch.sendFirst.1 with
    | none =>
      simp only [h, Option.map_none, Option.getD_none] at this
      simp only [Task.act, h, Task.rest, tasksWeight, Task.weight, Option.map_none,
        Option.toList_none, List.nil_append, Option.isSome_none, Bool.false_eq_true, if_false]
      omega
    | some begun =>
      simp only [h, Option.map_some, Option.getD_some] at this
      simp only [Task.act, h, Task.rest, tasksWeight, Task.weight, Option.map_some,
        Option.toList_some, List.cons_append, List.nil_append, Option.isSome_some, if_true]
      omega

/-- Running tasks follows their acts: what carries over from the work behind an act to the work
with it, holds of all work. -/
theorem run_induction {motive : Channel ε → List (Task ε) → Prop} (nil : ∀ ch, motive ch [])
    (cons : ∀ ch task tasks, motive (task.act ch).2
      (((task.act ch).1.map Task.complete).toList ++ task.rest (task.act ch).1.isSome ++ tasks) →
      motive ch (task :: tasks))
    (ch : Channel ε) (tasks : List (Task ε)) : motive ch tasks := by
  induction hw : ch.weight + tasksWeight tasks using Nat.strongRecOn generalizing ch tasks with
  | ind weight ih =>
    match tasks with
    | [] => exact nil ch
    | task :: tasks =>
      have := weight_act_lt ch task
      refine cons ch task tasks (ih _ ?_ _ _ rfl)
      simp only [← hw, tasksWeight_append, tasksWeight] at this ⊢
      omega

/-- The work comes to an end, and the channel is then the one that `run` gives. -/
theorem exists_after_eq_run (s : Stage ε) :
    ∃ k, (s.after k).tasks = [] ∧ (s.after k).channel = s.channel.run s.tasks := by
  refine run_induction (motive := fun ch tasks => ∀ s : Stage ε, s.channel = ch → s.tasks = tasks →
    ∃ k, (s.after k).tasks = [] ∧ (s.after k).channel = ch.run tasks) ?_ ?_ _ _ s rfl rfl
  · intro ch s channel none
    exact ⟨0, none, by rw [Channel.run]; exact channel⟩
  · intro ch task tasks ih s channel next
    subst channel
    have stepped := step_of_tasks_cons next
    obtain ⟨k, done, ran⟩ := ih s.step (by rw [stepped]) (by rw [stepped])
    exact ⟨k + 1, done, ran.trans (run_cons _ _ _).symm⟩

end Stage
end WebServer

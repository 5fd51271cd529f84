import WebServer.Connection.Signal

/-!
# Channels

The sending side of a connection: a queue of writes that the wire has not fully taken, in the
order in which they were made. A write goes out at once if nothing is queued before it. When a
write is fully sent, its completion runs, which may itself write, flush or close; `run` works off
such completions one inside the other. A failing wire closes the channel, and on a closed channel
every operation does nothing.
-/
namespace WebServer

/-- A queued write: what is left to send, and what to do then. -/
structure Job (ε : Type) where
  data : Bytes
  after : Completion ε
  deriving DecidableEq, Repr

structure Channel (ε : Type) where
  wire : Wire := {}
  queue : List (Job ε) := []
  /-- The number of bytes in the queue. -/
  unsent : Nat := 0
  isOpen : Bool := true
  /-- What happened, the latest first. -/
  trace : List (Signal ε) := []
  deriving DecidableEq, Repr

/-- How an attempt to send some bytes ends. -/
inductive Progress where
  | complete | blocked | failed
  deriving DecidableEq, Repr

namespace Channel

variable {ε : Type}

def record (ch : Channel ε) (signal : Signal ε) : Channel ε :=
  { ch with trace := signal :: ch.trace }

/-- Records signals in the order in which they happened. -/
def recordAll (ch : Channel ε) (signals : List (Signal ε)) : Channel ε :=
  signals.foldl record ch

def note (ch : Channel ε) (event : ε) : Channel ε := ch.record (.note event)

/-- Offers the data to the wire until it is taken or the wire takes no more. Gives what is left of
it. An attempt that takes nothing at all is a failure. -/
def send (ch : Channel ε) (data : Bytes) : Progress × Bytes × Channel ε :=
  match data with
  | [] => (.complete, [], ch)
  | b :: bs =>
    match _h : ch.wire.answer (b :: bs) with
    | (answer, wire) =>
      let sent := { ch with wire, trace := .attempt (b :: bs) answer :: ch.trace }
      match answer with
      | .accepts 0 => (.failed, b :: bs, sent)
      | .accepts (count + 1) => send sent (bs.drop count)
      | .interrupted => send sent (b :: bs)
      | .wouldBlock => (.blocked, b :: bs, sent)
      | .fails => (.failed, b :: bs, sent)
termination_by data.length + ch.wire.answers.length
decreasing_by
  · have := ch.wire.answers_answer_le (b :: bs)
    rw [_h] at this
    simp only [List.length_drop, List.length_cons] at this ⊢; omega
  · have := ch.wire.answers_answer_lt (b :: bs) (by rw [_h])
    rw [_h] at this
    simp only at this ⊢; omega

/-- Drops what is queued. Its completions never run. -/
def shut (ch : Channel ε) : Channel ε :=
  if ch.isOpen then { ch.record .shut with queue := [], unsent := 0, isOpen := false } else ch

/-- Adds a write to the end of the queue. -/
def push (ch : Channel ε) (data : Bytes) (after : Completion ε) : Channel ε :=
  { ch with queue := ch.queue ++ [⟨data, after⟩], unsent := ch.unsent + data.length }

/-- Makes a write. Also gives the completion to run if the write is already fully sent. -/
def enqueue (ch : Channel ε) (data : Bytes) (after : Completion ε) :
    Option (Completion ε) × Channel ε :=
  if !ch.isOpen then (none, ch)
  else
    let ch := ch.record (.wrote data)
    match ch.queue with
    | _ :: _ => (none, ch.push data after)
    | [] =>
      match ch.send data with
      | (.complete, _, ch) => (some after, ch.record .sent)
      | (.blocked, rest, ch) => (none, ch.push rest after)
      | (.failed, _, ch) => (none, ch.shut)

/-- Sends of the first queued write what the wire takes. If that is all of it, gives the completion
to run. -/
def sendFirst (ch : Channel ε) : Option (Completion ε) × Channel ε :=
  match ch.queue with
  | [] => (none, ch)
  | job :: jobs =>
    if !ch.isOpen then (none, ch)
    else
      let sentFrom (rest : Bytes) (ch : Channel ε) : Channel ε :=
        { ch with unsent := ch.unsent - (job.data.length - rest.length) }
      match ch.send job.data with
      | (.complete, rest, ch) =>
        (some job.after, { (sentFrom rest ch).record .sent with queue := jobs })
      | (.blocked, rest, ch) =>
        (none, { sentFrom rest ch with queue := ⟨rest, job.after⟩ :: jobs })
      | (.failed, rest, ch) => (none, (sentFrom rest ch).shut)

end Channel

/-- A step of the work on a channel that is under way. -/
inductive Task (ε : Type) where
  | complete (completion : Completion ε)
  | flush
  deriving DecidableEq, Repr

/-- How much work a completion can cause. -/
def Completion.weight {ε : Type} : Completion ε → Nat
  | .done => 0
  | .note _ next => next.weight + 1
  | .write _ after next => after.weight + next.weight + 3
  | .close next => next.weight + 1
  | .flush next => next.weight + 2

def Task.weight {ε : Type} : Task ε → Nat
  | .complete completion => completion.weight + 1
  | .flush => 1

def Job.weight {ε : Type} (job : Job ε) : Nat := job.after.weight + 2

def tasksWeight {ε : Type} : List (Task ε) → Nat
  | [] => 0
  | task :: tasks => task.weight + tasksWeight tasks

def jobsWeight {ε : Type} : List (Job ε) → Nat
  | [] => 0
  | job :: jobs => job.weight + jobsWeight jobs

theorem jobsWeight_append {ε : Type} (jobs more : List (Job ε)) :
    jobsWeight (jobs ++ more) = jobsWeight jobs + jobsWeight more := by
  induction jobs with
  | nil => simp [jobsWeight]
  | cons job jobs ih => simp only [List.cons_append, jobsWeight, ih, Nat.add_assoc]

namespace Channel

variable {ε : Type}

def weight (ch : Channel ε) : Nat := jobsWeight ch.queue

@[simp] theorem queue_record (ch : Channel ε) (signal : Signal ε) :
    (ch.record signal).queue = ch.queue := rfl

@[simp] theorem weight_record (ch : Channel ε) (signal : Signal ε) :
    (ch.record signal).weight = ch.weight := rfl

@[simp] theorem queue_send (ch : Channel ε) (data : Bytes) :
    (ch.send data).2.2.queue = ch.queue := by
  fun_induction send ch data with
  | case1 => rfl
  | case2 => rfl
  | case3 _ _ _ _ _ _ _ _ ih => exact ih
  | case4 _ _ _ _ _ _ _ ih => exact ih
  | case5 => rfl
  | case6 => rfl

@[simp] theorem weight_push (ch : Channel ε) (data : Bytes) (after : Completion ε) :
    (ch.push data after).weight = ch.weight + (after.weight + 2) := by
  simp only [push, weight, jobsWeight_append, jobsWeight, Job.weight, Nat.add_zero]

theorem weight_shut_le (ch : Channel ε) : ch.shut.weight ≤ ch.weight := by
  unfold shut
  split
  · exact Nat.zero_le _
  · exact Nat.le_refl _

/-- A write causes less work than its completion alone would. -/
theorem weight_enqueue (ch : Channel ε) (data : Bytes) (after : Completion ε) :
    (ch.enqueue data after).2.weight +
      (((ch.enqueue data after).1.map fun c => c.weight + 1).getD 0) ≤
      ch.weight + (after.weight + 2) := by
  have hsend := queue_send (ch.record (.wrote data)) data
  unfold enqueue
  split
  · simp
  · simp only
    split
    · simp
    · split
      all_goals rename_i heq
      all_goals rw [heq] at hsend
      all_goals simp only [queue_record] at hsend
      · simp only [weight, hsend, queue_record, Option.map_some, Option.getD_some]; omega
      · simp only [weight, push, hsend, jobsWeight_append, jobsWeight, Job.weight,
          Option.map_none, Option.getD_none]
        omega
      · rename_i rest ch'
        have := weight_shut_le ch'
        simp only [weight, hsend, Option.map_none, Option.getD_none] at this ⊢
        omega

/-- Sending the first queued write takes its weight off, if it completes. -/
theorem weight_sendFirst (ch : Channel ε) :
    (ch.sendFirst).2.weight + (((ch.sendFirst).1.map fun c => c.weight + 2).getD 0) ≤
      ch.weight := by
  unfold sendFirst
  split
  · simp
  · rename_i job jobs hq
    have hsend := queue_send ch job.data
    split
    · simp
    · split
      · simp only [weight, hq, jobsWeight, Job.weight, Option.map_some, Option.getD_some]; omega
      · simp only [weight, hq, jobsWeight, Job.weight, Option.map_none, Option.getD_none]; omega
      · rename_i heq
        rw [heq] at hsend
        simp only at hsend
        simp only [Option.map_none, Option.getD_none]
        refine Nat.le_trans (weight_shut_le _) ?_
        simp only [weight, hsend]; omega

/-- Works off tasks, the first one first. -/
def run (ch : Channel ε) (tasks : List (Task ε)) : Channel ε :=
  match tasks with
  | [] => ch
  | .complete .done :: tasks => run ch tasks
  | .complete (.note event next) :: tasks => run (ch.note event) (.complete next :: tasks)
  | .complete (.close next) :: tasks => run ch.shut (.complete next :: tasks)
  | .complete (.flush next) :: tasks => run ch (.flush :: .complete next :: tasks)
  | .complete (.write data after next) :: tasks =>
    match _h : ch.enqueue data after with
    | (none, ch') => run ch' (.complete next :: tasks)
    | (some completion, ch') => run ch' (.complete completion :: .complete next :: tasks)
  | .flush :: tasks =>
    match _h : ch.sendFirst with
    | (none, ch') => run ch' tasks
    | (some completion, ch') => run ch' (.complete completion :: .flush :: tasks)
termination_by ch.weight + tasksWeight tasks
decreasing_by
  · simp only [tasksWeight, Task.weight]; omega
  · simp only [tasksWeight, Task.weight, Completion.weight, note, weight_record]; omega
  · have := weight_shut_le ch
    simp only [tasksWeight, Task.weight, Completion.weight]; omega
  · simp only [tasksWeight, Task.weight, Completion.weight]; omega
  · have := weight_enqueue ch data after
    rw [_h] at this
    simp only [Option.map_none, Option.getD_none] at this
    simp only [tasksWeight, Task.weight, Completion.weight]; omega
  · have := weight_enqueue ch data after
    rw [_h] at this
    simp only [Option.map_some, Option.getD_some] at this
    simp only [tasksWeight, Task.weight, Completion.weight]; omega
  · have := weight_sendFirst ch
    rw [_h] at this
    simp only [Option.map_none, Option.getD_none] at this
    simp only [tasksWeight, Task.weight]; omega
  · have := weight_sendFirst ch
    rw [_h] at this
    simp only [Option.map_some, Option.getD_some] at this
    simp only [tasksWeight, Task.weight]; omega

/-- Writes the data and, once it is fully sent, runs the completion. -/
def writeThen (ch : Channel ε) (data : Bytes) (after : Completion ε) : Channel ε :=
  ch.run [.complete (.write data after .done)]

def write (ch : Channel ε) (data : Bytes) : Channel ε := ch.writeThen data .done

/-- Sends queued writes in order until the wire takes no more. -/
def flush (ch : Channel ε) : Channel ε := ch.run [.flush]

/-- Closes at once; what is queued is dropped. -/
def close (ch : Channel ε) : Channel ε := ch.run [.complete (.close .done)]

def hasPending (ch : Channel ε) : Bool := !ch.queue.isEmpty

/-- What happened since the trace had that length, in order. -/
def since (ch : Channel ε) (length : Nat) : List (Signal ε) :=
  (ch.trace.take (ch.trace.length - length)).reverse

end Channel
end WebServer

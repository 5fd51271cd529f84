import WebServer.Proofs.Channel.Stages

/-!
# What a task can do to a channel

Every task comes down to four effects: an event is noted, the channel closes, a write is placed at
the end of the queue, the first write in the queue is offered to the wire. A write on an empty queue
is no fifth one: `enqueue_of_queue_nil` shows that it is placed and then offered. `act_preserves`
turns this into an induction principle, and `sendFirst_offering` lists how an offer can end.
-/
namespace WebServer

variable {ε : Type}

namespace Signal

/-- The data of a write. -/
def written : Signal ε → Bytes
  | .wrote data => data
  | _ => []

/-- An attempt in which the wire failed. Taking no byte at all is a failure. -/
def isFailure : Signal ε → Bool
  | .attempt _ .fails => true
  | .attempt _ (.accepts 0) => true
  | _ => false

def isSent : Signal ε → Bool
  | .sent => true
  | _ => false

end Signal

/-- The bytes that the wire took in a trace, which has the latest signal first. -/
def acceptedIn (trace : List (Signal ε)) : Bytes := trace.reverse.flatMap Signal.accepted

/-- The data of the writes in a trace. -/
def writtenIn (trace : List (Signal ε)) : Bytes := trace.reverse.flatMap Signal.written

@[simp] theorem acceptedIn_nil : acceptedIn ([] : List (Signal ε)) = [] := rfl

@[simp] theorem writtenIn_nil : writtenIn ([] : List (Signal ε)) = [] := rfl

@[simp] theorem acceptedIn_cons (signal : Signal ε) (trace : List (Signal ε)) :
    acceptedIn (signal :: trace) = acceptedIn trace ++ signal.accepted := by
  simp [acceptedIn]

@[simp] theorem writtenIn_cons (signal : Signal ε) (trace : List (Signal ε)) :
    writtenIn (signal :: trace) = writtenIn trace ++ signal.written := by
  simp [writtenIn]

@[simp] theorem acceptedIn_append (later earlier : List (Signal ε)) :
    acceptedIn (later ++ earlier) = acceptedIn earlier ++ acceptedIn later := by
  simp [acceptedIn]

@[simp] theorem writtenIn_append (later earlier : List (Signal ε)) :
    writtenIn (later ++ earlier) = writtenIn earlier ++ writtenIn later := by
  simp [writtenIn]

namespace Channel

/-- The attempts of one run of `send`: what the wire took of the data in them, and what is left. -/
structure Attempts (data : Bytes) (attempts : List (Signal ε)) (rest : Bytes) : Prop where
  taken : data = acceptedIn attempts ++ rest
  /-- Only bytes of the data are offered, always as many as are left, and never none. -/
  offers : ∀ signal ∈ attempts,
    ∃ offered answer, signal = .attempt offered answer ∧ offered ≠ [] ∧ offered <:+ data

theorem Attempts.none (data : Bytes) : Attempts data ([] : List (Signal ε)) data :=
  ⟨rfl, by simp⟩

/-- An attempt before others: it takes `first`, and they are about what is left. -/
theorem Attempts.snoc {data left rest : Bytes} {attempts : List (Signal ε)}
    {answer : WriteAnswer} (first : Bytes) (h : Attempts left attempts rest)
    (hd : data = first ++ left)
    (hne : data ≠ []) (ha : (Signal.attempt data answer : Signal ε).accepted = first) :
    Attempts data (attempts ++ [.attempt data answer]) rest where
  taken := by
    rw [acceptedIn_append, acceptedIn_cons, acceptedIn_nil, List.nil_append, ha, List.append_assoc,
      ← h.taken, hd]
  offers := by
    intro signal member
    rcases List.mem_append.1 member with later | first
    · obtain ⟨offered, answer, same, some, suffix⟩ := h.offers signal later
      exact ⟨offered, answer, same, some, suffix.trans ⟨_, hd.symm⟩⟩
    · exact ⟨data, answer, List.mem_singleton.1 first, hne, List.suffix_refl _⟩

/-- Sending changes nothing but the wire and the trace, and says rightly how far it came. -/
theorem send_attempts (ch : Channel ε) (data : Bytes) :
    ∃ attempts wire, Attempts data attempts (ch.send data).2.1 ∧
      (ch.send data).2.2 = { ch with wire, trace := attempts ++ ch.trace } ∧
      ((ch.send data).1 = .complete ↔ (ch.send data).2.1 = []) ∧
      ((ch.send data).1 = .failed ↔ ∃ signal ∈ attempts, signal.isFailure = true) := by
  -- Along the loop of `send`: the attempts of the later turns come to stand behind the first one.
  fun_induction send ch data with
  | case1 ch => exact ⟨[], ch.wire, .none [], rfl, by simp, by simp⟩
  | case2 ch b bs wire heq answered =>
    exact ⟨[.attempt (b :: bs) (.accepts 0)], wire,
      (Attempts.none _).snoc [] rfl (by simp) rfl, rfl, by simp,
      by simp [Signal.isFailure]⟩
  | case3 ch b bs wire count heq answered sent ih =>
    obtain ⟨attempts, last, ha, hc, complete, failed⟩ := ih
    refine ⟨attempts ++ [.attempt (b :: bs) (.accepts (count + 1))], last, ?_, ?_, complete, ?_⟩
    · exact ha.snoc _ (List.take_append_drop (count + 1) (b :: bs)).symm (by simp) rfl
    · rw [hc]
      simp [sent]
    · simpa [Signal.isFailure, or_and_right, exists_or] using failed
  | case4 ch b bs wire heq answered sent ih =>
    obtain ⟨attempts, last, ha, hc, complete, failed⟩ := ih
    refine ⟨attempts ++ [.attempt (b :: bs) .interrupted], last, ?_, ?_, complete, ?_⟩
    · exact ha.snoc [] rfl (by simp) rfl
    · rw [hc]
      simp [sent]
    · simpa [Signal.isFailure, or_and_right, exists_or] using failed
  | case5 ch b bs wire heq answered =>
    exact ⟨[.attempt (b :: bs) .wouldBlock], wire,
      (Attempts.none _).snoc [] rfl (by simp) rfl, rfl, by simp,
      by simp [Signal.isFailure]⟩
  | case6 ch b bs wire heq answered =>
    exact ⟨[.attempt (b :: bs) .fails], wire,
      (Attempts.none _).snoc [] rfl (by simp) rfl, rfl, by simp,
      by simp [Signal.isFailure]⟩

/-- A write at the end of the queue, before anything of it is offered. -/
def place (ch : Channel ε) (job : Job ε) : Channel ε :=
  (ch.record (.wrote job.data)).push job.data job.after

/-- How an offer of the first write in the queue can end. -/
inductive Offering (ch : Channel ε) : Option (Completion ε) → Channel ε → Prop where
  /-- There is nothing to offer. -/
  | nothing (h : ch.isOpen = true → ch.queue = []) : Offering ch none ch
  | sent {job : Job ε} {jobs : List (Job ε)} {attempts : List (Signal ε)} (wire : Wire)
      (isOpen : ch.isOpen = true) (first : ch.queue = job :: jobs)
      (offered : Attempts job.data attempts [])
      (works : ∀ signal ∈ attempts, signal.isFailure = false) :
      Offering ch (some job.after)
        { ch with wire, queue := jobs, unsent := ch.unsent - job.data.length
                  trace := .sent :: (attempts ++ ch.trace) }
  | blocked {job : Job ε} {jobs : List (Job ε)} {attempts : List (Signal ε)} {rest : Bytes}
      (wire : Wire) (isOpen : ch.isOpen = true) (first : ch.queue = job :: jobs)
      (offered : Attempts job.data attempts rest) (left : rest ≠ [])
      (works : ∀ signal ∈ attempts, signal.isFailure = false) :
      Offering ch none
        { ch with wire, queue := ⟨rest, job.after⟩ :: jobs
                  unsent := ch.unsent - (job.data.length - rest.length)
                  trace := attempts ++ ch.trace }
  | failed {job : Job ε} {jobs : List (Job ε)} {attempts : List (Signal ε)} {rest : Bytes}
      (wire : Wire) (isOpen : ch.isOpen = true) (first : ch.queue = job :: jobs)
      (offered : Attempts job.data attempts rest) (left : rest ≠ []) :
      Offering ch none
        { wire, queue := [], unsent := 0, isOpen := false
          trace := .shut :: (attempts ++ ch.trace) }

theorem sendFirst_offering (ch : Channel ε) : Offering ch ch.sendFirst.1 ch.sendFirst.2 := by
  unfold sendFirst
  split
  · exact .nothing fun _ => ‹_›
  · rename_i job jobs first
    split
    · exact .nothing (by simp_all)
    · rename_i isOpen
      simp only [Bool.not_eq_true, Bool.not_eq_false'] at isOpen
      obtain ⟨attempts, wire, offered, sent, complete, failed⟩ := ch.send_attempts job.data
      split <;> rename_i rest ch' heq <;> simp only [heq] at offered sent complete failed <;>
        subst sent
      · obtain rfl := complete.1 trivial
        exact .sent wire isOpen first offered (by simpa using failed)
      · exact .blocked wire isOpen first offered (by simpa using complete) (by simpa using failed)
      · simp only [shut, isOpen, if_true, record]
        exact .failed wire isOpen first offered (by simpa using complete)

/-- One attempt of `send`, and how it goes on. -/
theorem send_cons (ch : Channel ε) (b : UInt8) (bs : Bytes) :
    ch.send (b :: bs) =
      let answer := (ch.wire.answer (b :: bs)).1
      let next := { ch with
        wire := (ch.wire.answer (b :: bs)).2, trace := .attempt (b :: bs) answer :: ch.trace }
      match answer with
      | .accepts 0 => (.failed, b :: bs, next)
      | .accepts (count + 1) => next.send (bs.drop count)
      | .interrupted => next.send (b :: bs)
      | .wouldBlock => (.blocked, b :: bs, next)
      | .fails => (.failed, b :: bs, next) := by
  rw [send]
  split
  rename_i answer wire heq
  simp only [heq]
  cases answer with
  | accepts count => cases count <;> rfl
  | interrupted => rfl
  | wouldBlock => rfl
  | fails => rfl

/-- A change of the channel that keeps the wire and gets along with further attempts can as well be
made after sending. -/
theorem send_comm (f : Channel ε → Channel ε) (wire_eq : ∀ ch, (f ch).wire = ch.wire)
    (attempt_eq : ∀ ch wire signal, f { ch with wire, trace := signal :: ch.trace } =
      { f ch with wire, trace := signal :: (f ch).trace }) (ch : Channel ε) (data : Bytes) :
    (f ch).send data = ((ch.send data).1, (ch.send data).2.1, f (ch.send data).2.2) := by
  fun_induction send ch data with
  | case1 ch => rw [send]
  | case2 ch b bs wire heq answered sent =>
    simp only [send_cons, wire_eq, answered, ← attempt_eq]
    rfl
  | case3 ch b bs wire count heq answered sent ih =>
    simp only [send_cons, wire_eq, answered, ← attempt_eq]
    exact ih
  | case4 ch b bs wire heq answered sent ih =>
    simp only [send_cons (f ch), wire_eq, answered, ← attempt_eq]
    exact ih
  | case5 ch b bs wire heq answered sent =>
    simp only [send_cons, wire_eq, answered, ← attempt_eq]
    rfl
  | case6 ch b bs wire heq answered sent =>
    simp only [send_cons, wire_eq, answered, ← attempt_eq]
    rfl

/-- What is queued plays no part in sending. -/
theorem send_with_queue (ch : Channel ε) (data : Bytes) (queue : List (Job ε)) (unsent : Nat) :
    ({ ch with queue, unsent } : Channel ε).send data =
      ((ch.send data).1, (ch.send data).2.1, { (ch.send data).2.2 with queue, unsent }) :=
  send_comm (fun ch => { ch with queue, unsent }) (fun _ => rfl) (fun _ _ _ => rfl) ch data

/-- A write on an empty queue is placed there and offered at once. -/
theorem enqueue_of_queue_nil {ch : Channel ε} (isOpen : ch.isOpen = true) (h : ch.queue = [])
    (data : Bytes) (after : Completion ε) :
    ch.enqueue data after = (ch.place ⟨data, after⟩).sendFirst := by
  have placed : ch.place ⟨data, after⟩ =
      { ch.record (.wrote data) with
        queue := [⟨data, after⟩], unsent := ch.unsent + data.length } := by
    simp [place, push, record, h]
  obtain ⟨attempts, wire, offered, sent, complete, -⟩ :=
    (ch.record (.wrote data)).send_attempts data
  have taken := congrArg List.length offered.taken
  simp only [List.length_append] at taken
  rw [placed]
  unfold enqueue sendFirst
  simp only [isOpen, send_with_queue, queue_record, h]
  have stillOpen : (ch.record (.wrote data)).isOpen = true := isOpen
  simp only [stillOpen, Bool.not_true, Bool.false_eq_true, if_false]
  generalize (ch.record (.wrote data)).send data = result at *
  obtain ⟨progress, rest, ch'⟩ := result
  simp only at taken sent complete
  subst sent
  cases progress with
  | complete => simp [complete.1 rfl, record, h]
  | blocked =>
    simp only [push, record, h, List.nil_append, Prod.mk.injEq, true_and, and_true,
      Channel.mk.injEq]
    omega
  | failed => simp [shut, isOpen, record]

/-- A write behind others waits. -/
theorem enqueue_of_queue_ne_nil {ch : Channel ε} (isOpen : ch.isOpen = true) (h : ch.queue ≠ [])
    (data : Bytes) (after : Completion ε) :
    ch.enqueue data after = (none, ch.place ⟨data, after⟩) := by
  obtain ⟨job, jobs, hq⟩ := List.exists_cons_of_ne_nil h
  simp [enqueue, isOpen, hq, record, place]

theorem sendFirst_of_queue_nil {ch : Channel ε} (h : ch.queue = []) :
    ch.sendFirst = (none, ch) := by
  unfold sendFirst
  split
  · rfl
  · rename_i job jobs hq
    rw [h] at hq
    cases hq

theorem shut_of_closed {ch : Channel ε} (h : ch.isOpen = false) : ch.shut = ch :=
  if_neg (by simp [h])

theorem enqueue_of_closed {ch : Channel ε} (h : ch.isOpen = false) (data : Bytes)
    (after : Completion ε) : ch.enqueue data after = (none, ch) := by
  simp [enqueue, h]

theorem recordAll_eq (ch : Channel ε) (signals : List (Signal ε)) :
    ch.recordAll signals = { ch with trace := signals.reverse ++ ch.trace } := by
  induction signals generalizing ch with
  | nil => rfl
  | cons signal signals ih =>
    rw [recordAll, List.foldl_cons]
    refine (ih (ch.record signal)).trans ?_
    simp [record]

end Channel

/-- What noting, closing, placing a write and offering the first one preserve, every task
preserves. `P` may also speak of the writes made and the completions begun so far. -/
theorem Task.act_preserves {P : List (Job ε) → List (Completion ε) → Channel ε → Prop}
    (note : ∀ writes started ch event, P writes started ch →
      P writes started (Channel.note ch event))
    (shut : ∀ writes started ch, P writes started ch → P writes started (Channel.shut ch))
    (place : ∀ writes started ch job, Channel.isOpen ch = true → P writes started ch →
      P (writes ++ [job]) started (ch.place job))
    (offer : ∀ writes started ch completion ch', Channel.Offering ch completion ch' →
      P writes started ch → P writes (started ++ completion.toList) ch')
    {writes : List (Job ε)} {started : List (Completion ε)} {ch : Channel ε} (task : Task ε)
    (h : P writes started ch) :
    P (writes ++ task.writes ch) (started ++ (task.act ch).1.toList) (task.act ch).2 := by
  match task with
  | .complete .done | .complete (.flush next) => simpa [Task.act, Task.writes] using h
  | .complete (.note event next) => simpa [Task.act, Task.writes] using note _ _ _ event h
  | .complete (.close next) => simpa [Task.act, Task.writes] using shut _ _ _ h
  | .complete (.write data after next) =>
    cases isOpen : ch.isOpen with
    | false =>
      simpa [Task.act, Task.writes, isOpen, Channel.enqueue_of_closed isOpen] using h
    | true =>
      have placed := place _ _ _ ⟨data, after⟩ isOpen h
      by_cases hq : ch.queue = []
      · simp only [Task.act, Task.writes, isOpen, Channel.enqueue_of_queue_nil isOpen hq, if_true]
        exact offer _ _ _ _ _ (Channel.sendFirst_offering _) placed
      · simp only [Task.act, Task.writes, isOpen,
          Channel.enqueue_of_queue_ne_nil isOpen hq, if_true,
          Option.toList_none, List.append_nil]
        exact placed
  | .flush =>
    simpa [Task.act, Task.writes] using offer _ _ _ _ _ ch.sendFirst_offering h

end WebServer

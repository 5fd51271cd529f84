import WebServer.Proofs.Channel.Effects

/-!
# Channels whose wire accepts everything

As long as the wire accepts what it is offered, be it little by little, nothing is ever queued: a
write is fully sent before the call returns. How many attempts that takes is up to the wire. What
is not is told by `Channel.Alike`: the same deeds in the same order, and the same bytes accepted.
`Alike.run` shows that equal calls on alike channels leave them alike.
-/
namespace WebServer

variable {ε : Type}

/-- A wire that accepts whatever it is offered, perhaps little by little. -/
structure Wire.Accepting (wire : Wire) : Prop where
  answers : ∀ answer ∈ wire.answers, answer = .interrupted ∨ ∃ count, answer = .accepts (count + 1)
  budget : wire.budget = none
  intact : wire.broken = false

namespace Wire.Accepting

theorem plain : ({} : Wire).Accepting := ⟨by simp, rfl, rfl⟩

theorem answer {wire : Wire} (h : wire.Accepting) (b : UInt8) (bs : Bytes) :
    (wire.answer (b :: bs)).2.Accepting ∧
      ((wire.answer (b :: bs)).1 = .interrupted ∨
        ∃ count, (wire.answer (b :: bs)).1 = .accepts (count + 1)) := by
  obtain ⟨answers, budget, intact⟩ := h
  match scripted : wire.answers with
  | [] =>
    simp only [Wire.answer, scripted, intact, budget, Bool.false_eq_true, if_false]
    exact ⟨⟨by simp [scripted], budget, intact⟩, .inr ⟨bs.length, rfl⟩⟩
  | first :: others =>
    rw [scripted] at answers
    have rest : ({ wire with answers := others } : Wire).Accepting :=
      ⟨fun answer member => answers answer (List.mem_cons_of_mem _ member), budget, intact⟩
    rcases answers first List.mem_cons_self with rfl | ⟨count, rfl⟩
    · simp only [Wire.answer, scripted, true_or, and_true]
      exact rest
    · simp only [Wire.answer, scripted]
      refine ⟨rest, .inr ⟨min count bs.length, ?_⟩⟩
      rw [List.length_cons, Nat.succ_min_succ]

end Wire.Accepting

namespace Signal

/-- Whether a signal tells what was done on a connection. The others tell on what occasion, or how
often the wire was tried. -/
def isDeed : Signal ε → Bool
  | .window _ | .timer | .peerClosed | .tornDown | .attempt .. => false
  | _ => true

end Signal

/-- The deeds in a trace, which has the latest signal first, in the order in which they were
done. -/
def deedsIn (trace : List (Signal ε)) : List (Signal ε) := trace.reverse.filter Signal.isDeed

@[simp] theorem deedsIn_cons (signal : Signal ε) (trace : List (Signal ε)) :
    deedsIn (signal :: trace) = deedsIn trace ++ [signal].filter Signal.isDeed := by
  simp [deedsIn]

@[simp] theorem deedsIn_append (later earlier : List (Signal ε)) :
    deedsIn (later ++ earlier) = deedsIn earlier ++ deedsIn later := by
  simp [deedsIn]

theorem deedsIn_eq_nil {trace : List (Signal ε)}
    (none : ∀ signal ∈ trace, signal.isDeed = false) : deedsIn trace = [] :=
  List.filter_eq_nil_iff.2 fun signal member => by simp [none signal (by simpa using member)]

namespace Channel

/-- A channel whose wire accepts everything, so that nothing waits. -/
structure Flowing (ch : Channel ε) : Prop where
  wire : ch.wire.Accepting
  queue : ch.queue = []

namespace Flowing

variable {ch : Channel ε}

theorem send (ch : Channel ε) (h : ch.wire.Accepting) (data : Bytes) :
    (ch.send data).1 = .complete ∧ (ch.send data).2.2.wire.Accepting := by
  fun_induction Channel.send ch data with
  | case1 ch => exact ⟨rfl, h⟩
  | case2 ch b bs wire heq answered => simpa [heq] using (h.answer b bs).2
  | case3 ch b bs wire count heq answered sent ih =>
    have next := (h.answer b bs).1
    rw [heq] at next
    exact ih next
  | case4 ch b bs wire heq answered sent ih =>
    have next := (h.answer b bs).1
    rw [heq] at next
    exact ih next
  | case5 ch b bs wire heq answered => simpa [heq] using (h.answer b bs).2
  | case6 ch b bs wire heq answered => simpa [heq] using (h.answer b bs).2

/-- A write is fully sent at once. Beside the write itself, the trace shows only attempts. -/
theorem enqueue (h : ch.Flowing) (isOpen : ch.isOpen = true) (data : Bytes)
    (after : Completion ε) :
    ∃ attempts wire, Wire.Accepting wire ∧ acceptedIn attempts = data ∧
      (∀ signal ∈ attempts, signal.isDeed = false) ∧
      ch.enqueue data after = (some after,
        { ch with wire, trace := .sent :: (attempts ++ .wrote data :: ch.trace) }) := by
  obtain ⟨attempts, wire, offered, sent, complete, -⟩ :=
    (ch.record (.wrote data)).send_attempts data
  obtain ⟨done, accepting⟩ := Flowing.send (ch.record (.wrote data)) h.wire data
  have rest := complete.1 done
  rw [sent] at accepting
  refine ⟨attempts, wire, accepting, ?_, ?_, ?_⟩
  · rw [rest] at offered
    simpa using offered.taken.symm
  · intro signal member
    obtain ⟨_, _, rfl, -, -⟩ := offered.offers signal member
    rfl
  · unfold Channel.enqueue
    simp only [isOpen, Bool.not_true, Bool.false_eq_true, if_false, queue_record, h.queue]
    generalize (ch.record (.wrote data)).send data = result at *
    obtain ⟨progress, rest, ch'⟩ := result
    simp only at done sent
    subst done sent
    simp [record, isOpen, h.queue]

theorem record (h : ch.Flowing) (signal : Signal ε) : (ch.record signal).Flowing :=
  ⟨h.wire, h.queue⟩

theorem shut (h : ch.Flowing) : ch.shut.Flowing := by
  unfold Channel.shut
  split
  · exact ⟨h.wire, rfl⟩
  · exact h

end Flowing

@[simp] theorem isOpen_shut (ch : Channel ε) : ch.shut.isOpen = false := by
  unfold shut
  split
  · rfl
  · simpa using ‹¬ ch.isOpen = true›

/-- Two channels on which the same was done and the same bytes were accepted, whatever wires they
are on and on whatever occasions it was done. -/
structure Alike (ch ch' : Channel ε) : Prop where
  left : ch.Flowing
  right : ch'.Flowing
  isOpen : ch.isOpen = ch'.isOpen
  deeds : deedsIn ch.trace = deedsIn ch'.trace
  accepted : acceptedIn ch.trace = acceptedIn ch'.trace

namespace Alike

variable {ch ch' ch'' : Channel ε}

theorem refl (h : ch.Flowing) : ch.Alike ch := ⟨h, h, rfl, rfl, rfl⟩

theorem symm (h : ch.Alike ch') : ch'.Alike ch :=
  ⟨h.right, h.left, h.isOpen.symm, h.deeds.symm, h.accepted.symm⟩

theorem trans (h : ch.Alike ch') (h' : ch'.Alike ch'') : ch.Alike ch'' :=
  ⟨h.left, h'.right, h.isOpen.trans h'.isOpen, h.deeds.trans h'.deeds, h.accepted.trans h'.accepted⟩

theorem record (h : ch.Alike ch') (signal : Signal ε) :
    (ch.record signal).Alike (ch'.record signal) where
  left := h.left.record signal
  right := h.right.record signal
  isOpen := h.isOpen
  deeds := by simp [Channel.record, h.deeds]
  accepted := by simp [Channel.record, h.accepted]

theorem recordAll (h : ch.Alike ch') (signals : List (Signal ε)) :
    (ch.recordAll signals).Alike (ch'.recordAll signals) := by
  induction signals generalizing ch ch' with
  | nil => exact h
  | cons signal signals ih => exact ih (h.record signal)

/-- The occasion on which something is done makes no difference. -/
theorem record_left (h : ch.Alike ch') {signal : Signal ε} (isDeed : signal.isDeed = false)
    (accepted : signal.accepted = []) : (ch.record signal).Alike ch' where
  left := h.left.record signal
  right := h.right
  isOpen := h.isOpen
  deeds := by simp [Channel.record, isDeed, h.deeds]
  accepted := by simp [Channel.record, accepted, h.accepted]

theorem shut (h : ch.Alike ch') : ch.shut.Alike ch'.shut := by
  cases isOpen : ch.isOpen with
  | false => rwa [shut_of_closed isOpen, shut_of_closed (h.isOpen ▸ isOpen)]
  | true =>
    refine ⟨h.left.shut, h.right.shut, by simp, ?_, ?_⟩
    · simp [Channel.shut, Channel.record, isOpen, ← h.isOpen, h.deeds]
    · simp [Channel.shut, Channel.record, isOpen, ← h.isOpen, h.accepted]

/-- The trace behind a write that is fully sent tells the same of both channels. -/
theorem sent (h : ch.Alike ch') {attempts attempts' : List (Signal ε)} {wire wire' : Wire}
    (accepting : wire.Accepting) (accepting' : wire'.Accepting)
    (none : ∀ signal ∈ attempts, signal.isDeed = false)
    (none' : ∀ signal ∈ attempts', signal.isDeed = false)
    (same : acceptedIn attempts = acceptedIn attempts') (data : Bytes) :
    Alike { ch with wire, trace := .sent :: (attempts ++ .wrote data :: ch.trace) }
      { ch' with wire := wire', trace := .sent :: (attempts' ++ .wrote data :: ch'.trace) } where
  left := ⟨accepting, h.left.queue⟩
  right := ⟨accepting', h.right.queue⟩
  isOpen := h.isOpen
  deeds := by simp [deedsIn_eq_nil none, deedsIn_eq_nil none', h.deeds]
  accepted := by simp [h.accepted, same, Signal.accepted]

/-- The same call does the same on alike channels. -/
theorem act (h : ch.Alike ch') (task : Task ε) :
    (task.act ch).1 = (task.act ch').1 ∧ (task.act ch).2.Alike (task.act ch').2 := by
  match task with
  | .complete .done => exact ⟨rfl, h⟩
  | .complete (.flush _) => exact ⟨rfl, h⟩
  | .complete (.note event _) => exact ⟨rfl, h.record _⟩
  | .complete (.close _) => exact ⟨rfl, h.shut⟩
  | .flush =>
    simpa only [Task.act, sendFirst_of_queue_nil h.left.queue,
      sendFirst_of_queue_nil h.right.queue, true_and] using h
  | .complete (.write data after _) =>
    cases isOpen : ch.isOpen with
    | false =>
      have isOpen' : ch'.isOpen = false := h.isOpen ▸ isOpen
      simpa only [Task.act, enqueue_of_closed isOpen, enqueue_of_closed isOpen', true_and] using h
    | true =>
      obtain ⟨_, _, accepting, taken, none, done⟩ := h.left.enqueue isOpen data after
      obtain ⟨_, _, accepting', taken', none', done'⟩ :=
        h.right.enqueue (h.isOpen ▸ isOpen) data after
      simp only [Task.act, done, done', true_and]
      exact h.sent accepting accepting' none none' (taken.trans taken'.symm) data

theorem run (h : ch.Alike ch') (tasks : List (Task ε)) : (ch.run tasks).Alike (ch'.run tasks) := by
  refine Stage.run_induction
    (motive := fun ch tasks => ∀ ch', ch.Alike ch' → (ch.run tasks).Alike (ch'.run tasks))
    ?_ ?_ ch tasks ch' h
  · intro ch ch' h
    rwa [Channel.run, Channel.run]
  · intro ch task tasks ih ch' h
    obtain ⟨begun, next⟩ := h.act task
    rw [Stage.run_cons ch, Stage.run_cons ch', ← begun]
    exact ih _ next

theorem writeThen (h : ch.Alike ch') (data : Bytes) (after : Completion ε) :
    (ch.writeThen data after).Alike (ch'.writeThen data after) := h.run _

theorem write (h : ch.Alike ch') (data : Bytes) : (ch.write data).Alike (ch'.write data) := h.run _

theorem close (h : ch.Alike ch') : ch.close.Alike ch'.close := h.run _

end Alike

namespace Flowing

variable {ch : Channel ε}

theorem run (h : ch.Flowing) (tasks : List (Task ε)) : (ch.run tasks).Flowing :=
  ((Alike.refl h).run tasks).left

theorem flush_eq (h : ch.Flowing) : ch.flush = ch := by
  rw [flush, Stage.run_cons]
  simp [Task.act, Task.rest, sendFirst_of_queue_nil h.queue, Channel.run]

end Flowing

theorem close_eq_shut (ch : Channel ε) : ch.close = ch.shut := by
  simp [close, Channel.run]

end Channel

/-- A completion in which nothing closes the channel. -/
def Completion.Calm : Completion ε → Prop
  | .done => True
  | .note _ next => next.Calm
  | .write _ after next => after.Calm ∧ next.Calm
  | .close _ => False
  | .flush next => next.Calm

def Task.Calm : Task ε → Prop
  | .complete completion => completion.Calm
  | .flush => True

namespace Channel

/-- What a calm task leaves to do is calm, and the channel stays as open as it was. -/
theorem Flowing.act {ch : Channel ε} (h : ch.Flowing) {task : Task ε} (calm : task.Calm) :
    (task.act ch).2.isOpen = ch.isOpen ∧
      ∀ next ∈ ((task.act ch).1.map Task.complete).toList ++ task.rest (task.act ch).1.isSome,
        next.Calm := by
  match task with
  | .complete .done => simp [Task.act, Task.rest]
  | .complete (.note event next) =>
    refine ⟨rfl, ?_⟩
    simpa [Task.act, Task.rest, Task.Calm, Completion.Calm] using calm
  | .complete (.flush next) =>
    refine ⟨rfl, ?_⟩
    simpa [Task.act, Task.rest, Task.Calm, Completion.Calm] using calm
  | .flush => simp [Task.act, Task.rest, sendFirst_of_queue_nil h.queue]
  | .complete (.write data after next) =>
    obtain ⟨calmAfter, calmNext⟩ : after.Calm ∧ next.Calm := calm
    cases isOpen : ch.isOpen with
    | false =>
      simp only [Task.act, Task.rest, enqueue_of_closed isOpen]
      refine ⟨isOpen, ?_⟩
      simpa [Task.Calm] using calmNext
    | true =>
      obtain ⟨_, _, -, -, -, done⟩ := h.enqueue isOpen data after
      simp only [Task.act, Task.rest, done]
      refine ⟨isOpen, ?_⟩
      simpa [Task.Calm] using ⟨calmAfter, calmNext⟩

/-- Only a completion that closes the channel closes it. -/
theorem Flowing.isOpen_run {ch : Channel ε} (h : ch.Flowing) {tasks : List (Task ε)}
    (calm : ∀ task ∈ tasks, task.Calm) : (ch.run tasks).isOpen = ch.isOpen := by
  refine Stage.run_induction
    (motive := fun ch tasks => ch.Flowing → (∀ task ∈ tasks, task.Calm) →
      (ch.run tasks).isOpen = ch.isOpen) ?_ ?_ ch tasks h calm
  · intro ch h calm
    rw [Channel.run]
  · intro ch task tasks ih h calm
    obtain ⟨first, others⟩ := List.forall_mem_cons.1 calm
    obtain ⟨isOpen, left⟩ := h.act first
    rw [Stage.run_cons, ← isOpen]
    refine ih ((Alike.refl h).act task).2.left fun next member => ?_
    rcases List.mem_append.1 member with among | among
    · exact left next among
    · exact others next among

theorem Flowing.isOpen_writeThen {ch : Channel ε} (h : ch.Flowing) (data : Bytes)
    {after : Completion ε} (calm : after.Calm) : (ch.writeThen data after).isOpen = ch.isOpen :=
  h.isOpen_run (by simpa [Task.Calm, Completion.Calm] using calm)

theorem Flowing.isOpen_write {ch : Channel ε} (h : ch.Flowing) (data : Bytes) :
    (ch.write data).isOpen = ch.isOpen :=
  h.isOpen_writeThen data (show Completion.Calm .done from trivial)

/-- The last write on a channel: once it is sent, the channel closes. -/
theorem Flowing.isOpen_writeThen_close {ch : Channel ε} (h : ch.Flowing) (data : Bytes) :
    (ch.writeThen data (.close .done)).isOpen = false := by
  cases isOpen : ch.isOpen with
  | false =>
    simp [writeThen, Stage.run_cons, Task.act, Task.rest, enqueue_of_closed isOpen, Channel.run,
      isOpen]
  | true =>
    obtain ⟨_, _, -, -, -, done⟩ := h.enqueue isOpen data (.close .done)
    simp [writeThen, Stage.run_cons, Task.act, Task.rest, done, Channel.run]

end Channel
end WebServer

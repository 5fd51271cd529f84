import WebServer.Proofs.Channel.Effects

/-!
# What is seen in a trace

A trace tells more than one thing at a time: the calls of a handler, the frames of a WebSocket, the
writes and the attempts of the channel. `seenIn` picks one of them out, in the order in which it
happened. Work on a channel adds nothing to a trace but signals of the channel itself
(`run_extends`), so that whatever else is seen stays the same (`Extends.seenIn_eq`).
-/
namespace WebServer

variable {ε β : Type}

/-- What is seen in a trace, which has the latest signal first. -/
def seenIn (shown? : Signal ε → Option β) (trace : List (Signal ε)) : List β :=
  trace.reverse.filterMap shown?

section

variable {shown? : Signal ε → Option β}

@[simp] theorem seenIn_cons (signal : Signal ε) (trace : List (Signal ε)) :
    seenIn shown? (signal :: trace) = seenIn shown? trace ++ (shown? signal).toList := by
  cases shown : shown? signal <;> simp [seenIn, shown]

@[simp] theorem seenIn_append (later earlier : List (Signal ε)) :
    seenIn shown? (later ++ earlier) = seenIn shown? earlier ++ seenIn shown? later := by
  simp [seenIn]

theorem seenIn_eq_nil {trace : List (Signal ε)} (none : ∀ signal ∈ trace, shown? signal = none) :
    seenIn shown? trace = [] :=
  List.filterMap_eq_nil_iff.2 fun signal member => none signal (by simpa using member)

end

namespace Signal

/-- Whether a signal tells of the channel itself, or is a note of the application. -/
def isChannel : Signal ε → Bool
  | .note _ | .wrote _ | .attempt .. | .sent | .shut => true
  | _ => false

end Signal

namespace Channel

/-- A channel on which there was work: the trace has grown by signals of the channel. -/
def Extends (ch ch' : Channel ε) : Prop :=
  ∃ new, ch'.trace = new ++ ch.trace ∧ ∀ signal ∈ new, signal.isChannel = true

namespace Extends

variable {ch ch' ch'' : Channel ε}

theorem refl (ch : Channel ε) : ch.Extends ch := ⟨[], rfl, by simp⟩

theorem trans (h : ch.Extends ch') (h' : ch'.Extends ch'') : ch.Extends ch'' := by
  obtain ⟨new, trace, channel⟩ := h
  obtain ⟨newer, trace', channel'⟩ := h'
  refine ⟨newer ++ new, by rw [trace', trace, List.append_assoc], fun signal member => ?_⟩
  rcases List.mem_append.1 member with later | earlier
  · exact channel' signal later
  · exact channel signal earlier

theorem record (ch : Channel ε) {signal : Signal ε} (channel : signal.isChannel = true) :
    ch.Extends (ch.record signal) :=
  ⟨[signal], rfl, by simpa using channel⟩

theorem shut (ch : Channel ε) : ch.Extends ch.shut := by
  unfold Channel.shut
  split
  · exact record ch rfl
  · exact refl ch

/-- What an offer of the first write shows are the attempts and how they end. -/
theorem offer {completion : Option (Completion ε)} (o : Offering ch completion ch') :
    ch.Extends ch' := by
  have attempt {data rest : Bytes} {attempts : List (Signal ε)}
      (offered : Attempts data attempts rest) : ∀ signal ∈ attempts, signal.isChannel = true := by
    intro signal member
    obtain ⟨_, _, rfl, -, -⟩ := offered.offers signal member
    rfl
  cases o with
  | nothing => exact refl ch
  | sent wire isOpen first offered works =>
    exact ⟨_, (List.cons_append ..).symm, List.forall_mem_cons.2 ⟨rfl, attempt offered⟩⟩
  | blocked wire isOpen first offered left works => exact ⟨_, rfl, attempt offered⟩
  | failed wire isOpen first offered left =>
    exact ⟨_, (List.cons_append ..).symm, List.forall_mem_cons.2 ⟨rfl, attempt offered⟩⟩

theorem act (ch : Channel ε) (task : Task ε) : ch.Extends (task.act ch).2 :=
  @Task.act_preserves ε (fun _ _ ch' => ch.Extends ch')
    (fun _ _ _ _ h => h.trans (record _ rfl)) (fun _ _ _ h => h.trans (shut _))
    (fun _ _ _ _ _ h => h.trans (record _ rfl)) (fun _ _ _ _ _ o h => h.trans (offer o))
    [] [] ch task (refl ch)

theorem suffix (h : ch.Extends ch') : ch.trace <:+ ch'.trace := by
  obtain ⟨new, trace, -⟩ := h
  exact ⟨new, trace.symm⟩

theorem seenIn_eq {shown? : Signal ε → Option β} (h : ch.Extends ch')
    (silent : ∀ signal : Signal ε, signal.isChannel = true → shown? signal = none) :
    seenIn shown? ch'.trace = seenIn shown? ch.trace := by
  obtain ⟨new, trace, channel⟩ := h
  have nothing : seenIn shown? new = [] :=
    seenIn_eq_nil fun signal member => silent signal (channel signal member)
  rw [trace, seenIn_append, nothing, List.append_nil]

end Extends

theorem run_extends (ch : Channel ε) (tasks : List (Task ε)) : ch.Extends (ch.run tasks) := by
  refine Stage.run_induction (motive := fun ch tasks => ch.Extends (ch.run tasks)) ?_ ?_ ch tasks
  · intro ch
    rw [Channel.run]
    exact .refl ch
  · intro ch task tasks ih
    rw [Stage.run_cons]
    exact (Extends.act ch task).trans ih

end Channel
end WebServer

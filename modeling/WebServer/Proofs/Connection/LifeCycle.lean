import WebServer.Proofs.Connection.CloseFrame
import WebServer.Proofs.Connection.Handling
import WebServer.Proofs.Connection.Recording

/-!
# The life cycle of a connection

What a connection goes through comes down to deeds: a read, a call of the protocol, work on the
channel. `Deed.Due` says in what state of the connection a deed may come; the protocol is shown
something, and its timer runs, only while the connection is open and does not drain. `Duly` follows
the functions of the connection and finds that every deed is due. Beside that the connection is
`Steady` between any two events. Both together are its life cycle.
-/
namespace WebServer

variable {app : App} {π : Type}

/-- What a connection calls the protocol for. -/
inductive Occasion where
  | consume | timer | peerClosed | tornDown
  deriving DecidableEq, Repr

def Signal.occasion? {ε : Type} : Signal ε → Option Occasion
  | .window _ => some .consume
  | .timer => some .timer
  | .peerClosed => some .peerClosed
  | .tornDown => some .tornDown
  | _ => none

/-- What the protocol was called for. -/
def occasionsIn {ε : Type} (trace : List (Signal ε)) : List Occasion :=
  seenIn Signal.occasion? trace

theorem Signal.occasion?_of_silent {ε : Type} {signal : Signal ε}
    (silent : signal.isOccasion = false) : signal.occasion? = none := by
  cases signal <;> first | rfl | cases silent

theorem Channel.Uses.occasionsIn_eq {ε : Type} {ch ch' : Channel ε} (uses : ch.Uses ch') :
    occasionsIn ch'.trace = occasionsIn ch.trace := by
  obtain ⟨new, grown, silent⟩ := uses.grows
  have nothing : occasionsIn new = [] :=
    seenIn_eq_nil fun signal member => Signal.occasion?_of_silent (silent signal member)
  rw [occasionsIn, grown, seenIn_append]
  exact (congrArg _ nothing).trans (List.append_nil _)

/-- What a connection does, or what is done to it. -/
inductive Deed (app : App) (π : Type) where
  /-- Bytes are read, and that is what there will be to read. -/
  | read (bytes : Bytes) (source : Source)
  /-- The protocol is shown what was read and not yet taken. -/
  | consult
  /-- What was read is dropped. -/
  | drop
  /-- The stream has ended, and the protocol hears of it. -/
  | ended
  /-- The peer vanished: the protocol hears of it, and the channel closes. -/
  | vanished
  | timer (now : Nat)
  | work (tasks : List (Task app.Event))
  | wire (wire : Wire)
  | clock (now : Nat)
  | tables (tables : app.Tables)
  /-- The protocol changes through something that others share with it. -/
  | altered (next : π)

/-- What the protocol is called for. -/
def Deed.occasion? : Deed app π → Option Occasion
  | .consult => some .consume
  | .timer _ => some .timer
  | .ended | .vanished => some .peerClosed
  | _ => none

def Deed.isEnd : Deed app π → Bool
  | .ended => true
  | _ => false

namespace Connection

/-- The protocol is called once with what was read and not yet taken. -/
def consult (protocol : Protocol app π) (c : Connection app π) : Connection app π :=
  let (said, host) := protocol.consume c.protocol c.inbound (c.host.record (.window c.inbound))
  let c := { c with host, protocol := said.protocol }
  match said.move with
  | .wait | .switch => { c with inbound := c.inbound.drop said.used }
  | .close => { c with inbound := [], draining := true }

def enact (protocol : Protocol app π) (c : Connection app π) : Deed app π → Connection app π
  | .read bytes source => { c with source, inbound := c.inbound ++ bytes }
  | .consult => c.consult protocol
  | .drop => { c with inbound := [] }
  | .ended => c.endOfStream protocol
  | .vanished => c.hangUp protocol
  | .timer now =>
    let (next, host) := protocol.timer c.protocol now (c.host.record .timer)
    { c with protocol := next, host }
  | .work tasks => { c with host := { c.host with channel := c.host.channel.run tasks } }
  | .wire wire => { c with host := { c.host with channel := { c.host.channel with wire } } }
  | .clock now => { c with host := { c.host with now } }
  | .tables tables => { c with host := { c.host with tables } }
  | .altered next => { c with protocol := next }

def enactAll (protocol : Protocol app π) (c : Connection app π) (deeds : List (Deed app π)) :
    Connection app π := deeds.foldl (enact protocol) c

end Connection

/-- When a deed may come. -/
def Deed.Due (c : Connection app π) : Deed app π → Prop
  | .consult | .timer _ => c.draining = false ∧ c.isClosed = false
  | .ended => c.readClosed = false
  | _ => True

/-- Deeds lead from one state of a connection to another, and each is due when it comes. -/
inductive Duly (protocol : Protocol app π) :
    Connection app π → List (Deed app π) → Connection app π → Prop where
  | nothing (c : Connection app π) : Duly protocol c [] c
  | deed {c after : Connection app π} {deed : Deed app π} {deeds : List (Deed app π)}
    (due : deed.Due c) (further : Duly protocol (c.enact protocol deed) deeds after) :
    Duly protocol c (deed :: deeds) after

namespace Duly

variable {protocol : Protocol app π} {c mid after : Connection app π}
variable {deeds more : List (Deed app π)}

theorem single {deed : Deed app π} (due : deed.Due c) :
    Duly protocol c [deed] (c.enact protocol deed) := .deed due (.nothing _)

theorem trans (h : Duly protocol c deeds mid) (further : Duly protocol mid more after) :
    Duly protocol c (deeds ++ more) after := by
  induction h with
  | nothing => exact further
  | deed due _ ih => exact .deed due (ih further)

theorem eq_enactAll (h : Duly protocol c deeds after) : after = c.enactAll protocol deeds := by
  induction h with
  | nothing => rfl
  | deed _ _ ih => exact ih

/-- What was done before a deed, and that the deed is due then. -/
theorem split {earlier : List (Deed app π)} {deed : Deed app π} {later : List (Deed app π)}
    (h : Duly protocol c (earlier ++ deed :: later) after) :
    deed.Due (c.enactAll protocol earlier) := by
  induction earlier generalizing c with
  | nil =>
    cases h with
    | deed due => exact due
  | cons first earlier ih =>
    cases h with
    | deed _ further => exact ih further

end Duly

namespace Connection

/-! ### What a connection does is due -/

section Due

variable (protocol : Protocol app π) (c : Connection app π)

/-- A connection got to another state by deeds that were due. -/
def Gets (after : Connection app π) : Prop := ∃ deeds, Duly protocol c deeds after

variable {protocol c}

theorem Gets.refl : c.Gets protocol c := ⟨[], .nothing c⟩

theorem Gets.trans {mid after : Connection app π} (h : c.Gets protocol mid)
    (further : mid.Gets protocol after) : c.Gets protocol after := by
  obtain ⟨deeds, duly⟩ := h
  obtain ⟨more, duly'⟩ := further
  exact ⟨deeds ++ more, duly.trans duly'⟩

theorem Gets.deed (deed : Deed app π) (due : deed.Due c) :
    c.Gets protocol (c.enact protocol deed) := ⟨[deed], .single due⟩

/-- What every deed preserves that is due. -/
theorem Gets.preserve {P : Connection app π → Prop}
    (step : ∀ c deed, Deed.Due c deed → P c → P (c.enact protocol deed))
    {after : Connection app π} (h : c.Gets protocol after) (holds : P c) : P after := by
  obtain ⟨deeds, duly⟩ := h
  induction duly with
  | nothing => exact holds
  | deed due _ ih => exact ih (step _ _ due holds)

variable (protocol c)

/-- Offering what was read is to call the protocol over and over, as long as the connection is open
and does not drain. -/
theorem offer_gets (handovers : Nat) (alive : c.draining = false) :
    c.Gets protocol (c.offer protocol handovers) := by
  have consults {c : Connection app π} (alive : c.draining = false) (opened : ¬ c.isClosed = true) :
      c.Gets protocol (c.consult protocol) :=
    Gets.deed .consult ⟨alive, Bool.eq_false_iff.2 opened⟩
  fun_induction offer protocol c handovers with
  | case1 c handovers nothing => exact .refl
  | case2 c handovers b bs inbound closed => exact .refl
  | case3 c handovers b bs inbound opened said host taken next waits =>
    have shown := consults alive opened
    simp only [consult, inbound, taken, waits] at shown
    exact shown
  | case4 c handovers b bs inbound opened said host taken next closes =>
    have shown := consults alive opened
    simp only [consult, inbound, taken, closes] at shown
    exact shown
  | case5 c handovers b bs inbound opened said host taken next used switches used_eq ih =>
    have shown := consults alive opened
    simp only [consult, inbound, taken, switches, used_eq] at shown
    exact shown.trans (ih alive)
  | case6 c b bs inbound opened said host taken next switches used_eq =>
    have shown := consults alive opened
    simp only [consult, inbound, taken, switches, used_eq] at shown
    exact shown
  | case7 c b bs inbound opened said host taken next switches used_eq handovers ih =>
    have shown := consults alive opened
    simp only [consult, inbound, taken, switches, used_eq] at shown
    exact shown.trans (ih alive)

theorem process_gets : c.Gets protocol (c.process protocol) := by
  unfold process
  split
  · exact Gets.deed .drop trivial
  · rename_i alive
    exact offer_gets protocol c _ (Bool.eq_false_iff.2 alive)

theorem work_gets (tasks : List (Task app.Event)) :
    c.Gets protocol { c with host := { c.host with channel := c.host.channel.run tasks } } :=
  Gets.deed (.work tasks) trivial

theorem closeIfDrained_gets : c.Gets protocol c.closeIfDrained := by
  unfold closeIfDrained
  split
  · exact work_gets protocol c _
  · exact .refl

theorem settle_gets (writable : Bool) : c.Gets protocol (c.settle writable) := by
  unfold settle
  split
  · exact (work_gets protocol c [.flush]).trans (closeIfDrained_gets protocol _)
  · exact closeIfDrained_gets protocol c

theorem hangUp_gets : c.Gets protocol (c.hangUp protocol) := Gets.deed .vanished trivial

theorem readClosed_offer (handovers : Nat) :
    (c.offer protocol handovers).readClosed = c.readClosed := by
  fun_induction offer protocol c handovers
  case case5 ih | case7 ih => exact ih
  all_goals rfl

theorem readClosed_process : (c.process protocol).readClosed = c.readClosed := by
  unfold process
  split
  · rfl
  · exact readClosed_offer protocol c _

theorem onEvent_gets (event : Readiness) : c.Gets protocol (c.onEvent protocol event) := by
  unfold onEvent
  split
  · exact .refl
  · split
    · exact hangUp_gets protocol c
    · split
      · rename_i reads
        generalize c.source.readAll c.chunk [] = read
        obtain ⟨readEnd, bytes, source⟩ := read
        have read : c.Gets protocol { c with source, inbound := c.inbound ++ bytes } :=
          Gets.deed (.read bytes source) trivial
        have processed := read.trans (process_gets protocol _)
        cases readEnd with
        | more => exact processed.trans (settle_gets protocol _ _)
        | failed => exact read.trans (hangUp_gets protocol _)
        | ended =>
          have first : ({ c with source, inbound := c.inbound ++ bytes } :
              Connection app π).readClosed = false := by
            simpa using (Bool.and_eq_true_iff.1 reads).2
          have due := (readClosed_process protocol _).trans first
          exact (processed.trans (Gets.deed .ended due)).trans (settle_gets protocol _ _)
      · exact settle_gets protocol c _

theorem onTimer_gets (now : Nat) : c.Gets protocol (c.onTimer protocol now) := by
  unfold onTimer
  split
  · exact .refl
  · rename_i alive
    have due : (Deed.timer now : Deed app π).Due c := by
      simpa [Deed.Due] using alive
    exact (Gets.deed _ due).trans (closeIfDrained_gets protocol _)

/-- Whatever a connection goes through, everything that it does is due. -/
theorem undergo_gets (episode : Episode app π) : c.Gets protocol (c.undergo protocol episode) := by
  cases episode with
  | ready event => exact onEvent_gets protocol c event
  | timer now => exact onTimer_gets protocol c now
  | hangUp => exact hangUp_gets protocol c
  | woken => exact closeIfDrained_gets protocol c
  | source source =>
    have read : c.Gets protocol (c.enact protocol (.read [] source)) := Gets.deed _ trivial
    simp only [enact, List.append_nil] at read
    exact read
  | wire wire => exact Gets.deed (.wire wire) trivial
  | clock now => exact Gets.deed (.clock now) trivial
  | tables tables => exact Gets.deed (.tables tables) trivial
  | work tasks => exact work_gets protocol c tasks
  | altered next => exact Gets.deed (.altered next) trivial

theorem undergoAll_gets (episodes : List (Episode app π)) :
    c.Gets protocol (c.undergoAll protocol episodes) := by
  induction episodes generalizing c with
  | nil => exact .refl
  | cons episode episodes ih => exact (undergo_gets protocol c episode).trans (ih _)

end Due

/-! ### What is never undone -/

/-- A connection got further: it may drain now, or read no more, or be closed, but none of this was
undone. -/
structure Onward (c after : Connection app π) : Prop where
  draining : c.draining = true → after.draining = true
  readClosed : c.readClosed = true → after.readClosed = true
  closed : c.isClosed = true → after.isClosed = true

theorem Onward.trans {c mid after : Connection app π} (h : c.Onward mid)
    (further : mid.Onward after) : c.Onward after where
  draining := fun draining => further.draining (h.draining draining)
  readClosed := fun readClosed => further.readClosed (h.readClosed readClosed)
  closed := fun closed => further.closed (h.closed closed)

section Proper

variable {protocol : Protocol app π} (proper : protocol.Proper) (c : Connection app π)

include proper

/-- A deed shows in the trace what it calls the protocol for. Beside that the channel is only used,
on whatever wire. -/
theorem enact_uses (deed : Deed app π) :
    ∃ wire shown,
      ({ c.host.channel with wire, trace := shown ++ c.host.channel.trace } : Channel _).Uses
        (c.enact protocol deed).host.channel ∧
      occasionsIn shown = deed.occasion?.toList ∧ ∀ signal ∈ shown, signal.isOccasion = true := by
  have alone {signal : Signal app.Event} (occasion : signal.isOccasion = true) :
      ∀ other ∈ [signal], other.isOccasion = true := List.forall_mem_singleton.2 occasion
  have nothing : ∀ other ∈ ([] : List (Signal app.Event)), other.isOccasion = true :=
    List.forall_mem_nil _
  cases deed with
  | consult =>
    refine ⟨c.host.channel.wire, [.window c.inbound], ?_, rfl, alone rfl⟩
    have uses := proper.consume c.protocol c.inbound (c.host.record (.window c.inbound))
    simp only [enact, consult]
    split <;> exact uses
  | ended =>
    have told := proper.peerClosed c.protocol (c.host.record .peerClosed)
    exact ⟨c.host.channel.wire, [.peerClosed], told, rfl, alone rfl⟩
  | vanished =>
    have told := proper.peerClosed c.protocol (c.host.record .peerClosed)
    exact ⟨c.host.channel.wire, [.peerClosed], told.work _, rfl, alone rfl⟩
  | timer now =>
    have ran := proper.timer c.protocol now (c.host.record .timer)
    exact ⟨c.host.channel.wire, [.timer], ran, rfl, alone rfl⟩
  | work tasks => exact ⟨c.host.channel.wire, [], .work .nothing tasks, rfl, nothing⟩
  | wire wire => exact ⟨wire, [], .nothing, rfl, nothing⟩
  | read | drop | clock | tables | altered =>
    exact ⟨c.host.channel.wire, [], .nothing, rfl, nothing⟩

theorem occasionsIn_enact (deed : Deed app π) :
    occasionsIn (c.enact protocol deed).host.channel.trace =
      occasionsIn c.host.channel.trace ++ deed.occasion?.toList := by
  obtain ⟨wire, shown, uses, called, -⟩ := enact_uses proper c deed
  rw [uses.occasionsIn_eq, ← called]
  exact seenIn_append shown c.host.channel.trace

theorem enact_onward (deed : Deed app π) : c.Onward (c.enact protocol deed) where
  draining := fun draining => by
    cases deed with
    | consult =>
      simp only [enact, consult]
      split
      · exact draining
      · exact draining
      · rfl
    | ended => rfl
    | read | drop | vanished | timer | work | wire | clock | tables | altered => exact draining
  readClosed := fun readClosed => by
    cases deed with
    | consult =>
      simp only [enact, consult]
      split <;> exact readClosed
    | ended => rfl
    | read | drop | vanished | timer | work | wire | clock | tables | altered => exact readClosed
  closed := fun closed => by
    obtain ⟨wire, shown, uses, -⟩ := enact_uses proper c deed
    simp only [isClosed, Host.isOpen, Bool.not_eq_true'] at closed ⊢
    exact uses.closed closed

/-- A connection that reads no more drains, as long as it was so before. -/
theorem enact_draining {deed : Deed app π}
    (h : c.readClosed = true → c.draining = true)
    (ended : (c.enact protocol deed).readClosed = true) :
    (c.enact protocol deed).draining = true := by
  cases deed with
  | ended => rfl
  | consult =>
    refine (enact_onward proper c .consult).draining (h ?_)
    rw [← ended]
    simp only [enact, consult]
    split <;> rfl
  | read | drop | vanished | timer | work | wire | clock | tables | altered => exact h ended

end Proper
end Connection

namespace Duly

variable {protocol : Protocol app π} {c after : Connection app π} {deeds : List (Deed app π)}

theorem onward (proper : protocol.Proper) (h : Duly protocol c deeds after) : c.Onward after := by
  induction h with
  | nothing => exact ⟨id, id, id⟩
  | deed _ _ ih => exact (Connection.enact_onward proper _ _).trans ih

theorem draining (proper : protocol.Proper) (h : Duly protocol c deeds after)
    (before : c.readClosed = true → c.draining = true) (ended : after.readClosed = true) :
    after.draining = true := by
  induction h with
  | nothing => exact before ended
  | deed _ _ ih => exact ih (Connection.enact_draining proper _ before) ended

/-- The protocol is called for the deeds, and for nothing else. -/
theorem calls (proper : protocol.Proper) (h : Duly protocol c deeds after) :
    occasionsIn after.host.channel.trace =
      occasionsIn c.host.channel.trace ++ deeds.filterMap Deed.occasion? := by
  induction h with
  | nothing => simp
  | @deed c after deed deeds _ _ ih =>
    rw [ih, Connection.occasionsIn_enact proper, List.append_assoc]
    cases called : deed.occasion? <;> simp [called]

/-- The end of the stream is told at most once, as nothing is read behind it. -/
theorem countP_isEnd (proper : protocol.Proper) (h : Duly protocol c deeds after) :
    deeds.countP Deed.isEnd + c.readClosed.toNat ≤ 1 := by
  induction h with
  | nothing c => simpa using Bool.toNat_le c.readClosed
  | @deed c after deed deeds due _ ih =>
    have onward := (Connection.enact_onward proper c deed).readClosed
    cases deed with
    | ended =>
      have told : (c.enact protocol .ended).readClosed = true := rfl
      have notYet : c.readClosed = false := due
      rw [told, Bool.toNat_true] at ih
      rw [notYet, Bool.toNat_false, List.countP_cons_of_pos rfl]
      omega
    | read | consult | drop | vanished | timer | work | wire | clock | tables | altered =>
      rw [List.countP_cons_of_neg Bool.false_ne_true]
      cases readClosed : c.readClosed with
      | false => exact Nat.le_trans (Nat.add_le_add_left (Nat.zero_le _) _) ih
      | true => rwa [onward readClosed] at ih

/-- Deeds can be told in two parts. -/
theorem parts {earlier later : List (Deed app π)}
    (h : Duly protocol c (earlier ++ later) after) :
    Duly protocol c earlier (c.enactAll protocol earlier) ∧
      Duly protocol (c.enactAll protocol earlier) later after := by
  induction earlier generalizing c with
  | nil => exact ⟨.nothing c, h⟩
  | cons first earlier ih =>
    cases h with
    | deed due further =>
      obtain ⟨before, behind⟩ := ih further
      exact ⟨.deed due before, behind⟩

end Duly

namespace Connection

variable {protocol : Protocol app π} {c : Connection app π}

/-! ### Between two events -/

/-- What holds of a connection between two events. -/
structure Steady (c : Connection app π) : Prop where
  draining : c.readClosed = true → c.draining = true
  inbound : c.draining = true → c.isClosed = false → c.inbound = []

/-- How an event leaves a connection: closed, or going on, or with something still to be sent and
nothing to be taken. -/
def Rests (c : Connection app π) : Prop :=
  c.isClosed = true ∨
    (c.draining = true ∧ c.host.channel.hasPending = true ∧ c.inbound = []) ∨
    c.draining = false

/-- What is done to the host of a steady connection leaves it steady, if it opens nothing. -/
theorem Steady.withHost (h : c.Steady) {host : Host app}
    (opened : host.isOpen = true → c.host.isOpen = true) :
    Steady { c with host } where
  draining := h.draining
  inbound := fun draining stillOpen => h.inbound draining (by
    simp only [isClosed, Bool.not_eq_false'] at stillOpen ⊢
    exact opened stillOpen)

theorem Steady.of_closed (draining : c.readClosed = true → c.draining = true)
    (closed : c.isClosed = true) : c.Steady where
  draining := draining
  inbound := fun _ opened => by
    rw [closed] at opened
    cases opened

theorem isClosed_close (c : Connection app π) : c.close.isClosed = true := by
  rw [isClosed, close, Host.isOpen_close]
  rfl

theorem inbound_offer (handovers : Nat) (alive : c.draining = false)
    (drains : (c.offer protocol handovers).draining = true) :
    (c.offer protocol handovers).inbound = [] := by
  fun_induction offer protocol c handovers
  case case5 ih | case7 ih => exact ih alive drains
  case case4 => rfl
  all_goals
    rw [alive] at drains
    cases drains

theorem steady_process (h : c.readClosed = true → c.draining = true) :
    (c.process protocol).Steady := by
  unfold process
  split
  · exact ⟨h, fun _ _ => rfl⟩
  · rename_i alive
    rw [Bool.not_eq_true] at alive
    refine ⟨fun ended => ?_, fun drains _ => inbound_offer _ alive drains⟩
    rw [readClosed_offer] at ended
    rw [h ended] at alive
    cases alive

theorem steady_endOfStream (c : Connection app π) : (c.endOfStream protocol).Steady :=
  ⟨fun _ => rfl, fun _ _ => rfl⟩

theorem closeIfDrained_rests (h : c.Steady) : c.closeIfDrained.Steady ∧ c.closeIfDrained.Rests := by
  unfold closeIfDrained
  split
  · exact ⟨.of_closed h.draining (isClosed_close c), .inl (isClosed_close c)⟩
  · rename_i waits
    refine ⟨h, ?_⟩
    cases closed : c.isClosed with
    | true => exact .inl closed
    | false =>
      cases draining : c.draining with
      | false => exact .inr (.inr draining)
      | true =>
        have pending : c.host.channel.hasPending = true := by simpa [draining] using waits
        exact .inr (.inl ⟨draining, pending, h.inbound draining closed⟩)

/-- Whoever still drains at the end of an event has something to send. -/
theorem settle_rests (h : c.Steady) (writable : Bool) :
    (c.settle writable).Steady ∧ (c.settle writable).Rests := by
  unfold settle
  split
  · exact closeIfDrained_rests (h.withHost fun isOpen => Channel.isOpen_of_run isOpen)
  · exact closeIfDrained_rests h

theorem hangUp_rests (h : c.readClosed = true → c.draining = true) :
    (c.hangUp protocol).Steady ∧ (c.hangUp protocol).Rests :=
  ⟨.of_closed h (isClosed_close _), .inl (isClosed_close _)⟩

theorem onEvent_rests (h : c.Steady) (event : Readiness) :
    (c.onEvent protocol event).Steady ∧ (c.onEvent protocol event).Rests := by
  unfold onEvent
  split
  · rename_i closed
    exact ⟨h, .inl closed⟩
  · split
    · exact hangUp_rests h.draining
    · split
      · generalize c.source.readAll c.chunk [] = read
        obtain ⟨readEnd, bytes, source⟩ := read
        cases readEnd with
        | more =>
          have processed : (({ c with source, inbound := c.inbound ++ bytes } :
              Connection app π).process protocol).Steady := steady_process h.draining
          exact settle_rests processed _
        | ended => exact settle_rests (steady_endOfStream _) _
        | failed => exact hangUp_rests h.draining
      · exact settle_rests h _

theorem undergo_steady (h : c.Steady) (episode : Episode app π) :
    (c.undergo protocol episode).Steady := by
  cases episode with
  | ready event => exact (onEvent_rests h event).1
  | timer now =>
    simp only [undergo, onTimer]
    split
    · exact h
    · rename_i alive
      simp only [Bool.not_eq_true, Bool.or_eq_false_iff] at alive
      have ran : (c.enact protocol (.timer now)).Steady := by
        refine ⟨h.draining, fun drains => ?_⟩
        rw [show (c.enact protocol (.timer now)).draining = c.draining from rfl, alive.1] at drains
        cases drains
      exact (closeIfDrained_rests ran).1
  | hangUp => exact (hangUp_rests h.draining).1
  | woken => exact (closeIfDrained_rests h).1
  | work tasks => exact h.withHost fun isOpen => Channel.isOpen_of_run isOpen
  | source | wire | clock | tables | altered => exact ⟨h.draining, h.inbound⟩

theorem undergoAll_steady (h : c.Steady) (episodes : List (Episode app π)) :
    (c.undergoAll protocol episodes).Steady := by
  induction episodes generalizing c with
  | nil => exact h
  | cons episode episodes ih => exact ih (undergo_steady h episode)

/-- How a connection came to be what it is, by the deeds one after another. -/
structure CameBy (protocol : Protocol app π) (begun c : Connection app π)
    (deeds : List (Deed app π)) : Prop where
  reached : c = begun.enactAll protocol deeds
  /-- The protocol was called for these deeds, and for nothing else. -/
  calls : occasionsIn c.host.channel.trace =
    occasionsIn begun.host.channel.trace ++ deeds.filterMap Deed.occasion?
  /-- The protocol was told at most once that the stream ended. -/
  once : deeds.countP Deed.isEnd ≤ 1
  /-- At no moment it read no more and did not drain. -/
  draining : ∀ earlier later, deeds = earlier ++ later →
    (begun.enactAll protocol earlier).readClosed = true →
    (begun.enactAll protocol earlier).draining = true
  /-- If it drained at some moment, or was closed, it still is. -/
  onward : ∀ earlier later, deeds = earlier ++ later → (begun.enactAll protocol earlier).Onward c
  /-- When the protocol was shown something, or its timer ran, the connection was open and did not
  drain. -/
  called : ∀ earlier deed later, deeds = earlier ++ deed :: later →
    deed.occasion? = some .consume ∨ deed.occasion? = some .timer →
    (begun.enactAll protocol earlier).draining = false ∧
      (begun.enactAll protocol earlier).isClosed = false

theorem cameBy_of_duly (proper : protocol.Proper) {begun : Connection app π}
    {deeds : List (Deed app π)} (duly : Duly protocol begun deeds c)
    (fresh : begun.readClosed = false) : CameBy protocol begun c deeds where
  reached := duly.eq_enactAll
  calls := duly.calls proper
  once := Nat.le_of_add_right_le (duly.countP_isEnd proper)
  draining := by
    rintro earlier later rfl
    refine duly.parts.1.draining proper fun ended => ?_
    rw [fresh] at ended
    cases ended
  onward := by
    rintro earlier later rfl
    exact duly.parts.2.onward proper
  called := by
    rintro earlier deed later rfl called
    have due := duly.split
    cases deed with
    | consult | timer now => exact due
    | _ => simp [Deed.occasion?] at called

/-- Whatever a connection goes through, with whatever proper protocol: behind every event it is
closed, or drains and still has something to send and nothing to be taken, or does not drain. What
was done until then can be told deed by deed, and nothing of it is ever undone: a connection that
reads no more drains, one that drains or is closed stays so, and its protocol is neither shown
anything nor does its timer run. Of the end of the stream it hears at most once. -/
theorem life_cycle (proper : protocol.Proper) (host : Host app) (source : Source) (first : π)
    (chunk : Nat) (episodes : List (Episode app π)) :
    let begun : Connection app π := { host, source, protocol := first, chunk }
    let c := begun.undergoAll protocol episodes
    (∀ event,
      let after := c.onEvent protocol event
      after.isClosed = true ∨
        (after.draining = true ∧ after.host.channel.hasPending = true ∧ after.inbound = []) ∨
        after.draining = false) ∧
      (c.readClosed = true → c.draining = true) ∧
      (∀ later, c.Onward (c.undergoAll protocol later)) ∧
      ∃ deeds, CameBy protocol begun c deeds := by
  intro begun c
  have fresh : begun.Steady := ⟨fun ended => absurd ended Bool.false_ne_true, fun _ _ => rfl⟩
  have steady : c.Steady := undergoAll_steady fresh episodes
  obtain ⟨deeds, duly⟩ := undergoAll_gets protocol begun episodes
  refine ⟨fun event => (onEvent_rests steady event).2, steady.draining, fun later => ?_,
    deeds, cameBy_of_duly proper duly rfl⟩
  obtain ⟨more, further⟩ := undergoAll_gets protocol c later
  exact further.onward proper

/-- Somebody writes while the wire takes nothing, and then the stream ends: a connection of the
polite application drains, and waits. -/
theorem polite_life_cycle :
    let begun : Connection politeApp (Active Unit) :=
      { host := { channel := { wire := { budget := some 0 } } }, source := { ended := true }
        protocol := .http none, chunk := 4096 }
    let c := begun.undergoAll (serving politeApp {})
      [.work [.complete (.write [0x68] .done .done)], .ready { readable := true }]
    (serving politeApp {}).Proper ∧ c.draining = true ∧ c.isClosed = false ∧
      c.host.channel.hasPending = true ∧ (c.readClosed = true → c.draining = true) ∧
      ∃ deeds, CameBy (serving politeApp {}) begun c deeds := by
  intro begun c
  have proper : (serving politeApp {}).Proper := serving_proper {}
  obtain ⟨-, drains, -, came⟩ := life_cycle proper
    { channel := { wire := { budget := some 0 } } } { ended := true } (.http none) 4096
    [.work [.complete (.write [0x68] .done .done)], .ready { readable := true }]
  let written :=
    begun.undergo (serving politeApp {}) (.work [.complete (.write [0x68] .done .done)])
  have nothing : written.process (serving politeApp {}) = written := offer_of_nil _ rfl _
  have opened : written.isClosed = false := by decide +kernel
  have read : written.source.readAll written.chunk [] = (.ended, [], written.source) := by
    decide +kernel
  have ended : c = (written.endOfStream (serving politeApp {})).settle false := by
    change written.onEvent (serving politeApp {}) { readable := true } = _
    simp only [onEvent, opened, read, List.append_nil, Bool.false_eq_true, if_false]
    rw [if_pos (by rfl), nothing]
  refine ⟨proper, ?_, ?_, ?_, drains, came⟩
  all_goals
    rw [ended]
    decide +kernel

end Connection
end WebServer

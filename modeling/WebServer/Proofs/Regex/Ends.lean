import WebServer.Proofs.Requests.Elements
import WebServer.Regex.Pattern

/-!
# Expressions tied to the ends of a text

The instructions of an expression lead to each other and to the one that comes next, and to no
other: `compile` keeps this of the code that it adds to (`keeps_compile`). So if an expression is
compiled in front of the condition that the text ends, there is no way around this condition, and
what a search finds ends with the text. If the first instruction is the condition that the text
begins, what is found begins with it (`Tied.search`). A sequence between these two conditions stays
between them in normal form, so that its program is tied to both (`BetweenEnds.tied`).
-/
namespace WebServer.Regex

/-- The instructions that may follow an instruction. -/
def Instr.targets : Instr → List Nat
  | .take _ next | .mark _ next | .look _ next => [next]
  | .split targets => targets
  | .accept => []

/-- A step goes to one of the targets, loses no character, and passes a condition only where it
holds. -/
structure Thread.Steps (t : Thread) (instr : Instr) (t' : Thread) : Prop where
  target : t'.pc ∈ instr.targets
  length : t'.spot.index + t'.spot.after.length = t.spot.index + t.spot.after.length
  looked : ∀ kind next, instr = .look kind next → kind.holds t.spot = true ∧ t'.spot = t.spot

theorem Thread.follow_steps {t t' : Thread} {instr : Instr} (h : t' ∈ t.follow instr) :
    t.Steps instr t' := by
  cases instr with
  | take set next =>
    simp only [Thread.follow] at h
    split at h
    · rename_i c rest after
      split at h
      · rw [List.mem_singleton.1 h]
        exact ⟨List.mem_singleton_self _, by simp only [after, List.length_cons]; omega, nofun⟩
      · cases h
    · cases h
  | split targets =>
    obtain ⟨pc, member, rfl⟩ := List.mem_map.1 h
    exact ⟨member, rfl, nofun⟩
  | mark slot next =>
    rw [List.mem_singleton.1 h]
    exact ⟨List.mem_singleton_self _, rfl, nofun⟩
  | look kind next =>
    simp only [Thread.follow] at h
    split at h
    · rename_i holds
      rw [List.mem_singleton.1 h]
      refine ⟨List.mem_singleton_self _, rfl, fun _ _ same => ?_⟩
      obtain ⟨rfl, rfl⟩ := Instr.look.inj same
      exact ⟨holds, rfl⟩
    · cases h
  | accept => cases h

section Code

variable (base : Array Instr) (goal : Nat)

/-- An instruction that stands behind the base, or the one that is to come next. -/
def Reached (target : Nat) : Prop := target = goal ∨ base.size ≤ target

/-- Code behind a base, and where to go on in it. The base is as it was, and the instructions
behind it do not accept and lead only to each other and to the goal. -/
structure Behind (added : Nat × Array Instr) : Prop where
  entry : Reached base goal added.1
  longer : base.size ≤ added.2.size
  kept : ∀ i < base.size, added.2[i]? = base[i]?
  leads : ∀ i, base.size ≤ i → ∀ instr, added.2[i]? = some instr →
    instr ≠ .accept ∧ ∀ target ∈ instr.targets, Reached base goal target

/-- Adding these instructions keeps the code behind its base. -/
def Keeps (one : Nat → Array Instr → Nat × Array Instr) : Prop :=
  ∀ next code, Behind base goal (next, code) → Behind base goal (one next code)

variable {base goal} {next : Nat} {code : Array Instr} {instr : Instr}

theorem Behind.emitted (h : Behind base goal (next, code)) (plain : instr ≠ .accept)
    (targets : ∀ target ∈ instr.targets, Reached base goal target) :
    Behind base goal (emit instr code) where
  entry := .inr h.longer
  longer := Nat.le_trans h.longer (by simp [emit])
  kept i inside := by
    have old : i < code.size := Nat.lt_of_lt_of_le inside h.longer
    simp only [emit, Array.getElem?_push, if_neg (Nat.ne_of_lt old)]
    exact h.kept i inside
  leads i outside instr' found := by
    simp only [emit, Array.getElem?_push] at found
    split at found
    · rw [← Option.some.inj found]
      exact ⟨plain, targets⟩
    · exact h.leads i outside instr' found

/-- An instruction that leads to what comes next. -/
theorem Behind.leading (h : Behind base goal (next, code)) (plain : instr ≠ .accept)
    (only : instr.targets = [next]) : Behind base goal (emit instr code) := by
  refine h.emitted plain fun target member => ?_
  rw [only] at member
  exact List.mem_singleton.1 member ▸ h.entry

theorem Behind.set (h : Behind base goal (next, code)) {place : Nat}
    (outside : base.size ≤ place)
    (plain : instr ≠ .accept) (targets : ∀ target ∈ instr.targets, Reached base goal target) :
    Behind base goal (next, code.setIfInBounds place instr) where
  entry := h.entry
  longer := by simpa using h.longer
  kept i inside := by
    rw [Array.getElem?_setIfInBounds, if_neg (by omega)]
    exact h.kept i inside
  leads i later instr' found := by
    rw [Array.getElem?_setIfInBounds] at found
    split at found
    · split at found
      · rw [← Option.some.inj found]
        exact ⟨plain, targets⟩
      · cases found
    · exact h.leads i later instr' found

theorem Behind.goTo (h : Behind base goal (next, code)) {entry : Nat}
    (reached : Reached base goal entry) : Behind base goal (entry, code) :=
  { h with entry := reached }

/-- Both targets of a choice are its instruction's. -/
theorem targets_prefer (greedy : Bool) (inside outside : Nat) :
    prefer greedy inside outside ≠ .accept ∧
      ∀ target ∈ (prefer greedy inside outside).targets, target = inside ∨ target = outside := by
  cases greedy <;> simp [prefer, Instr.targets, or_comm]

theorem Behind.preferred (h : Behind base goal (next, code)) {other : Nat}
    (reached : Reached base goal other) (greedy : Bool) :
    Behind base goal (emit (prefer greedy next other) code) := by
  obtain ⟨plain, targets⟩ := targets_prefer greedy next other
  refine h.emitted plain fun target member => ?_
  rcases targets target member with rfl | rfl
  · exact h.entry
  · exact reached

variable {one : Nat → Array Instr → Nat × Array Instr}

theorem keeps_compileChars (chars : List Char) (h : Behind base goal (next, code)) :
    Behind base goal (compileChars next code chars) := by
  induction chars with
  | nil => exact h
  | cons c cs ih => exact ih.leading nofun rfl

theorem keeps_compileTimes (keeps : Keeps base goal one) (count : Nat)
    (h : Behind base goal (next, code)) : Behind base goal (compileTimes one next count code) := by
  induction count with
  | zero => exact h
  | succ count ih => exact keeps _ _ ih

theorem keeps_compileUpTo (keeps : Keeps base goal one) (greedy : Bool) (count : Nat)
    (h : Behind base goal (next, code)) :
    Behind base goal (compileUpTo one greedy next count code) := by
  induction count with
  | zero => exact h
  | succ count ih => exact (keeps _ _ ih).preferred h.entry greedy

/-- A copy that leads back to a choice in front of it; the choice is filled in afterwards. -/
theorem keeps_back (keeps : Keeps base goal one) (greedy : Bool)
    (h : Behind base goal (next, code)) :
    let copy := one code.size (code.push (.split []))
    Behind base goal (copy.1, copy.2.setIfInBounds code.size (prefer greedy copy.1 next)) := by
  intro copy
  have choice : Behind base goal (code.size, code.push (.split [])) :=
    h.emitted (by simp) (by simp [Instr.targets])
  have inside : Behind base goal copy := keeps _ _ choice
  obtain ⟨plain, targets⟩ := targets_prefer greedy copy.1 next
  refine inside.set h.longer plain fun target member => ?_
  rcases targets target member with rfl | rfl
  · exact inside.entry
  · exact h.entry

theorem keeps_compileLoop (keeps : Keeps base goal one) (greedy : Bool)
    (h : Behind base goal (next, code)) : Behind base goal (compileLoop one greedy next code) :=
  keeps_back keeps greedy h

theorem keeps_compileAny (keeps : Keeps base goal one) (consumes greedy : Bool)
    (h : Behind base goal (next, code)) :
    Behind base goal (compileAny one consumes greedy next code) := by
  unfold compileAny
  split
  · exact (keeps_back keeps greedy h).goTo (.inr h.longer)
  · exact (keeps_compileLoop keeps greedy h).preferred h.entry greedy

mutual

/-- The instructions of an expression lead to each other and to the next one. -/
theorem keeps_compile (e : Expr) : Keeps base goal (compile e) := by
  intro next code h
  match e with
  | .empty => exact h
  | .literal chars => exact keeps_compileChars chars h
  | .oneOf set => exact h.leading nofun rfl
  | .look kind => exact h.leading nofun rfl
  | .repetition min max greedy body =>
    have keeps := keeps_compile body
    unfold compile
    cases max with
    | some max =>
      exact keeps_compileTimes keeps _ (keeps_compileUpTo keeps greedy _ h)
    | none =>
      simp only
      split
      · exact keeps_compileAny keeps _ greedy h
      · exact keeps_compileTimes keeps _ (keeps_compileLoop keeps greedy h)
  | .capture index body =>
    have after : Behind base goal (emit (.mark (2 * index + 1) next) code) :=
      h.leading nofun rfl
    have inside := keeps_compile body _ _ after
    exact inside.leading nofun rfl
  | .sequence parts => exact keeps_compileSequence parts _ _ h
  | .choice branches =>
    obtain ⟨targets, inside⟩ := keeps_compileBranches branches next code h
    exact inside.emitted (by simp) targets

theorem keeps_compileSequence (parts : List Expr) : Keeps base goal (compileSequence parts) := by
  intro next code h
  match parts with
  | [] => exact h
  | e :: es => exact keeps_compile e _ _ (keeps_compileSequence es _ _ h)

theorem keeps_compileBranches (branches : List Expr) (next : Nat) (code : Array Instr)
    (h : Behind base goal (next, code)) :
    (∀ target ∈ (compileBranches branches next code).1, Reached base goal target) ∧
      Behind base goal (next, (compileBranches branches next code).2) := by
  match branches with
  | [] => exact ⟨by simp [compileBranches], h⟩
  | e :: es =>
    have first := keeps_compile e _ _ h
    obtain ⟨targets, others⟩ := keeps_compileBranches es next _ (first.goTo h.entry)
    refine ⟨fun target member => ?_, others⟩
    rcases List.mem_cons.1 member with rfl | later
    · exact first.entry
    · exact targets target later

end

end Code

/-- What every step of a search keeps holds of the thread that it finds, which accepts. -/
theorem explore_some {p : Program} (holds : Thread → Prop)
    (step : ∀ t instr, holds t → p.instrs[t.pc]? = some instr → ∀ t' ∈ t.follow instr, holds t')
    {fuel : Nat} {tried tried' : Tried} {threads : List Thread} {found : Thread}
    (all : ∀ t ∈ threads, holds t) (h : explore p fuel tried threads = (some found, tried')) :
    holds found ∧ p.instrs[found.pc]? = some .accept := by
  fun_induction explore p fuel tried threads with
  | case1 => cases h
  | case2 => cases h
  | case3 tried fuel t rest _ ih => exact ih (fun t member => all t (.tail _ member)) h
  | case4 tried fuel t rest _ _ ih => exact ih (fun t member => all t (.tail _ member)) h
  | case5 tried fuel t rest _ accepts =>
    obtain ⟨same, -⟩ := Prod.mk.inj h
    obtain rfl := Option.some.inj same
    exact ⟨all t List.mem_cons_self, accepts⟩
  | case6 tried fuel t rest _ instr _ here ih =>
    refine ih (fun t' member => ?_) h
    rcases List.mem_append.1 member with next | later
    · exact step t instr (all t List.mem_cons_self) here t' next
    · exact all t' (.tail _ later)

/-- A program that begins with the condition that the text begins, and reaches its end only by the
condition that the text ends. -/
structure Tied (p : Program) : Prop where
  starts : ∃ next, p.instrs[p.start]? = some (.look .textStart next)
  ends : ∀ (pc : Nat) (instr : Instr), p.instrs[pc]? = some instr → ∀ target ∈ instr.targets,
    p.instrs[target]? = some .accept → instr = .look .textEnd target

section Search

variable {p : Program} {text : List Char}

/-- Behind the beginning of the text nothing is found. -/
theorem Tied.explore_late (tied : Tied p) (fuel : Nat) (tried : Tried) {spot : Spot}
    (late : spot.before.isSome) :
    (explore p fuel tried [⟨p.start, spot, []⟩]).1 = none := by
  obtain ⟨next, starts⟩ := tied.starts
  cases result : explore p fuel tried [⟨p.start, spot, []⟩] with
  | mk found tried' =>
    cases found with
    | none => rfl
    | some found =>
      have stuck (t : Thread) (instr : Instr) (first : t = ⟨p.start, spot, []⟩)
          (here : p.instrs[t.pc]? = some instr) (t' : Thread) (follows : t' ∈ t.follow instr) :
          t' = ⟨p.start, spot, []⟩ := by
        subst first
        obtain rfl := Option.some.inj (here.symm.trans starts)
        have never : Look.textStart.holds spot = false := by simpa [Look.holds] using late
        cases never.symm.trans ((Thread.follow_steps follows).looked _ _ rfl).1
      obtain ⟨rfl, accepts⟩ := explore_some (· = ⟨p.start, spot, []⟩) stuck (by simp) result
      cases starts.symm.trans accepts

/-- What is found ends with the text. -/
theorem Tied.explore_stop (tied : Tied p) {fuel : Nat} {tried tried' : Tried} {spot : Spot}
    {found : Thread} (h : explore p fuel tried [⟨p.start, spot, []⟩] = (some found, tried')) :
    found.spot.index = spot.index + spot.after.length := by
  let holds (t : Thread) : Prop :=
    t.spot.index + t.spot.after.length = spot.index + spot.after.length ∧
      (p.instrs[t.pc]? = some .accept → t.spot.after = [])
  have step (t : Thread) (instr : Instr) (before : holds t) (here : p.instrs[t.pc]? = some instr)
      (t' : Thread) (follows : t' ∈ t.follow instr) : holds t' := by
    have steps := Thread.follow_steps follows
    refine ⟨steps.length.trans before.1, fun accepts => ?_⟩
    have last := tied.ends t.pc instr here t'.pc steps.target accepts
    obtain ⟨ended, same⟩ := steps.looked _ _ last
    simpa [same, Look.holds] using ended
  have first : holds ⟨p.start, spot, []⟩ := by
    refine ⟨rfl, fun accepts => ?_⟩
    obtain ⟨next, starts⟩ := tied.starts
    cases starts.symm.trans accepts
  obtain ⟨⟨length, stops⟩, accepts⟩ := explore_some holds step (by simpa using first) h
  simpa [stops accepts] using length

theorem Tied.searchFrom_late (tied : Tied p) (fuel : Nat) (tried : Tried) (before : Char)
    (index : Nat) : searchFrom p fuel tried (some before) index text = none := by
  induction text generalizing tried before index with
  | nil =>
    have none := @tied.explore_late _ fuel tried ⟨index, some before, []⟩ rfl
    unfold searchFrom
    split
    · rename_i found
      simp [found] at none
    · rfl
  | cons c rest ih =>
    have none := @tied.explore_late _ fuel tried ⟨index, some before, c :: rest⟩ rfl
    unfold searchFrom
    split
    · rename_i found
      simp [found] at none
    · exact ih ..

/-- A match of a program that is tied to the ends of the text is all of the text. -/
theorem Tied.search (tied : Tied p) {m : Match} (h : p.search text = some m) :
    m.start = 0 ∧ m.stop = text.length := by
  unfold Program.search searchFrom at h
  split at h
  · rename_i t tried found
    rw [← Option.some.inj h]
    refine ⟨rfl, ?_⟩
    simpa using tied.explore_stop found
  · split at h
    · cases h
    · rw [tied.searchFrom_late] at h
      cases h

end Search

theorem compileSequence_append (es es' : List Expr) (next : Nat) (code : Array Instr) :
    compileSequence (es ++ es') next code =
      let after := compileSequence es' next code
      compileSequence es after.1 after.2 := by
  induction es with
  | nil => rfl
  | cons e es ih => simp [compileSequence, ih]

/-- The program of a sequence between the two ends of the text. -/
theorem tied_ofExpr (parts : List Expr) :
    Tied (.ofExpr (.sequence (.look .textStart :: (parts ++ [.look .textEnd])))) := by
  let base : Array Instr := #[.accept, .look .textEnd 0]
  have start : Behind base 1 (1, base) :=
    { entry := .inl rfl
      longer := Nat.le_refl _
      kept := fun _ _ => rfl
      leads := fun i outside instr found => by
        rw [Array.getElem?_eq_none outside] at found
        cases found }
  have inner := keeps_compileSequence parts 1 base start
  generalize compiled : compileSequence parts 1 base = added at inner
  have whole : Program.ofExpr (.sequence (.look .textStart :: (parts ++ [.look .textEnd]))) =
      ⟨added.2.push (.look .textStart added.1), added.2.size⟩ := by
    rw [← compiled]
    simp [Program.ofExpr, compile, compileSequence, compileSequence_append, emit, base]
  have behind : Behind base 1 (emit (.look .textStart added.1) added.2) :=
    inner.leading nofun rfl
  rw [whole]
  refine ⟨⟨added.1, by simp⟩, fun pc instr here target member accepts => ?_⟩
  -- Of all the instructions only the first one accepts.
  have low : target < base.size := Nat.not_le.1 fun high =>
    (behind.leads target high .accept accepts).1 rfl
  have first : base[target]? = some .accept := (behind.kept target low).symm.trans accepts
  have two : base.size = 2 := rfl
  obtain rfl | rfl : target = 0 ∨ target = 1 := by omega
  · rcases Nat.lt_or_ge pc base.size with inside | outside
    · have old : base[pc]? = some instr := (behind.kept pc inside).symm.trans here
      obtain rfl | rfl : pc = 0 ∨ pc = 1 := by omega
      · obtain rfl : Instr.accept = instr := Option.some.inj old
        cases member
      · exact (Option.some.inj old).symm
    · rcases (behind.leads pc outside instr here).2 0 member with goal | high
      · cases goal
      · exact absurd high (by decide)
  · cases first

namespace Expr

/-- A condition stays where it stands in a sequence. -/
theorem joinLiterals_concat_look (text : List Char) (es : List Expr) (kind : Look) :
    joinLiterals text (es ++ [.look kind]) = joinLiterals text es ++ [.look kind] := by
  fun_induction joinLiterals text es with
  | case1 text empty => simp [joinLiterals, empty]
  | case2 text some => simp [joinLiterals, some]
  | case3 text chars rest ih => simpa [joinLiterals] using ih
  | case4 text rest ih => simpa [joinLiterals] using ih
  | case5 text e rest notLiteral notEmpty ih => simp_all [joinLiterals]

theorem inSequence_between (es : List Expr) (first last : Look) :
    ∃ parts, inSequence (.look first :: (es ++ [.look last])) =
      .sequence (.look first :: (parts ++ [.look last])) := by
  refine ⟨joinLiterals [] (es.flatMap parts), ?_⟩
  have joined : joinLiterals [] ((.look first :: (es ++ [.look last])).flatMap parts) =
      .look first :: (joinLiterals [] (es.flatMap parts) ++ [.look last]) := by
    simp [parts, joinLiterals, joinLiterals_concat_look]
  unfold inSequence
  rw [joined]
  cases joinLiterals [] (es.flatMap parts) <;> rfl

end Expr

/-- The parts of a sequence get their meaning one after another. -/
theorem meanings_append {f f' : Flags} {parts parts' : List Syntax} {es : List Expr}
    (h : Syntax.meanings f (parts ++ parts') = .ok (es, f')) :
    ∃ before between after, Syntax.meanings f parts = .ok (before, between) ∧
      Syntax.meanings between parts' = .ok (after, f') ∧ es = before ++ after := by
  induction parts generalizing f es with
  | nil => exact ⟨[], f, es, rfl, h, rfl⟩
  | cons part parts ih =>
    obtain ⟨⟨e, first⟩, meant, others⟩ := bind_eq_ok_iff.1 h
    obtain ⟨⟨rest, last⟩, later, same⟩ := bind_eq_ok_iff.1 others
    obtain ⟨rfl, rfl⟩ := Prod.mk.inj (Except.ok.inj same)
    obtain ⟨before, between, after, earlier, ends, rfl⟩ := ih later
    refine ⟨e :: before, between, after, ?_, ends, rfl⟩
    simp [Syntax.meanings, meant, earlier, bind, Except.bind, pure, Except.pure]

/-- A pattern that begins at one end of the text and ends at the other. The flags that are set in it
do not make its end that of a line. -/
inductive BetweenEnds : Syntax → Prop where
  | of {parts : List Syntax}
    (ends : ∀ es f, Syntax.meanings {} parts = .ok (es, f) → f.multiLine = false) :
    BetweenEnds (.sequence (.assertion .lineStart :: (parts ++ [.assertion .lineEnd])))

theorem BetweenEnds.tied {parsed : Syntax} (between : BetweenEnds parsed) {e : Expr} {f : Flags}
    (meant : parsed.meaning {} = .ok (e, f)) : Tied (.ofExpr e) := by
  cases between with
  | @of parts ends =>
    obtain ⟨⟨es, f⟩, meanings, same⟩ := bind_eq_ok_iff.1 meant
    obtain ⟨rfl, -⟩ := Prod.mk.inj (Except.ok.inj same)
    obtain ⟨⟨first, f₀⟩, start, later⟩ := bind_eq_ok_iff.1 meanings
    obtain ⟨rfl, rfl⟩ := Prod.mk.inj (Except.ok.inj start)
    obtain ⟨⟨rest, f₁⟩, others, same⟩ := bind_eq_ok_iff.1 later
    obtain ⟨rfl, rfl⟩ := Prod.mk.inj (Except.ok.inj same)
    obtain ⟨before, between, last, inner, ended, rfl⟩ := meanings_append others
    have flags := ends before between inner
    have textEnd : Syntax.meanings between [.assertion .lineEnd] =
        .ok ([.look .textEnd], between) := by
      simp [Syntax.meanings, Syntax.meaning, Flags.assertion, flags, bind, Except.bind, pure,
        Except.pure]
    obtain ⟨rfl, -⟩ := Prod.mk.inj (Except.ok.inj (textEnd.symm.trans ended))
    obtain ⟨parts, normal⟩ := Expr.inSequence_between before .textStart .textEnd
    exact normal ▸ tied_ofExpr parts

end WebServer.Regex

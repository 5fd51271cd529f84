import WebServer.Proofs.Requests.Sections
import WebServer.Regex.Reader

/-!
# Reading a pattern inside a group

A pattern that can be read by itself is read alike with a parenthesis and a dollar sign behind it.
Both readings go side by side: `Agree` says of two readers that where both succeed they find the
same, and that their states still belong together. A comment may swallow what stands behind the
pattern; then the group is not closed and the second reading fails. The rules for binding carry this
through all readers up to `agree_branches`. So what is read of `^(?:` … `)$` is the pattern between
the two ends (`Syntax.read_enclosed`).
-/
namespace WebServer.Regex.Reader

/-- What stands behind a pattern: the end of its group, and that of the text. -/
def closing : List Char := [')', '$']

/-- Two readings where the first has something to read. -/
inductive Inside : State → State → Prop where
  | of (c : Char) (rest : List Char) (verbose : Bool) (groups : Nat) (names : List (List Char)) :
    Inside ⟨c :: rest, verbose, groups, names⟩ ⟨c :: (rest ++ closing), verbose, groups, names⟩

/-- Two readings of which the second has more behind its text, unless a comment swallowed it. -/
inductive Beside : State → State → Prop where
  | of (rest : List Char) (verbose : Bool) (groups : Nat) (names : List (List Char)) :
    Beside ⟨rest, verbose, groups, names⟩ ⟨rest ++ closing, verbose, groups, names⟩
  | swallowed (verbose : Bool) (groups : Nat) (names : List (List Char)) :
    Beside ⟨[], verbose, groups, names⟩ ⟨[], verbose, groups, names⟩

theorem Inside.beside {s s' : State} (h : Inside s s') : Beside s s' := by
  obtain ⟨c, rest, verbose, groups, names⟩ := h
  exact .of (c :: rest) ..

/-- Two readings of which the first is at its end. -/
inductive Ended : State → State → Prop where
  | of (verbose : Bool) (groups : Nat) (names : List (List Char)) :
    Ended ⟨[], verbose, groups, names⟩ ⟨closing, verbose, groups, names⟩

theorem Ended.beside {s s' : State} (h : Ended s s') : Beside s s' := by
  obtain ⟨verbose, groups, names⟩ := h
  exact .of [] ..

theorem Beside.verbose {s s' : State} (h : Beside s s') : s.verbose = s'.verbose := by
  cases h <;> rfl

/-- Where the branches of a group end, or of the pattern: in front of a parenthesis, which the first
reading does not have behind the pattern. -/
inductive Over : Bool → State → State → Prop where
  | group {s s' : State} (h : Inside s s') : Over true s s'
  | pattern {s s' : State} (h : Ended s s') : Over false s s'

/-- Where both readers succeed, they find the same and leave states that belong together. -/
def Agree {α : Type} (P Q : State → State → Prop) (f f' : Reader α) : Prop :=
  ∀ ⦃s s' : State⦄, P s s' → ∀ ⦃a a' : α⦄ ⦃t t' : State⦄,
    f s = .ok (a, t) → f' s' = .ok (a', t') → a = a' ∧ Q t t'

section Rules

variable {α β : Type} {P Q R : State → State → Prop} {f f' : Reader α} {g g' : α → Reader β}

theorem Agree.bind (first : Agree P Q f f') (next : ∀ a, Agree Q R (g a) (g' a)) :
    Agree P R (f >>= g) (f' >>= g') := by
  intro s s' h b b' u u' ran ran'
  obtain ⟨⟨a, t⟩, found, later⟩ := bind_eq_ok_iff.1 ran
  obtain ⟨⟨a', t'⟩, found', later'⟩ := bind_eq_ok_iff.1 ran'
  obtain ⟨rfl, after⟩ := first h found found'
  exact next a after later later'

/-- Readers that do succeed, with the same result. -/
theorem Agree.steps (h : ∀ s s', P s s' →
    ∃ a t t', f s = .ok (a, t) ∧ f' s' = .ok (a, t') ∧ Q t t') : Agree P Q f f' := by
  intro s s' related b b' u u' ran ran'
  obtain ⟨a, t, t', found, found', after⟩ := h s s' related
  obtain ⟨rfl, rfl⟩ := Prod.mk.inj (Except.ok.inj (found.symm.trans ran))
  obtain ⟨rfl, rfl⟩ := Prod.mk.inj (Except.ok.inj (found'.symm.trans ran'))
  exact ⟨rfl, after⟩

theorem Agree.pure (a : α) (h : ∀ s s', P s s' → Q s s') : Agree P Q (pure a) (pure a) :=
  .steps fun s s' related => ⟨a, s, s', rfl, rfl, h s s' related⟩

theorem Agree.done (a : α) : Agree P P (Pure.pure a) (Pure.pure a) := .pure a fun _ _ h => h

theorem Agree.beside (h : Agree Beside Q f f') : Agree Inside Q f f' :=
  fun _ _ related => h related.beside

/-- A reader never gives a result. -/
def Fails (f : Reader α) : Prop := ∀ s, ∃ fault, f s = .error fault

theorem fails_throw (fault : Fault) : Fails (throw fault : Reader α) := fun _ => ⟨fault, rfl⟩

theorem Fails.bind (h : Fails f) (g : α → Reader β) : Fails (f >>= g) := by
  intro s
  obtain ⟨fault, failed⟩ := h s
  exact ⟨fault, bind_eq_error_iff.2 (.inl failed)⟩

theorem Agree.left (h : Fails f) : Agree P Q f f' := by
  intro s s' _ a a' t t' ran _
  obtain ⟨fault, failed⟩ := h s
  cases failed.symm.trans ran

theorem Agree.right (h : Fails f') : Agree P Q f f' := by
  intro s s' _ a a' t t' _ ran
  obtain ⟨fault, failed⟩ := h s'
  cases failed.symm.trans ran

theorem Agree.fault (fault : Fault) : Agree P Q (throw fault) f' := .left (fails_throw fault)

theorem Agree.ite {c : Prop} [Decidable c] {k k' : Reader α} (yes : c → Agree P Q f f')
    (no : ¬ c → Agree P Q k k') : Agree P Q (if c then f else k) (if c then f' else k') := by
  by_cases h : c
  · simpa only [if_pos h] using yes h
  · simpa only [if_neg h] using no h

/-- A check behind which both readers go on. -/
theorem Agree.guard {c c' : Prop} [Decidable c] [Decidable c'] {fault fault' : Fault}
    {k k' : β → Reader α} (no : Agree P Q f f') :
    Agree P Q (if c then throw fault >>= k else f) (if c' then throw fault' >>= k' else f') := by
  by_cases h : c
  · rw [if_pos h]
    exact .left ((fails_throw fault).bind k)
  · by_cases h' : c'
    · rw [if_pos h']
      exact .right ((fails_throw fault').bind k')
    · rwa [if_neg h, if_neg h']

theorem Agree.get {g g' : State → Reader β}
    (h : ∀ s s', P s s' → Agree P R (g s) (g' s')) : Agree P R (get >>= g) (get >>= g') :=
  fun s s' related _ _ _ _ ran ran' => h s s' related related ran ran'

theorem Agree.set {s s' : State} (h : Q s s') : Agree P Q (set s) (set s') :=
  .steps fun _ _ _ => ⟨(), s, s', rfl, rfl, h⟩

theorem Agree.modify {change change' : State → State}
    (h : ∀ s s', P s s' → Q (change s) (change' s')) :
    Agree P Q (modify change) (modify change') :=
  .steps fun s s' related => ⟨(), change s, change' s', rfl, rfl, h s s' related⟩

/-- The next character, which both see while the first has something to read. -/
theorem Agree.peekInside {g g' : Option Char → Reader β}
    (more : ∀ c, Agree Inside R (g (some c)) (g' (some c))) :
    Agree Inside R (peek >>= g) (peek >>= g') := by
  rintro s s' ⟨c, rest, verbose, groups, names⟩ b b' t t' ran ran'
  exact more c (.of ..) ran ran'

theorem Agree.peek {g g' : Option Char → Reader β}
    (more : ∀ c, Agree Inside R (g (some c)) (g' (some c)))
    (last : Agree Ended R (g none) (g' (some ')')))
    (swallowed : Agree Beside R (g none) (g' none)) :
    Agree Beside R (peek >>= g) (peek >>= g') := by
  rintro s s' (⟨_ | ⟨c, rest⟩, verbose, groups, names⟩ | ⟨verbose, groups, names⟩)
    b b' t t' ran ran'
  · exact last (.of ..) ran ran'
  · exact more c (.of ..) ran ran'
  · exact swallowed (.swallowed ..) ran ran'

/-- Where the first reader needs a character, both have one. -/
theorem Agree.peekMore {g g' : Option Char → Reader β}
    (more : ∀ c, Agree Inside R (g (some c)) (g' (some c))) (needed : Fails (g none)) :
    Agree Beside R (Reader.peek >>= g) (Reader.peek >>= g') :=
  .peek more (.left needed) (.left needed)

end Rules

section Steps

/-- Two readings go on round by round, until one of them is out of fuel. -/
theorem rounds_induction {motive : Nat → Nat → Prop} (left : ∀ fuel', motive 0 fuel')
    (right : ∀ fuel, motive (fuel + 1) 0)
    (both : ∀ fuel fuel', motive fuel fuel' → motive (fuel + 1) (fuel' + 1)) :
    ∀ fuel fuel', motive fuel fuel'
  | 0, fuel' => left fuel'
  | fuel + 1, 0 => right fuel
  | fuel + 1, fuel' + 1 => both fuel fuel' (rounds_induction left right both fuel fuel')

theorem agree_skip : Agree Inside Beside skip skip :=
  .modify fun _ _ ⟨_, _, _, _, _⟩ => .of ..

theorem skipBlanks_append (inComment : Bool) (rest : List Char) :
    skipBlanks inComment (rest ++ closing) = skipBlanks inComment rest ++ closing ∨
      skipBlanks inComment rest = [] ∧ skipBlanks inComment (rest ++ closing) = [] := by
  induction rest generalizing inComment with
  | nil =>
    cases inComment
    · exact .inl (by decide +kernel)
    · exact .inr ⟨rfl, by decide +kernel⟩
  | cons c rest ih =>
    simp only [List.cons_append, skipBlanks]
    split
    · exact ih _
    · split
      · exact ih _
      · split
        · exact ih _
        · exact .inl rfl

theorem agree_space : Agree Beside Beside space space := by
  refine .modify fun s s' h => ?_
  rcases h with ⟨rest, _ | _, groups, names⟩ | ⟨_ | _, groups, names⟩
  · exact .of ..
  · rcases skipBlanks_append false rest with kept | ⟨none, none'⟩
    · simpa only [if_true, kept] using .of ..
    · simpa only [if_true, none, none'] using .swallowed ..
  · exact .swallowed ..
  · exact .swallowed ..

theorem agree_advance (fault : Fault) : Agree Inside Inside (advance fault) (advance fault) := by
  refine agree_skip.bind fun _ => agree_space.bind fun _ => ?_
  exact .peekMore (fun c => .done ()) (fails_throw fault)

/-- A text without a parenthesis cannot begin in what stands behind. -/
theorem isPrefixOf_append_closing {text : List Char} (noParen : ')' ∉ text) (rest : List Char) :
    text.isPrefixOf (rest ++ closing) = text.isPrefixOf rest := by
  induction rest generalizing text with
  | nil =>
    cases text with
    | nil => rfl
    | cons c text =>
      have other : c ≠ ')' := fun same => noParen (same ▸ List.mem_cons_self)
      simp [closing, List.isPrefixOf, other]
  | cons d rest ih =>
    cases text with
    | nil => rfl
    | cons c text =>
      simp [List.isPrefixOf, ih fun member => noParen (List.mem_cons_of_mem _ member)]

theorem skipIf_apply (text : List Char) (s : State) :
    skipIf text s = if text.isPrefixOf s.rest then
      .ok (true, { s with rest := s.rest.drop text.length }) else .ok (false, s) := by
  change (if text.isPrefixOf s.rest then do
    set { s with rest := s.rest.drop text.length }
    return true
    else return false : Reader Bool) s = _
  split <;> rfl

theorem agree_skipIf {text : List Char} (noParen : ')' ∉ text) :
    Agree Beside Beside (skipIf text) (skipIf text) := by
  refine .steps fun s s' h => ?_
  rw [skipIf_apply, skipIf_apply]
  rcases h with ⟨rest, verbose, groups, names⟩ | ⟨verbose, groups, names⟩
  · simp only [isPrefixOf_append_closing noParen]
    by_cases begins : text.isPrefixOf rest
    · have within := (List.isPrefixOf_iff_prefix.1 begins).length_le
      rw [if_pos begins, if_pos begins, List.drop_append_of_le_length within]
      exact ⟨_, _, _, rfl, rfl, .of ..⟩
    · rw [if_neg begins, if_neg begins]
      exact ⟨_, _, _, rfl, rfl, .of ..⟩
  · split
    · exact ⟨_, _, _, rfl, rfl, by simpa using .swallowed ..⟩
    · exact ⟨_, _, _, rfl, rfl, .swallowed ..⟩

theorem agree_hexDigits (count : Nat) (done : List Nat) :
    Agree Beside Beside (hexDigits count done) (hexDigits count done) := by
  induction count generalizing done with
  | zero => exact .done _
  | succ count ih =>
    refine .peekMore (fun c => ?_) (fails_throw _)
    dsimp only
    cases hexDigit? c with
    | none => exact .fault _
    | some d => exact agree_skip.bind fun _ => agree_space.bind fun _ => ih _

theorem agree_bracedHexDigits (fuel fuel' : Nat) (done : List Nat) :
    Agree Inside Beside (bracedHexDigits fuel done) (bracedHexDigits fuel' done) := by
  induction fuel, fuel' using rounds_induction generalizing done with
  | left => exact .fault _
  | right => exact .right (fails_throw _)
  | both fuel fuel' ih =>
    refine (agree_advance _).bind fun _ => .peekInside fun c => ?_
    refine .ite (fun _ => ?_) fun _ => ?_
    · exact agree_skip.bind fun _ => agree_space.bind fun _ => .done _
    · cases hexDigit? c with
      | none => exact .fault _
      | some d => exact ih _

theorem agree_hexChar (digits : List Nat) :
    Agree Beside Beside (hexChar digits) (hexChar digits) := by
  unfold hexChar
  cases scalar? (digits.foldl (fun n d => n * 16 + d) 0) with
  | none => exact .fault _
  | some c => exact .done _

theorem agree_hexEscape (fuel fuel' : Nat) (kind : Char) :
    Agree Inside Beside (hexEscape fuel kind) (hexEscape fuel' kind) := by
  refine (agree_advance _).bind fun _ => .peekInside fun c => ?_
  refine .ite (fun _ => ?_) fun _ => ?_
  · refine (agree_bracedHexDigits ..).bind fun digits => .guard ?_
    exact (agree_hexChar digits).bind fun c => .done _
  · refine ((agree_hexDigits ..).bind fun digits => ?_).beside
    exact (agree_hexChar digits).bind fun c => .done _

theorem agree_bracedName (fuel fuel' : Nat) (done : List Char) :
    Agree Inside Beside (bracedName fuel done) (bracedName fuel' done) := by
  induction fuel, fuel' using rounds_induction generalizing done with
  | left => exact .fault _
  | right => exact .right (fails_throw _)
  | both fuel fuel' ih =>
    refine (agree_advance _).bind fun _ => .peekInside fun c => ?_
    exact .ite (fun _ => agree_skip.bind fun _ => .done _) fun _ => ih _

theorem agree_unicodeClass (fuel fuel' : Nat) (negated : Bool) :
    Agree Inside Beside (unicodeClass fuel negated) (unicodeClass fuel' negated) := by
  refine (agree_advance _).bind fun _ => .peekInside fun c => ?_
  refine .ite (fun _ => ?_) fun _ => .ite (fun _ => .fault _) fun _ => ?_
  · refine (agree_bracedName ..).bind fun name => ?_
    cases cut? ['!', '='] [] name with
    | some pair => exact .done _
    | none =>
      dsimp only
      cases cut? [':'] [] name <|> cut? ['='] [] name with
      | some pair => exact .done _
      | none => exact .done _
  · exact agree_skip.bind fun _ => agree_space.bind fun _ => .done _

theorem agree_boundaryName (fuel fuel' : Nat) (done : List Char) :
    Agree Beside Beside (boundaryName fuel done) (boundaryName fuel' done) := by
  induction fuel, fuel' using rounds_induction generalizing done with
  | left => exact .fault _
  | right => exact .right (fails_throw _)
  | both fuel fuel' ih =>
    refine .peekMore (fun c => ?_) (fails_throw _)
    refine .ite (fun _ => ?_) fun _ => .ite (fun _ => ?_) fun _ => .fault _
    · exact agree_skip.bind fun _ => agree_space.bind fun _ => ih _
    · exact agree_skip.bind fun _ => .done _

theorem agree_boundary (fuel fuel' : Nat) :
    Agree Beside Beside (boundary fuel) (boundary fuel') := by
  refine .peek (fun c => ?_) (.pure _ fun _ _ => Ended.beside) (.done _)
  refine .ite (fun _ => .pure _ fun _ _ => Inside.beside) fun _ => .get fun s s' h => ?_
  refine (agree_advance _).bind fun _ => .peekInside fun c => ?_
  refine .ite (fun _ => ?_) fun _ => ((agree_boundaryName ..).bind fun name => ?_).beside
  · exact (Agree.set h.beside).bind fun _ => .done _
  · split
    · exact .done _
    · exact .done _
    · exact .done _
    · exact .done _
    · exact .fault _

theorem agree_escape (fuel fuel' : Nat) : Agree Inside Beside (escape fuel) (escape fuel') := by
  refine agree_skip.bind fun _ => .peekMore (fun c => ?_) (fails_throw _)
  refine .ite (fun _ => .fault _) fun _ => .ite (fun _ => ?_) fun _ =>
    .ite (fun _ => ?_) fun _ => ?_
  · exact (agree_hexEscape ..).bind fun _ => .done _
  · exact agree_unicodeClass ..
  · refine agree_skip.bind fun _ => .ite (fun _ => ?_) fun _ => ?_
    · exact (agree_boundary ..).bind fun _ => .done _
    · cases named? c with
      | some part => exact .done _
      | none =>
        refine .ite (fun _ => .done _) fun _ => ?_
        cases control? c with
        | some c => exact .done _
        | none => exact .fault _

theorem agree_setPart (fuel fuel' : Nat) : Agree Beside Beside (setPart fuel) (setPart fuel') := by
  refine .peekMore (fun c => ?_) (fails_throw _)
  refine .ite (fun _ => agree_escape ..) fun _ => ?_
  exact agree_skip.bind fun _ => .done _

theorem agree_setItem (part : Syntax) : Agree Beside Beside (setItem part) (setItem part) := by
  unfold setItem
  split
  · exact .done _
  · exact .done _
  · exact .done _
  · exact .fault _

theorem agree_setLiteral (part : Syntax) :
    Agree Beside Beside (setLiteral part) (setLiteral part) := by
  unfold setLiteral
  split
  · exact .done _
  · exact .fault _

theorem peekSecond_go_append (inComment : Bool) (rest : List Char) :
    peekSecond.go inComment (rest ++ closing) = (peekSecond.go inComment rest).or (some ')') := by
  induction rest generalizing inComment with
  | nil => cases inComment <;> decide +kernel
  | cons c rest ih =>
    simp only [List.cons_append, peekSecond.go]
    split
    · exact ih _
    · split
      · exact ih _
      · rfl

/-- What is passed over in search of a second character are blanks, and the mark of a comment. -/
theorem peekSecond_go_none {c : Char} {rest : List Char}
    (h : peekSecond.go false (c :: rest) = none) : Text.isBlank c ∨ c = '#' := by
  unfold peekSecond.go at h
  split at h
  · rename_i blank
    exact .inl blank
  · split at h
    · rename_i mark
      exact .inr (by simpa using mark)
    · cases h

/-- Both readings see alike whether a hyphen makes a range. -/
theorem Agree.peekSecond {β : Type} {R : State → State → Prop} {g g' : Option Char → Reader β}
    (h : ∀ second second', ((second = some ']' ∨ second = some '-') ↔
      (second' = some ']' ∨ second' = some '-')) → Agree Inside R (g second) (g' second')) :
    Agree Inside R (peekSecond >>= g) (peekSecond >>= g') := by
  rintro s s' ⟨c, rest, verbose, groups, names⟩ b b' t t' ran ran'
  refine h _ _ ?_ (.of ..) ran ran'
  cases verbose with
  | false => cases rest <;> simp [closing]
  | true =>
    simp only [List.tail_cons, if_true, peekSecond_go_append]
    cases inside : peekSecond.go false rest with
    | some d => rfl
    | none =>
      cases rest with
      | nil => simp [closing]
      | cons d rest =>
        have passed := peekSecond_go_none inside
        have bracket : d ≠ ']' := by
          rintro rfl
          exact absurd passed (by decide +kernel)
        have hyphen : d ≠ '-' := by
          rintro rfl
          exact absurd passed (by decide +kernel)
        simp [bracket, hyphen]

theorem agree_setRange (fuel fuel' : Nat) :
    Agree Beside Beside (setRange fuel) (setRange fuel') := by
  refine (agree_setPart ..).bind fun low => agree_space.bind fun _ => ?_
  refine .peekMore (fun c => ?_) (fails_throw _)
  refine .ite (fun _ => (agree_setItem low).beside) fun _ => ?_
  refine .peekSecond fun second second' same => ?_
  by_cases single : second = some ']' ∨ second = some '-'
  · rw [if_pos single, if_pos (same.1 single)]
    exact (agree_setItem low).beside
  · rw [if_neg single, if_neg (mt same.2 single)]
    refine (agree_advance _).bind fun _ => (Agree.bind (agree_setPart ..) fun high => ?_).beside
    refine (agree_setLiteral low).bind fun low => (agree_setLiteral high).bind fun high => ?_
    exact .guard (.done _)

theorem agree_leadingHyphens (fuel fuel' : Nat) (done : List SetSyntax) :
    Agree Inside Inside (leadingHyphens fuel done) (leadingHyphens fuel' done) := by
  induction fuel, fuel' using rounds_induction generalizing done with
  | left => exact .fault _
  | right => exact .right (fails_throw _)
  | both fuel fuel' ih =>
    refine .peekInside fun c => .ite (fun _ => ?_) fun _ => .done _
    exact (agree_advance _).bind fun _ => ih _

theorem agree_openClass (fuel fuel' : Nat) :
    Agree Inside Inside (openClass fuel) (openClass fuel') := by
  refine (agree_advance _).bind fun _ => .peekInside fun c => ?_
  refine .ite (fun _ => (agree_advance _).bind fun _ => ?_) fun _ => ?_
  all_goals
    refine (agree_leadingHyphens ..).bind fun items => .peekInside fun c => ?_
    exact .ite (fun _ => (agree_advance _).bind fun _ => .done _) fun _ => .done _

/-- A span up to a mark ends within the text, or the mark is not there. -/
theorem span_closing {mark : Char} (other : mark ∉ closing) (text : List Char) :
    (∃ name rest, text.span (· != mark) = (name, mark :: rest) ∧
      (text ++ closing).span (· != mark) = (name, mark :: (rest ++ closing))) ∨
    text.span (· != mark) = (text, []) ∧
      (text ++ closing).span (· != mark) = (text ++ closing, []) := by
  by_cases member : mark ∈ text
  · obtain ⟨name, rest, rfl, first⟩ := List.eq_append_cons_of_mem member
    have before (more : List Char) :
        (name ++ mark :: more).span (· != mark) = (name, mark :: more) :=
      Http.Head.span_append (fun c inside => by simpa using ne_of_mem_of_not_mem inside first)
        (by simp)
    refine .inl ⟨name, rest, before rest, ?_⟩
    rw [List.append_assoc, List.cons_append, before]
  · have whole (more : List Char) (absent : mark ∉ more) :
        more.span (· != mark) = (more, []) := by
      have all : ∀ c ∈ more, (c != mark) = true := fun c inside => by
        simpa using ne_of_mem_of_not_mem inside absent
      rw [List.span_eq_takeWhile_dropWhile, List.takeWhile_eq_self_iff.2 all,
        List.dropWhile_eq_nil_iff.2 all]
    exact .inr ⟨whole _ member, whole _ (by simp [member, other])⟩

theorem asciiName?_append (negated : Bool) (text : List Char) :
    asciiName? negated (text ++ closing) =
      (asciiName? negated text).map fun found => (found.1, found.2 ++ closing) := by
  rcases @span_closing ':' (by decide) text with ⟨name, rest, alone, enclosed⟩ | ⟨alone, enclosed⟩
  · simp only [asciiName?, alone, enclosed]
    rcases rest with _ | ⟨c, rest⟩
    · rfl
    · by_cases bracket : c = ']'
      · subst bracket
        simp [Option.map_map, Function.comp_def]
      · simp [bracket]
  · simp only [asciiName?, alone, enclosed]
    rfl

theorem asciiClass?_append (text : List Char) :
    asciiClass? (text ++ closing) =
      (asciiClass? text).map fun found => (found.1, found.2 ++ closing) := by
  fun_cases asciiClass? text with
  | case1 rest => exact asciiName?_append true rest
  | case2 rest notNegated =>
    have same :
        asciiClass? ('[' :: ':' :: rest ++ closing) = asciiName? false (rest ++ closing) := by
      rcases rest with _ | ⟨c, rest⟩
      · rfl
      · have other : c ≠ '^' := by
          rintro rfl
          exact notNegated rest rfl
        simp [asciiClass?, other]
    rw [same, asciiName?_append]
  | case3 _ _ notClass =>
    rcases text with _ | ⟨c, _ | ⟨d, rest⟩⟩
    · rfl
    · simp [asciiClass?, closing]
    · have other : c = '[' → d ≠ ':' := by
        rintro rfl rfl
        exact notClass rest rfl
      simp only [List.cons_append, asciiClass?]
      split <;> simp_all

theorem agree_setItems (fuel fuel' : Nat) (left : Option (SetOp × SetSyntax))
    (items : List SetSyntax) :
    Agree Beside Beside (setItems fuel left items) (setItems fuel' left items) := by
  induction fuel, fuel' using rounds_induction generalizing left items with
  | left => exact .fault _
  | right => exact .right (fails_throw _)
  | both fuel fuel' ih =>
    refine agree_space.bind fun _ => .peekMore (fun c => ?_) (fails_throw _)
    refine .ite (fun _ => .get fun s s' h => ?_) fun _ => .ite (fun _ => ?_) fun _ => ?_
    · obtain ⟨c, rest, verbose, groups, names⟩ := h
      simp only [← List.cons_append, asciiClass?_append]
      cases asciiClass? (c :: rest) with
      | some found => exact (Agree.set (.of ..)).bind fun _ => ih ..
      | none =>
        refine (agree_openClass ..).bind fun head => (Agree.bind (ih ..) fun inner => ?_).beside
        exact ih ..
    · exact agree_skip.bind fun _ => .done _
    · refine ((agree_skipIf (by decide)).bind fun _ => .ite (fun _ => ih ..) fun _ => ?_).beside
      refine (agree_skipIf (by decide)).bind fun _ => .ite (fun _ => ih ..) fun _ => ?_
      refine (agree_skipIf (by decide)).bind fun _ => .ite (fun _ => ih ..) fun _ => ?_
      exact (agree_setRange ..).bind fun item => ih ..

theorem agree_setClass (fuel fuel' : Nat) :
    Agree Inside Beside (setClass fuel) (setClass fuel') := by
  refine (agree_openClass ..).bind fun head => ?_
  refine (Agree.bind (agree_setItems ..) fun inner => ?_).beside
  exact .done _

theorem agree_groupName : Agree Beside Beside groupName groupName := by
  refine .get fun s s' h => ?_
  rcases h with ⟨rest, verbose, groups, names⟩ | ⟨verbose, groups, names⟩
  · rcases @span_closing '>' (by decide) rest with ⟨name, after, alone, enclosed⟩ | ⟨alone, -⟩
    · simp only [alone, enclosed]
      cases name with
      | nil => exact .fault _
      | cons first others => exact .guard (.guard (.set (.of ..)))
    · simp only [alone]
      cases rest with
      | nil => exact .fault _
      | cons first others => exact .fault _
  · exact .fault _

theorem agree_nextIndex : Agree Beside Beside nextIndex nextIndex := by
  refine .steps fun s s' h => ?_
  rcases h with ⟨rest, verbose, groups, names⟩ | ⟨verbose, groups, names⟩
  · exact ⟨_, _, _, rfl, rfl, .of ..⟩
  · exact ⟨_, _, _, rfl, rfl, .swallowed ..⟩

theorem agree_flags (fuel fuel' : Nat) (negated dangling : Bool) (done : FlagChange) :
    Agree Beside Inside (flags fuel negated dangling done) (flags fuel' negated dangling done) := by
  induction fuel, fuel' using rounds_induction generalizing negated dangling done with
  | left => exact .fault _
  | right => exact .right (fails_throw _)
  | both fuel fuel' ih =>
    refine .peekMore (fun c => ?_) (fails_throw _)
    refine .ite (fun _ => .ite (fun _ => .fault _) fun _ => .done _) fun _ => ?_
    refine .ite (fun _ => .guard (agree_skip.bind fun _ => ih ..)) fun _ => ?_
    cases flag? c with
    | none => exact .fault _
    | some flag => exact .guard (agree_skip.bind fun _ => ih ..)

theorem agree_groupHead (fuel fuel' : Nat) :
    Agree Inside Beside (groupHead fuel) (groupHead fuel') := by
  have plain : Agree Beside Beside (skipIf ['?', 'P', '<'] <||> skipIf ['?', '<'])
      (skipIf ['?', 'P', '<'] <||> skipIf ['?', '<']) := by
    refine (agree_skipIf (by decide)).bind fun found => ?_
    cases found with
    | true => exact .done _
    | false => exact agree_skipIf (by decide)
  refine agree_skip.bind fun _ => agree_space.bind fun _ => .get fun s s' _ => .guard ?_
  refine plain.bind fun named => .ite (fun _ => ?_) fun _ => ?_
  · exact agree_nextIndex.bind fun index => agree_groupName.bind fun _ => .done _
  · refine (agree_skipIf (by decide)).bind fun special => .ite (fun _ => ?_) fun _ => ?_
    · refine (agree_flags ..).bind fun change => .peekInside fun last => agree_skip.bind fun _ => ?_
      exact .ite (fun _ => .guard (.done _)) fun _ => .done _
    · exact agree_nextIndex.bind fun index => .done _

theorem agree_skipBlanksAround (fuel fuel' : Nat) (all : Bool) :
    Agree Beside Beside (skipBlanksAround fuel all) (skipBlanksAround fuel' all) := by
  induction fuel, fuel' using rounds_induction with
  | left => exact .fault _
  | right => exact .right (fails_throw _)
  | both fuel fuel' ih =>
    refine .peek (fun c => ?_) (.pure _ fun _ _ => Ended.beside) (.done _)
    refine .ite (fun _ => agree_skip.bind fun _ => ?_) fun _ => .pure _ fun _ _ => Inside.beside
    exact .ite (fun _ => agree_space.bind fun _ => ih) fun _ => ih

theorem agree_decimalDigits (fuel fuel' : Nat) (done : List Char) :
    Agree Beside Beside (decimalDigits fuel done) (decimalDigits fuel' done) := by
  induction fuel, fuel' using rounds_induction generalizing done with
  | left => exact .fault _
  | right => exact .right (fails_throw _)
  | both fuel fuel' ih =>
    refine .peek (fun c => ?_) (.pure _ fun _ _ => Ended.beside) (.done _)
    refine .ite (fun _ => ?_) fun _ => .pure _ fun _ _ => Inside.beside
    exact agree_skip.bind fun _ => agree_space.bind fun _ => ih ..

theorem agree_decimal (fuel fuel' : Nat) : Agree Beside Beside (decimal fuel) (decimal fuel') := by
  refine (agree_skipBlanksAround ..).bind fun _ => (agree_decimalDigits ..).bind fun digits => ?_
  refine (agree_skipBlanksAround ..).bind fun _ => ?_
  exact .ite (fun _ => .done _) fun _ => .guard (.done _)

theorem agree_operand (parts : List Syntax) :
    Agree Inside Inside (operand parts) (operand parts) := by
  unfold operand
  split
  · exact .fault _
  · exact .fault _
  · exact .fault _
  · exact .done _

theorem agree_greedy : Agree Beside Beside greedy greedy :=
  (agree_skipIf (by decide)).bind fun _ => .done _

theorem agree_count (fuel fuel' : Nat) : Agree Inside Beside (count fuel) (count fuel') := by
  refine (agree_advance _).bind fun _ => (Agree.bind (agree_decimal ..) fun min => ?_).beside
  refine .peekMore (fun c => .ite (fun _ => ?_) fun _ => ?_) (fails_throw _)
  · refine (agree_advance _).bind fun _ => ?_
    cases min with
    | none => exact .fault _
    | some min =>
      refine .peekInside fun c => .ite (fun _ => .pure _ fun _ _ => Inside.beside) fun _ => ?_
      refine (Agree.bind (agree_decimal ..) fun max => ?_).beside
      cases max with
      | none => exact .fault _
      | some max => exact .guard (.done _)
  · cases min with
    | none => exact .fault _
    | some min => exact .pure _ fun _ _ => Inside.beside

theorem agree_repeated (fuel fuel' : Nat) (c : Char) (part : Syntax) :
    Agree Inside Beside (repeated fuel c part) (repeated fuel' c part) := by
  refine .ite (fun _ => ?_) fun _ => ?_
  · refine (agree_count ..).bind fun bounds => .peekMore (fun c => .guard ?_) ?_
    · refine agree_skip.bind fun _ => agree_space.bind fun _ => agree_greedy.bind fun _ => .done _
    · exact (fails_throw _).bind _
  · exact agree_skip.bind fun _ => agree_greedy.bind fun _ => .done _

theorem agree_verbose (verbose : Bool) :
    Agree Beside Beside (modify ({ · with verbose })) (modify ({ · with verbose })) := by
  refine .modify fun s s' h => ?_
  cases h
  · exact .of ..
  · exact .swallowed ..

/-- Stepping over the parenthesis that ends a group. -/
theorem agree_close (verbose : Bool) :
    Agree (Over true) Beside (modify fun s => { s with verbose, rest := s.rest.drop 1 })
      (modify fun s => { s with verbose, rest := s.rest.drop 1 }) := by
  refine .modify fun s s' h => ?_
  obtain ⟨c, rest, verbose, groups, names⟩ | _ := h
  exact .of ..

theorem agree_branches (fuel fuel' : Nat) (nested : Bool) (done parts : List Syntax) :
    Agree Beside (Over nested) (branches fuel nested done parts)
      (branches fuel' true done parts) := by
  induction fuel, fuel' using rounds_induction generalizing nested done parts with
  | left => exact .fault _
  | right => exact .right (fails_throw _)
  | both fuel fuel' ih =>
    -- Of two readings that are both at the end of their text, the second is still in its group.
    refine agree_space.bind fun _ => .peek (fun c => ?_) ?_ (.right (fails_throw _))
    · refine .ite (fun _ => ?_) fun _ => .ite (fun _ => ?_) fun _ => .ite (fun _ => ?_) fun _ =>
        .ite (fun _ => ?_) fun _ => .ite (fun _ => ?_) fun _ => .ite (fun _ => ?_) fun _ => ?_
      · refine (agree_groupHead ..).bind fun head => .get fun s s' h => ?_
        rw [h.verbose]
        cases head with
        | flags change => exact (agree_verbose _).bind fun _ => ih ..
        | plain change =>
          refine (agree_verbose _).bind fun _ => (ih true [] []).bind fun body => ?_
          exact (agree_close _).bind fun _ => ih ..
        | capture index =>
          refine (ih true [] []).bind fun body => ?_
          exact (agree_close _).bind fun _ => ih ..
      · cases nested with
        | true => exact .pure _ fun _ _ => .group
        | false => exact .fault _
      · exact agree_skip.bind fun _ => ih ..
      · exact (agree_setClass ..).bind fun part => ih ..
      · refine (agree_operand parts).bind fun found => ?_
        exact (agree_repeated ..).bind fun part => ih ..
      · exact (agree_escape ..).bind fun part => ih ..
      · exact agree_skip.bind fun _ => ih ..
    · cases nested with
      | true => exact .fault _
      | false => exact .pure _ fun _ _ => .pattern

end Steps

/-- From the opening of the group the body is read, then what stands behind it. -/
theorem branches_opening (fuel : Nat) (text : List Char) :
    branches (fuel + 3) false [] [] { rest := '^' :: '(' :: '?' :: ':' :: text } =
      (do
        let body ← branches (fuel + 1) true [] []
        modify fun s => { s with verbose := false, rest := s.rest.drop 1 }
        branches (fuel + 1) false [] [.group [] body, .assertion .lineStart] : Reader Syntax)
        { rest := text } :=
  rfl

theorem branches_ending (fuel groups : Nat) (names : List (List Char)) (parts : List Syntax) :
    branches (fuel + 2) false [] parts ⟨['$'], false, groups, names⟩ =
      .ok (.ofBranches [.ofParts (.assertion .lineEnd :: parts).reverse],
        ⟨[], false, groups, names⟩) :=
  rfl

end WebServer.Regex.Reader

namespace WebServer.Regex

theorem Syntax.branches_of_read {text : List Char} {parsed : Syntax}
    (h : Syntax.read text = .ok parsed) :
    ∃ s, Reader.branches (text.length + 1) false [] [] { rest := text } = .ok (parsed, s) := by
  obtain ⟨⟨found, s⟩, read, shallow⟩ := bind_eq_ok_iff.1 h
  refine ⟨s, ?_⟩
  dsimp only at shallow
  split at shallow
  · cases shallow
  · rwa [← Except.ok.inj shallow]

/-- What is read of a pattern in a group between two ends, if it can be read by itself. -/
theorem Syntax.read_enclosed {text : List Char} {body parsed : Syntax}
    (alone : Syntax.read text = .ok body)
    (enclosed : Syntax.read ('^' :: '(' :: '?' :: ':' :: (text ++ Reader.closing)) = .ok parsed) :
    parsed = .sequence [.assertion .lineStart, .group [] body, .assertion .lineEnd] := by
  obtain ⟨t, read⟩ := branches_of_read alone
  obtain ⟨u, read'⟩ := branches_of_read enclosed
  have fuel : ('^' :: '(' :: '?' :: ':' :: (text ++ Reader.closing)).length + 1 =
      text.length + 4 + 3 := by
    simp [Reader.closing]
  rw [fuel, Reader.branches_opening] at read'
  obtain ⟨⟨body', t'⟩, inside, behind⟩ := bind_eq_ok_iff.1 read'
  obtain ⟨rfl, ends⟩ := Reader.agree_branches _ _ false [] [] (.of text ..) read inside
  obtain _ | ⟨verbose, groups, names⟩ := ends
  have ended := Reader.branches_ending (text.length + 3) groups names
    [.group [] body, .assertion .lineStart]
  exact (Prod.mk.inj (Except.ok.inj (behind.symm.trans ended))).1

end WebServer.Regex

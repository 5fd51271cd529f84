import WebServer.Proofs.Requests.PartHeaders

/-!
# How parts tile a body

A body that can be read is tiled by its parts: behind the first delimiter there is one part after
another, each of them CRLF, a header block up to the first CRLFCRLF and a content up to the first
separator, and behind the last one two hyphens. `Tiled` says so without reading anything, and `read`
gives the parts of a body exactly if they tile it (`read_eq_ok_iff`).
-/
namespace WebServer

namespace Bytes

/-- A text has the mark, and has it first between these two pieces. -/
structure First (mark text before behind : Bytes) : Prop where
  whole : text = before ++ (mark ++ behind)
  earliest : ∀ a b, text = a ++ (mark ++ b) → before.length ≤ a.length

/-- A cut is made at the first mark and nowhere else. -/
theorem cut?_eq_some_iff {mark text before behind : Bytes} :
    cut? mark text = some (before, behind) ↔ First mark text before behind := by
  have early (a b : Bytes) : ∃ a' b', cut? mark (a ++ (mark ++ b)) = some (a', b') ∧
      a'.length ≤ a.length := by
    obtain ⟨a', b', found, early⟩ := exists_cut? mark a b
    exact ⟨a', b', by rwa [List.append_assoc] at found, early⟩
  constructor
  · intro found
    refine ⟨by rw [append_of_cut? found, List.append_assoc], ?_⟩
    rintro a b rfl
    obtain ⟨a', b', found', early⟩ := early a b
    obtain ⟨rfl, rfl⟩ := Prod.mk.inj (Option.some.inj (found.symm.trans found'))
    exact early
  · rintro ⟨rfl, earliest⟩
    obtain ⟨a, b, found, early⟩ := early before behind
    have whole : before ++ (mark ++ behind) = a ++ (mark ++ b) := by
      rw [append_of_cut? found, List.append_assoc]
    have length : before.length = a.length := Nat.le_antisymm (earliest a b whole) early
    obtain ⟨rfl, same⟩ := List.append_inj whole length
    obtain rfl := List.append_cancel_left same
    exact found

/-- A mark whose first byte does not come back in it cannot begin before the end of a text that
lacks it. -/
theorem first_of_not_infix {m : UInt8} {mark a : Bytes} (once : m ∉ mark)
    (none : ¬ (m :: mark) <:+: a) (rest : Bytes) :
    First (m :: mark) (a ++ (m :: mark ++ rest)) a rest := by
  refine ⟨rfl, fun b behind whole => ?_⟩
  by_contra early
  rcases List.append_eq_append_iff.1 whole with ⟨more, longer, -⟩ | ⟨between, a_eq, same⟩
  · rw [longer, List.length_append] at early
    omega
  · -- The mark begins at `b`, and ends within `a` or behind its end.
    rcases List.append_eq_append_iff.1 same with ⟨inside, between_eq, -⟩ | ⟨cut, mark_eq, tail⟩
    · apply none
      rw [a_eq, between_eq]
      exact ⟨b, inside, by simp⟩
    · have begun : between ≠ [] := by
        rintro rfl
        rw [a_eq, List.append_nil] at early
        exact early (Nat.le_refl _)
      obtain ⟨first, between, rfl⟩ := List.exists_cons_of_ne_nil begun
      obtain ⟨rfl, mark_eq⟩ := List.cons.inj mark_eq
      cases cut with
      | nil =>
        rw [List.append_nil] at mark_eq
        apply none
        rw [a_eq, mark_eq]
        exact (List.suffix_append _ _).isInfix
      | cons c cut =>
        obtain ⟨rfl, -⟩ := List.cons.inj tail
        obtain ⟨-, mark_eq⟩ := List.cons.inj mark_eq
        exact once (mark_eq ▸ List.mem_append_right _ List.mem_cons_self)

end Bytes

namespace Http.Multipart

/-- What is there, or else a fault. -/
def orFault {α : Type} (fault : MultipartFault) : Option α → Except MultipartFault α
  | none => .error fault
  | some found => .ok found

theorem orFault_eq_ok_iff {α : Type} {fault : MultipartFault} {found? : Option α} {found : α} :
    orFault fault found? = .ok found ↔ found? = some found := by
  cases found? <;> simp [orFault]

/-- The part behind a delimiter, and what is behind the separator at its end. -/
def readPart (separator rest : Bytes) : Except MultipartFault ((String × Part) × Bytes) :=
  if crlf.isPrefixOf rest then do
    let (block, afterHead) ← orFault .unterminatedHeaders (Bytes.cut? crlfcrlf (rest.drop 2))
    let headers ← readHeaders block
    let (content, behind) ← orFault .unterminatedPart (Bytes.cut? separator afterHead)
    let name ← orFault .unnamedPart
      ((headers.get? "content-disposition").bind (parameter? · "name"))
    return ((name, ⟨headers, content⟩), behind)
  else .error .noLineEnd

variable {separator rest behind : Bytes} {entry : String × Part}
  {done parts all : List (String × Part)}

/-- The parts are read one by one, up to two hyphens. -/
theorem readParts_eq (separator : Bytes) (done : List (String × Part)) (rest : Bytes) :
    readParts separator done rest =
      if [45, 45].isPrefixOf rest then .ok done.reverse
      else readPart separator rest >>= fun next => readParts separator (next.1 :: done) next.2 := by
  rw [readParts.eq_def]
  split
  · rfl
  split
  · rename_i text _
    have begins : crlf.isPrefixOf (13 :: 10 :: text) = true := by simp [crlf]
    rw [readPart, if_pos begins, List.drop_succ_cons, List.drop_succ_cons, List.drop_zero]
    -- The remaining cases are the steps of `readPart`, each with its fault and its success.
    split
    · rename_i uncut
      simp only [uncut, orFault, error_bind]
    rename_i block afterHead cut
    simp only [cut, orFault, ok_bind]
    split
    · rename_i fault unread
      simp only [unread, error_bind]
    rename_i headers read
    simp only [read, ok_bind]
    split
    · rename_i uncut
      simp only [uncut, error_bind]
    rename_i content behind cut
    simp only [cut, ok_bind]
    split
    · rename_i unnamed
      simp only [unnamed, error_bind]
    · rename_i name named
      simp only [named, ok_bind]
      rfl
  · rename_i other
    have begins : ¬ crlf.isPrefixOf rest = true := by
      intro begins
      obtain ⟨text, rfl⟩ := List.isPrefixOf_iff_prefix.1 begins
      exact other text rfl
    rw [readPart, if_neg begins]
    rfl

/-- A part with its name, as it stands behind a delimiter, and what follows the separator at its
end. -/
inductive PartOn (separator : Bytes) : Bytes → String × Part → Bytes → Prop where
  | of {text block afterHead content behind : Bytes} {headers : Headers} {name : String}
    (head : Bytes.First crlfcrlf text block afterHead) (held : HeaderBlock block headers)
    (ends : Bytes.First separator afterHead content behind)
    (named : (headers.get? "content-disposition").bind (parameter? · "name") = some name) :
    PartOn separator (crlf ++ text) (name, ⟨headers, content⟩) behind

/-- Parts one behind another, up to the two hyphens behind the last delimiter. -/
inductive Tiles (separator : Bytes) : Bytes → List (String × Part) → Prop where
  | closed (epilogue : Bytes) : Tiles separator ([45, 45] ++ epilogue) []
  | part {rest behind : Bytes} {entry : String × Part} {parts : List (String × Part)}
    (first : PartOn separator rest entry behind) (others : Tiles separator behind parts) :
    Tiles separator rest (entry :: parts)

/-- Behind its first delimiter a body is made of these parts. -/
def Tiled (boundary : String) (body : Bytes) (parts : List (String × Part)) : Prop :=
  ∃ preamble rest, Bytes.First (Text.encode ("--" ++ boundary)) body preamble rest ∧
    Tiles (crlf ++ Text.encode ("--" ++ boundary)) rest parts

theorem readPart_eq_ok_iff :
    readPart separator rest = .ok (entry, behind) ↔ PartOn separator rest entry behind := by
  unfold readPart
  constructor
  · intro h
    split at h
    · rename_i begins
      obtain ⟨text, rfl⟩ := List.isPrefixOf_iff_prefix.1 begins
      obtain ⟨⟨block, afterHead⟩, head, h⟩ := bind_eq_ok_iff.1 h
      obtain ⟨headers, held, h⟩ := bind_eq_ok_iff.1 h
      obtain ⟨⟨content, behind'⟩, ends, h⟩ := bind_eq_ok_iff.1 h
      obtain ⟨name, named, h⟩ := bind_eq_ok_iff.1 h
      obtain ⟨rfl, rfl⟩ := Prod.mk.inj (Except.ok.inj h)
      exact .of (Bytes.cut?_eq_some_iff.1 (orFault_eq_ok_iff.1 head))
        (readHeaders_eq_ok_iff.1 held) (Bytes.cut?_eq_some_iff.1 (orFault_eq_ok_iff.1 ends))
        (orFault_eq_ok_iff.1 named)
    · cases h
  · rintro ⟨head, held, ends, named⟩
    rw [if_pos (List.isPrefixOf_iff_prefix.2 (List.prefix_append _ _))]
    refine bind_eq_ok_iff.2 ⟨_, orFault_eq_ok_iff.2 (Bytes.cut?_eq_some_iff.2 head), ?_⟩
    refine bind_eq_ok_iff.2 ⟨_, readHeaders_eq_ok_iff.2 held, ?_⟩
    refine bind_eq_ok_iff.2 ⟨_, orFault_eq_ok_iff.2 (Bytes.cut?_eq_some_iff.2 ends), ?_⟩
    exact bind_eq_ok_iff.2 ⟨_, orFault_eq_ok_iff.2 named, rfl⟩

/-- A part begins with CRLF, so it is not the end of the body. -/
theorem PartOn.not_closed (on : PartOn separator rest entry behind) :
    ¬ [45, 45].isPrefixOf rest = true := by
  cases on
  simp [crlf]

theorem PartOn.length_lt (on : PartOn separator rest entry behind) :
    behind.length < rest.length := by
  cases on with
  | of head held ends named =>
    have head := congrArg List.length head.whole
    have ends := congrArg List.length ends.whole
    simp only [List.length_append] at head ends ⊢
    have start : crlf.length = 2 := rfl
    omega

/-- The parts that tile a text are read. -/
theorem Tiles.readParts (tiles : Tiles separator rest parts) (done : List (String × Part)) :
    readParts separator done rest = .ok (done.reverse ++ parts) := by
  induction tiles generalizing done with
  | closed epilogue =>
    rw [readParts_eq, if_pos (List.isPrefixOf_iff_prefix.2 (List.prefix_append _ _)),
      List.append_nil]
  | part first others ih =>
    rw [readParts_eq, if_neg first.not_closed, readPart_eq_ok_iff.2 first, ok_bind, ih]
    simp

/-- Only parts that tile a text are read. -/
theorem exists_tiles_of_readParts (read : readParts separator done rest = .ok all) :
    ∃ parts, Tiles separator rest parts ∧ all = done.reverse ++ parts := by
  induction size : rest.length using Nat.strong_induction_on generalizing rest done with
  | h size ih =>
    rw [readParts_eq] at read
    split at read
    · rename_i closing
      obtain ⟨epilogue, rfl⟩ := List.isPrefixOf_iff_prefix.1 closing
      obtain rfl := Except.ok.inj read
      exact ⟨[], .closed epilogue, (List.append_nil _).symm⟩
    · obtain ⟨⟨entry, behind⟩, first, later⟩ := bind_eq_ok_iff.1 read
      have on := readPart_eq_ok_iff.1 first
      obtain ⟨parts, others, rfl⟩ := ih behind.length (size ▸ on.length_lt) later rfl
      exact ⟨entry :: parts, .part on others, by simp⟩

theorem read_eq (body : Bytes) (boundary : String) :
    read body boundary =
      orFault .noBoundary (Bytes.cut? (Text.encode ("--" ++ boundary)) body) >>= fun cut =>
        readParts (crlf ++ Text.encode ("--" ++ boundary)) [] cut.2 := by
  unfold read
  simp only
  split
  · rename_i uncut
    rw [uncut, orFault, error_bind]
  · rename_i cut
    rw [cut, orFault, ok_bind]

/-- A body is read exactly if parts tile it, and those parts are read. -/
theorem read_eq_ok_iff {body : Bytes} {boundary : String} :
    read body boundary = .ok parts ↔ Tiled boundary body parts := by
  rw [read_eq]
  constructor
  · intro h
    obtain ⟨⟨preamble, rest⟩, cut, later⟩ := bind_eq_ok_iff.1 h
    obtain ⟨parts, tiles, rfl⟩ := exists_tiles_of_readParts later
    exact ⟨preamble, rest, Bytes.cut?_eq_some_iff.1 (orFault_eq_ok_iff.1 cut), tiles⟩
  · rintro ⟨preamble, rest, begins, tiles⟩
    rw [Bytes.cut?_eq_some_iff.2 begins, orFault, ok_bind]
    exact tiles.readParts []

end Http.Multipart
end WebServer

import Mathlib.Data.List.Forall2
import WebServer.Proofs.Requests.Elements
import WebServer.Proofs.Responses.Delimited
import WebServer.Proofs.Text.Raw
import WebServer.Http.Multipart

/-!
# The header block of a part

A header block is a text of lines with CRLF between them, and each line is a name, a colon and a
value. `HeaderBlock` says which fields a block holds without reading it, and `readHeaders` finds
just those (`readHeaders_eq_ok_iff`).
-/
namespace WebServer

theorem mapM_eq_ok_iff {ε α β : Type} {f : α → Except ε β} {l : List α} {results : List β} :
    l.mapM f = .ok results ↔ List.Forall₂ (fun x y => f x = .ok y) l results := by
  induction l generalizing results with
  | nil =>
    rw [List.mapM_nil]
    constructor
    · rintro ⟨⟩
      exact .nil
    · rintro ⟨⟩
      rfl
  | cons x l ih =>
    rw [List.mapM_cons, bind_eq_ok_iff]
    constructor
    · rintro ⟨y, first, later⟩
      obtain ⟨ys, others, same⟩ := bind_eq_ok_iff.1 later
      obtain rfl := Except.ok.inj same
      exact .cons first (ih.1 others)
    · rintro (_ | ⟨first, others⟩)
      exact ⟨_, first, bind_eq_ok_iff.2 ⟨_, ih.2 others, rfl⟩⟩

namespace Text

theorem cutOnce?_eq_some_iff {mark : Char} {text before rest : List Char} :
    cutOnce? mark text = some (before, rest) ↔ mark ∉ before ∧ text = before ++ mark :: rest := by
  constructor
  · intro h
    by_cases member : mark ∈ text
    · obtain ⟨first, behind, whole, none⟩ := List.eq_append_cons_of_mem member
      rw [whole, cutOnce?_append none] at h
      obtain ⟨rfl, rfl⟩ := Prod.mk.inj (Option.some.inj h)
      exact ⟨none, whole⟩
    · rw [cutOnce?_eq_none member] at h
      cases h
  · rintro ⟨none, rfl⟩
    exact cutOnce?_append none rest

end Text

namespace Http.Multipart

/-- The mark between two lines, as characters. -/
def lineEnd : List Char := ['\r', '\n']

/-- A text that is a single line. -/
def Unbroken (text : List Char) : Prop := ¬ lineEnd <:+: text

theorem Unbroken.tail {c : Char} {text : List Char} (h : Unbroken (c :: text)) : Unbroken text :=
  fun inside => h (inside.trans (List.suffix_cons c text).isInfix)

theorem unbroken_of_not_mem {text : List Char} (none : '\r' ∉ text) : Unbroken text :=
  fun inside => none (inside.subset List.mem_cons_self)

section Lines

variable {done : List (List Char)} {line before text rest : List Char}

/-- A character that does not begin the end of a line is in the line. -/
theorem lines.go_cons {c : Char} (inside : ∀ more, c :: text ≠ '\r' :: '\n' :: more) :
    lines.go done line (c :: text) = lines.go done (c :: line) text := by
  rw [lines.go]
  rintro more rfl rfl
  exact inside more rfl

theorem lines.go_append (unbroken : Unbroken before) :
    lines.go done line (before ++ (lineEnd ++ rest)) =
      lines.go ((line.reverse ++ before) :: done) [] rest := by
  induction before generalizing line with
  | nil =>
    rw [List.append_nil]
    rfl
  | cons c before ih =>
    have inside : ∀ more, c :: (before ++ (lineEnd ++ rest)) ≠ '\r' :: '\n' :: more := by
      intro more same
      obtain ⟨rfl, behind⟩ := List.cons.inj same
      cases before with
      | nil => cases behind
      | cons d before =>
        obtain ⟨rfl, -⟩ := List.cons.inj behind
        exact unbroken (List.prefix_append lineEnd before).isInfix
    rw [List.cons_append, lines.go_cons inside, ih unbroken.tail, List.reverse_cons,
      List.append_assoc, List.singleton_append]

theorem lines.go_of_unbroken (unbroken : Unbroken text) :
    lines.go done line text = done.reverse ++ [line.reverse ++ text] := by
  induction text generalizing line with
  | nil =>
    rw [lines.go, List.reverse_cons, List.append_nil]
  | cons c text ih =>
    have inside : ∀ more, c :: text ≠ '\r' :: '\n' :: more := by
      intro more same
      exact unbroken (same ▸ (List.prefix_append lineEnd more).isInfix)
    rw [lines.go_cons inside, ih unbroken.tail, List.reverse_cons, List.append_assoc,
      List.singleton_append]

/-- Single lines are found again when they were joined. -/
theorem lines_intercalate {first : List Char} {more : List (List Char)}
    (unbroken : ∀ line ∈ first :: more, Unbroken line) :
    lines (lineEnd.intercalate (first :: more)) = first :: more := by
  have go (done : List (List Char)) :
      lines.go done [] (lineEnd.intercalate (first :: more)) = done.reverse ++ first :: more := by
    induction more generalizing first done with
    | nil =>
      rw [List.intercalate_singleton, lines.go_of_unbroken (unbroken first List.mem_cons_self)]
      rfl
    | cons second more ih =>
      obtain ⟨alone, others⟩ := List.forall_mem_cons.1 unbroken
      rw [List.intercalate_cons_cons, List.append_assoc, lines.go_append alone, ih others]
      simp
  exact go []

theorem prefix_intercalate (first : List Char) (more : List (List Char)) :
    first <+: lineEnd.intercalate (first :: more) := by
  cases more with
  | nil => exact ⟨[], by rw [List.append_nil, List.intercalate_singleton]⟩
  | cons second more =>
    rw [List.intercalate_cons_cons, List.append_assoc]
    exact List.prefix_append _ _

/-- The lines of a text are single lines, and joined they are the text. -/
theorem lines_spec (text : List Char) :
    ∃ first more, lines text = first :: more ∧ lineEnd.intercalate (first :: more) = text ∧
      ∀ line ∈ first :: more, Unbroken line := by
  have go (done : List (List Char)) (line text : List Char) :
      ∃ first more, lines.go done line text = done.reverse ++ (line.reverse ++ first) :: more ∧
        lineEnd.intercalate (first :: more) = text ∧
          ∀ line ∈ first :: more, Unbroken line := by
    fun_induction lines.go done line text with
    | case1 done line =>
      refine ⟨[], [], by simp, by simp, ?_⟩
      simp [Unbroken, lineEnd]
    | case2 done line rest ih =>
      obtain ⟨first, more, found, whole, unbroken⟩ := ih
      refine ⟨[], first :: more, by simp [found], ?_, ?_⟩
      · rw [List.intercalate_cons_cons, whole]
        rfl
      · exact List.forall_mem_cons.2 ⟨by simp [Unbroken, lineEnd], unbroken⟩
    | case3 done line c rest inside ih =>
      obtain ⟨first, more, found, whole, unbroken⟩ := ih
      obtain ⟨alone, others⟩ := List.forall_mem_cons.1 unbroken
      refine ⟨c :: first, more, by simp [found], ?_, List.forall_mem_cons.2 ⟨?_, others⟩⟩
      · cases more with
        | nil =>
          rw [List.intercalate_singleton] at whole ⊢
          rw [whole]
        | cons second more =>
          rw [List.intercalate_cons_cons] at whole ⊢
          rw [← whole]
          rfl
      · intro broken
        rcases List.infix_cons_iff.1 broken with begins | within
        · obtain ⟨tail, same⟩ := begins
          obtain ⟨rfl, rfl⟩ := List.cons.inj same
          obtain ⟨more', rest_eq⟩ := whole ▸ prefix_intercalate ('\n' :: tail) more
          exact inside _ rfl rest_eq.symm
        · exact alone within
  exact go [] [] text

end Lines

/-- A line holds a field: what stands around its first colon, without the blanks at the ends. -/
def FieldOn (line : List Char) (field : String × String) : Prop :=
  ∃ name value, line = name ++ ':' :: value ∧ ':' ∉ name ∧
    field = (String.ofList (Text.trim name), String.ofList (Text.trim value))

/-- The bytes of a header block with these fields, one on each line. -/
def HeaderBlock (block : Bytes) (headers : Headers) : Prop :=
  ∃ first more, (∀ line ∈ first :: more, Unbroken line) ∧
    block = Text.encode (String.ofList (lineEnd.intercalate (first :: more))) ∧
    List.Forall₂ FieldOn (first :: more) headers.fields

theorem readField_eq_ok_iff {line : List Char} {field : String × String} :
    readField line = .ok field ↔ FieldOn line field := by
  unfold readField FieldOn
  constructor
  · intro h
    split at h
    · cases h
    · rename_i name value cut
      obtain ⟨none, whole⟩ := Text.cutOnce?_eq_some_iff.1 cut
      exact ⟨name, value, whole, none, (Except.ok.inj h).symm⟩
  · rintro ⟨name, value, whole, none, rfl⟩
    rw [Text.cutOnce?_eq_some_iff.2 ⟨none, whole⟩]

theorem mapM_readField_eq_ok_iff {lines : List (List Char)} {fields : List (String × String)} :
    lines.mapM readField = .ok fields ↔ List.Forall₂ FieldOn lines fields := by
  have same : FieldOn = fun line field => readField line = .ok field := by
    funext line field
    exact propext readField_eq_ok_iff.symm
  rw [same, mapM_eq_ok_iff]

/-- The fields are read that the block holds, and of a block that holds none nothing is read. -/
theorem readHeaders_eq_ok_iff {block : Bytes} {headers : Headers} :
    readHeaders block = .ok headers ↔ HeaderBlock block headers := by
  have fields (text : List Char) : ((lines text).mapM readField |>.map fun fields => ⟨fields⟩) =
      Except.ok headers ↔ List.Forall₂ FieldOn (lines text) headers.fields := by
    rw [← mapM_readField_eq_ok_iff]
    cases (lines text).mapM readField with
    | error fault =>
      constructor
      · intro h
        cases h
      · intro h
        cases h
    | ok fields =>
      constructor
      · intro h
        rw [← Except.ok.inj h]
      · intro h
        rw [Except.ok.inj h]
        rfl
  unfold readHeaders HeaderBlock
  constructor
  · intro h
    split at h
    · cases h
    · rename_i text decoded
      obtain ⟨first, more, found, whole, unbroken⟩ := lines_spec text.toList
      refine ⟨first, more, unbroken, ?_, found ▸ (fields text.toList).1 h⟩
      rw [whole, String.ofList_toList, Text.encode_of_decode? decoded]
  · rintro ⟨first, more, unbroken, rfl, held⟩
    rw [Text.decode?_encode]
    simp only [String.toList_ofList]
    rw [fields, lines_intercalate unbroken]
    exact held

/-- A field that comes back from its line as it is. -/
structure PartField (field : String × String) : Prop extends PlainField field where
  nameTrimmed : Text.Trimmed Text.isBlank field.1.toList
  valueTrimmed : Text.Trimmed Text.isBlank field.2.toList

instance (field : String × String) : Decidable (PartField field) :=
  decidable_of_iff (('\r' ∉ field.1.toList ∧ '\n' ∉ field.1.toList) ∧ ':' ∉ field.1.toList ∧
      ('\r' ∉ field.2.toList ∧ '\n' ∉ field.2.toList) ∧
      Text.Trimmed Text.isBlank field.1.toList ∧ Text.Trimmed Text.isBlank field.2.toList)
    ⟨fun h => ⟨⟨h.1, h.2.1, h.2.2.1⟩, h.2.2.2.1, h.2.2.2.2⟩,
      fun h => ⟨h.name, h.colon, h.value, h.nameTrimmed, h.valueTrimmed⟩⟩

/-- The line of a field, as characters. -/
def fieldText (field : String × String) : List Char :=
  field.1.toList ++ ':' :: ' ' :: field.2.toList

theorem PartField.fieldOn {field : String × String} (h : PartField field) :
    FieldOn (fieldText field) field := by
  refine ⟨field.1.toList, ' ' :: field.2.toList, rfl, h.colon, ?_⟩
  have blank : Text.trim (' ' :: field.2.toList) = Text.trim field.2.toList := rfl
  rw [blank, Text.trim, Text.trim, h.nameTrimmed.trimBy_eq, h.valueTrimmed.trimBy_eq,
    String.ofList_toList, String.ofList_toList]

theorem PartField.unbroken {field : String × String} (h : PartField field) :
    Unbroken (fieldText field) := by
  apply unbroken_of_not_mem
  simp [fieldText, h.name.1, h.value.1]

theorem encode_fieldText (field : String × String) :
    Text.encode (String.ofList (fieldText field)) = writeField field := by
  have parts : String.ofList (fieldText field) = field.1 ++ (": " ++ field.2) := by
    apply String.toList_inj.1
    simp [fieldText]
  rw [parts, Text.encode_append, Text.encode_append, writeField]

theorem encode_fieldTexts (field : String × String) (fields : List (String × String)) :
    Text.encode (String.ofList (lineEnd.intercalate ((field :: fields).map fieldText))) =
      joinLines (writeField field) (fields.map writeField) := by
  have mark : Text.encode (String.ofList lineEnd) = crlf := by decide
  induction fields generalizing field with
  | nil =>
    rw [List.map_singleton, List.intercalate_singleton, encode_fieldText, joinLines]
    simp
  | cons second fields ih =>
    rw [List.map_cons, List.map_cons, List.intercalate_cons_cons, String.ofList_append,
      String.ofList_append, Text.encode_append, Text.encode_append, encode_fieldText, mark,
      ← List.map_cons, ih, List.map_cons, joinLines_cons, List.append_assoc]

/-- Fields that are written one on each line are the fields of the block. -/
theorem headerBlock_joinLines {field : String × String} {fields : List (String × String)}
    (plain : ∀ f ∈ field :: fields, PartField f) :
    HeaderBlock (joinLines (writeField field) (fields.map writeField)) ⟨field :: fields⟩ := by
  refine ⟨fieldText field, fields.map fieldText, ?_, (encode_fieldTexts field fields).symm, ?_⟩
  · rw [← List.map_cons]
    intro line member
    obtain ⟨f, among, rfl⟩ := List.mem_map.1 member
    exact (plain f among).unbroken
  · rw [← List.map_cons, List.forall₂_map_left_iff]
    exact List.forall₂_same.2 fun f member => (plain f member).fieldOn

end Http.Multipart
end WebServer

import Mathlib.Data.List.Basic
import Mathlib.Data.List.TakeWhile
import WebServer.Proofs.Text.Utf8
import WebServer.Text.Ascii
import WebServer.Text.Blank
import WebServer.Text.Escape

/-!
# Raw texts

What is sent is cut at marks, trimmed, and rid of its escapes. What escapes stand for is told by
`Escaped`, which knows nothing of the reader; the reader finds exactly that.
-/
namespace WebServer.Text

section Cut

variable {mark : Char} {text before rest : List Char}

theorem cutOnce?.go_append (done : List Char) (none : mark ∉ before) :
    cutOnce?.go mark done (before ++ rest) = cutOnce?.go mark (before.reverse ++ done) rest := by
  induction before generalizing done with
  | nil => rfl
  | cons c before ih =>
    have other : c ≠ mark := fun same => none (same ▸ List.mem_cons_self)
    rw [List.cons_append, cutOnce?.go, if_neg other, ih _ fun member => none (.tail _ member)]
    simp

/-- A text is cut at the first mark. -/
theorem cutOnce?_append (none : mark ∉ before) (rest : List Char) :
    cutOnce? mark (before ++ mark :: rest) = some (before, rest) := by
  rw [cutOnce?, cutOnce?.go_append [] none, cutOnce?.go, if_pos rfl]
  simp

theorem cutOnce?_eq_none (none : mark ∉ text) : cutOnce? mark text = .none := by
  have whole : cutOnce?.go mark [] (text ++ []) = cutOnce?.go mark (text.reverse ++ []) [] :=
    cutOnce?.go_append [] none
  rw [List.append_nil] at whole
  rw [cutOnce?, whole, cutOnce?.go]

/-- The text before the first mark; all of it if there is none. -/
def upTo (mark : Char) (text : List Char) : List Char := text.takeWhile (· ≠ mark)

/-- The text behind the first mark, if there is one. -/
def behind (mark : Char) (text : List Char) : List Char := (text.dropWhile (· ≠ mark)).tail

theorem cutOnce?_of_mem (member : mark ∈ text) :
    cutOnce? mark text = some (upTo mark text, behind mark text) := by
  have outside : mark ∉ upTo mark text := fun within => by
    simpa using List.mem_takeWhile_imp within
  have left : text.dropWhile (· ≠ mark) ≠ [] := fun empty => by
    simpa using List.dropWhile_eq_nil_iff.1 empty mark member
  have first : (text.dropWhile (· ≠ mark)).head left = mark := by
    simpa using List.head_dropWhile_not (· ≠ mark) left
  have whole : text = upTo mark text ++ mark :: behind mark text := by
    have same : mark :: behind mark text = text.dropWhile (· ≠ mark) := by
      rw [behind, ← List.cons_head_tail left, first, List.tail_cons]
    rw [same]
    exact List.takeWhile_append_dropWhile.symm
  conv_lhs => rw [whole]
  exact cutOnce?_append outside _

theorem upTo_of_not_mem (none : mark ∉ text) : upTo mark text = text ∧ behind mark text = [] := by
  have all : ∀ c ∈ text, decide (c ≠ mark) = true := by
    intro c member
    rw [decide_eq_true_iff]
    rintro rfl
    exact none member
  rw [upTo, behind, List.takeWhile_eq_self_iff.2 all, List.dropWhile_eq_nil_iff.2 all]
  exact ⟨rfl, rfl⟩

theorem cutOnce?_getD (mark : Char) (text : List Char) :
    (cutOnce? mark text).getD (text, []) = (upTo mark text, behind mark text) := by
  by_cases member : mark ∈ text
  · rw [cutOnce?_of_mem member, Option.getD_some]
  · obtain ⟨whole, empty⟩ := upTo_of_not_mem member
    rw [cutOnce?_eq_none member, Option.getD_none, whole, empty]

end Cut

section Trim

theorem dropWhile_eq_self {α : Type} {p : α → Bool} {l : List α}
    (first : ∀ x, l.head? = some x → p x = false) : l.dropWhile p = l := by
  cases l with
  | nil => rfl
  | cons x l => exact List.dropWhile_cons_of_neg (by simp [first x rfl])

variable {p : Char → Bool} {text : List Char}

/-- At neither end there is anything to trim. -/
structure Trimmed (p : Char → Bool) (text : List Char) : Prop where
  first : ∀ c, text.head? = some c → p c = false
  last : ∀ c, text.getLast? = some c → p c = false

instance (p : Char → Bool) (text : List Char) : Decidable (Trimmed p text) :=
  decidable_of_iff (text.head?.all (!p ·) = true ∧ text.getLast?.all (!p ·) = true) <| by
    simp only [Option.all_eq_true, Bool.not_eq_true']
    exact ⟨fun h => ⟨h.1, h.2⟩, fun h => ⟨h.first, h.last⟩⟩

theorem Trimmed.trimBy_eq (h : Trimmed p text) : trimBy p text = text := by
  have last : ∀ c, text.reverse.head? = some c → p c = false := fun c final => by
    rw [List.head?_reverse] at final
    exact h.last c final
  rw [trimBy, dropWhile_eq_self h.first, dropWhile_eq_self last, List.reverse_reverse]

/-- What is left of a text with nothing to trim at its beginning is how it begins. -/
theorem trimBy_prefix (first : ∀ c, text.head? = some c → p c = false) :
    trimBy p text <+: text := by
  rw [trimBy, dropWhile_eq_self first]
  have behind := List.dropWhile_suffix (l := text.reverse) p
  simpa using List.reverse_prefix.2 behind

end Trim

/-- The bytes that a raw text with escapes stands for. -/
inductive Escaped (plusIsSpace : Bool) : Bytes → Bytes → Prop
  | nil : Escaped plusIsSpace [] []
  | plain {b : UInt8} {raw bytes : Bytes} (percent : b ≠ 0x25)
    (plus : plusIsSpace = true → b ≠ 0x2B) (rest : Escaped plusIsSpace raw bytes) :
    Escaped plusIsSpace (b :: raw) (b :: bytes)
  | plus {raw bytes : Bytes} (isSpace : plusIsSpace = true) (rest : Escaped plusIsSpace raw bytes) :
    Escaped plusIsSpace (0x2B :: raw) (Bytes.space :: bytes)
  | escape {high low h l : UInt8} {raw bytes : Bytes} (first : Bytes.hexValue? high = some h)
    (second : Bytes.hexValue? low = some l) (rest : Escaped plusIsSpace raw bytes) :
    Escaped plusIsSpace (0x25 :: high :: low :: raw) ((h * 16 + l) :: bytes)

/-- The text that a raw text stands for. -/
def StandsFor (plusIsSpace : Bool) (raw text : String) : Prop :=
  Escaped plusIsSpace (encode raw) (encode text)

/-- The raw text stands for one: its escapes are complete, and behind them there is UTF-8. -/
def Legible (plusIsSpace : Bool) (raw : List Char) : Prop :=
  ∃ text, StandsFor plusIsSpace (String.ofList raw) text

theorem unescapeBytes?.go_eq_some_iff {plusIsSpace : Bool} {done raw all : Bytes} :
    go plusIsSpace done raw = some all ↔
      ∃ bytes, Escaped plusIsSpace raw bytes ∧ all = done.reverse ++ bytes := by
  fun_induction go plusIsSpace done raw with
  | case1 done =>
    constructor
    · rintro ⟨⟩
      exact ⟨[], .nil, (List.append_nil _).symm⟩
    · rintro ⟨_, ⟨⟩, rfl⟩
      rw [List.append_nil]
  | case2 done high low rest h l second first ih =>
    rw [ih]
    constructor
    · rintro ⟨bytes, escaped, rfl⟩
      exact ⟨_, .escape first second escaped, by simp⟩
    · rintro ⟨_, escaped, rfl⟩
      cases escaped with
      | plain percent => exact absurd rfl percent
      | @escape _ _ _ _ _ bytes first' second' escaped =>
        obtain rfl := Option.some.inj (first.symm.trans first')
        obtain rfl := Option.some.inj (second.symm.trans second')
        exact ⟨bytes, escaped, by simp⟩
  | case3 done high low rest noDigits =>
    refine ⟨nofun, ?_⟩
    rintro ⟨_, escaped, -⟩
    cases escaped with
    | plain percent => exact absurd rfl percent
    | escape first second => exact (noDigits _ _ first second).elim
  | case4 done rest short =>
    refine ⟨nofun, ?_⟩
    rintro ⟨_, escaped, -⟩
    cases escaped with
    | plain percent => exact absurd rfl percent
    | escape => exact (short _ _ _ rfl).elim
  | case5 done b rest percent plus ih =>
    obtain ⟨isSpace, same⟩ := Bool.and_eq_true_iff.1 plus
    obtain rfl := of_decide_eq_true same
    rw [ih]
    constructor
    · rintro ⟨bytes, escaped, rfl⟩
      exact ⟨_, .plus isSpace escaped, by simp⟩
    · rintro ⟨_, escaped, rfl⟩
      cases escaped with
      | plain _ other => exact absurd rfl (other isSpace)
      | plus _ escaped => exact ⟨_, escaped, by simp⟩
  | case6 done b rest percent noPlus ih =>
    have other : plusIsSpace = true → b ≠ 0x2B := fun isSpace same =>
      noPlus (by simp [isSpace, same])
    rw [ih]
    constructor
    · rintro ⟨bytes, escaped, rfl⟩
      exact ⟨_, .plain percent other escaped, by simp⟩
    · rintro ⟨_, escaped, rfl⟩
      cases escaped with
      | plain _ _ escaped => exact ⟨_, escaped, by simp⟩
      | plus isSpace => exact absurd rfl (other isSpace)
      | escape => exact absurd rfl percent

theorem unescapeBytes?_eq_some_iff {plusIsSpace : Bool} {raw bytes : Bytes} :
    unescapeBytes? plusIsSpace raw = some bytes ↔ Escaped plusIsSpace raw bytes := by
  rw [unescapeBytes?, unescapeBytes?.go_eq_some_iff]
  simp

/-- Escapes are taken away from a raw text exactly if it stands for one. -/
theorem unescape_eq_ok_iff {plusIsSpace : Bool} {raw text : String} :
    unescape raw plusIsSpace = .ok text ↔ StandsFor plusIsSpace raw text := by
  unfold unescape StandsFor
  constructor
  · intro h
    split at h
    · cases h
    · rename_i bytes escaped
      split at h
      · cases h
      · rename_i decoded
        obtain rfl := Except.ok.inj h
        rw [encode_of_decode? decoded]
        exact unescapeBytes?_eq_some_iff.1 escaped
  · intro h
    rw [unescapeBytes?_eq_some_iff.2 h]
    simp only [decode?_encode]

theorem legible_iff {plusIsSpace : Bool} {raw : List Char} :
    Legible plusIsSpace raw ↔
      (unescape (String.ofList raw) plusIsSpace).toOption.isSome = true := by
  unfold Legible
  cases read : unescape (String.ofList raw) plusIsSpace with
  | error fault =>
    refine ⟨?_, nofun⟩
    rintro ⟨text, stands⟩
    rw [unescape_eq_ok_iff.2 stands] at read
    cases read
  | ok text => exact ⟨fun _ => rfl, fun _ => ⟨text, unescape_eq_ok_iff.1 read⟩⟩

instance (plusIsSpace : Bool) (raw : List Char) : Decidable (Legible plusIsSpace raw) :=
  decidable_of_iff _ legible_iff.symm

section Escaped

variable {plusIsSpace : Bool} {raw raw' bytes bytes' : Bytes}

theorem Escaped.append (h : Escaped plusIsSpace raw bytes) (h' : Escaped plusIsSpace raw' bytes') :
    Escaped plusIsSpace (raw ++ raw') (bytes ++ bytes') := by
  induction h with
  | nil => exact h'
  | plain percent plus _ ih => exact .plain percent plus ih
  | plus isSpace _ ih => exact .plus isSpace ih
  | escape first second _ ih => exact .escape first second ih

/-- Bytes without a mark among them stand for themselves. -/
theorem escaped_self (percent : 0x25 ∉ bytes) (plus : plusIsSpace = true → 0x2B ∉ bytes) :
    Escaped plusIsSpace bytes bytes := by
  induction bytes with
  | nil => exact .nil
  | cons b bytes ih =>
    refine .plain ?_ (fun isSpace => ?_) (ih ?_ fun isSpace => ?_)
    · exact fun same => percent (same ▸ List.mem_cons_self)
    · exact fun same => plus isSpace (same ▸ List.mem_cons_self)
    · exact fun member => percent (.tail _ member)
    · exact fun member => plus isSpace (.tail _ member)

end Escaped

/-- Without escapes a text stands for itself. -/
theorem standsFor_self {text : String} (none : '%' ∉ text.toList) : StandsFor false text text :=
  escaped_self (not_mem_encode (by decide) none) nofun

end WebServer.Text

/-!
# Byte strings

A byte string is a list of bytes. This module holds the searches and cuts that the wire formats
need. Each of them walks the list once and keeps what it has passed in an accumulator, so that
long inputs need no deep recursion.
-/
namespace WebServer

abbrev Bytes := List UInt8

namespace Bytes

def cr : UInt8 := 13
def lf : UInt8 := 10
def space : UInt8 := 32
def tab : UInt8 := 9
def colon : UInt8 := 58

def isDigit (b : UInt8) : Bool := 48 ≤ b && b ≤ 57

def isLetter (b : UInt8) : Bool := (65 ≤ b && b ≤ 90) || (97 ≤ b && b ≤ 122)

/-- The value of a hexadecimal digit of either case. -/
def hexValue? (b : UInt8) : Option UInt8 :=
  if isDigit b then some (b - 48)
  else if 65 ≤ b && b ≤ 70 then some (b - 55)
  else if 97 ≤ b && b ≤ 102 then some (b - 87)
  else none

/-- The lower-case hexadecimal digit of a value below sixteen. -/
def hexDigit (n : Nat) : Char :=
  if n < 10 then Char.ofNat (48 + n) else Char.ofNat (87 + n)

/-- The text before the first occurrence of `mark` and the text after it. -/
def cut? (mark : Bytes) (text : Bytes) : Option (Bytes × Bytes) :=
  go [] text
where
  go (before : Bytes) (rest : Bytes) : Option (Bytes × Bytes) :=
    if mark.isPrefixOf rest then some (before.reverse, rest.drop mark.length)
    else match rest with
      | [] => none
      | b :: rest => go (b :: before) rest

/-- The first `n` bytes and the bytes after them, or `none` if there are fewer than `n`. -/
def splitExactly? (n : Nat) (text : Bytes) : Option (Bytes × Bytes) :=
  go n [] text
where
  go : Nat → Bytes → Bytes → Option (Bytes × Bytes)
    | 0, taken, rest => some (taken.reverse, rest)
    | _ + 1, _, [] => none
    | n + 1, taken, b :: rest => go n (b :: taken) rest

/-- The bytes of a range, if the text has all of them. -/
def slice? (text : Bytes) (start stop : Nat) : Option Bytes :=
  if start ≤ stop ∧ stop ≤ text.length then some ((text.drop start).take (stop - start)) else none

/-- The number that the bytes write in base 256, most significant byte first. -/
def toNatBE (bytes : Bytes) : Nat :=
  bytes.foldl (fun n b => n * 256 + b.toNat) 0

/-- The `width` bytes of `n` in base 256, most significant byte first. -/
def ofNatBE : Nat → Nat → Bytes
  | 0, _ => []
  | width + 1, n => ofNatBE width (n / 256) ++ [(n % 256).toUInt8]

theorem cut?.append_of_go {mark before rest a b : Bytes} (h : go mark before rest = some (a, b)) :
    before.reverse ++ rest = a ++ mark ++ b := by
  induction rest generalizing before with
  | nil =>
    unfold go at h
    split at h
    · rename_i hp
      obtain ⟨tail, ht⟩ := List.isPrefixOf_iff_prefix.mp hp
      obtain ⟨rfl, rfl⟩ := List.append_eq_nil_iff.mp ht
      simp only [Option.some.injEq, Prod.mk.injEq] at h
      obtain ⟨rfl, rfl⟩ := h
      simp
    · simp at h
  | cons x rest ih =>
    unfold go at h
    split at h
    · rename_i hp
      obtain ⟨tail, ht⟩ := List.isPrefixOf_iff_prefix.mp hp
      simp only [Option.some.injEq, Prod.mk.injEq] at h
      obtain ⟨rfl, rfl⟩ := h
      simp [← ht]
    · simpa using ih h

/-- A cut loses nothing: what it returns around the mark is the text. -/
theorem append_of_cut? {mark text a b : Bytes} (h : cut? mark text = some (a, b)) :
    text = a ++ mark ++ b := by
  simpa using cut?.append_of_go h

theorem cut?_length {mark text a b : Bytes} (h : cut? mark text = some (a, b)) :
    a.length + mark.length + b.length = text.length := by
  simp [append_of_cut? h, Nat.add_assoc]

theorem splitExactly?.go_eq_some_iff {n : Nat} {taken rest a b : Bytes} :
    go n taken rest = some (a, b) ↔
      a.length = taken.length + n ∧ taken.reverse ++ rest = a ++ b := by
  induction n generalizing taken rest with
  | zero =>
    simp only [go, Option.some.injEq, Prod.mk.injEq, Nat.add_zero]
    constructor
    · rintro ⟨rfl, rfl⟩
      exact ⟨List.length_reverse, rfl⟩
    · rintro ⟨hl, he⟩
      exact List.append_inj he (by simpa using hl.symm)
  | succ n ih =>
    cases rest with
    | nil =>
      simp only [go, reduceCtorEq, List.append_nil, false_iff, not_and]
      intro hl he
      have := congrArg List.length he
      simp only [List.length_reverse, List.length_append] at this
      omega
    | cons x rest =>
      simp only [go, ih, List.length_cons, List.reverse_cons, List.append_assoc,
        List.singleton_append, Nat.add_assoc, Nat.add_comm 1 n]

/-- A split gives exactly the first `n` bytes and those behind them. -/
theorem splitExactly?_eq_some_iff {n : Nat} {text a b : Bytes} :
    splitExactly? n text = some (a, b) ↔ a.length = n ∧ text = a ++ b := by
  simpa [splitExactly?] using @splitExactly?.go_eq_some_iff n [] text a b

theorem splitExactly?_length {n : Nat} {text a b : Bytes}
    (h : splitExactly? n text = some (a, b)) :
    a.length = n ∧ a.length + b.length = text.length := by
  obtain ⟨hl, rfl⟩ := splitExactly?_eq_some_iff.mp h
  exact ⟨hl, List.length_append.symm⟩

theorem stop_le_of_slice? {text range : Bytes} {start stop : Nat}
    (h : slice? text start stop = some range) : start ≤ stop ∧ stop ≤ text.length := by
  unfold slice? at h
  split at h
  · assumption
  · cases h

end Bytes
end WebServer

/-!
# Sets of characters

A set of characters is a list of ranges. The characters are numbered without a gap: the surrogates,
which are no characters, are left out. Ranges are ascending, and between two of them at least one
character is missing, so that equal sets have equal lists.
-/
namespace WebServer.Unicode

/-- Ranges of numbers, both ends included. -/
structure CharSet where
  ranges : List (Nat × Nat)
  deriving DecidableEq, Repr

namespace CharSet

def surrogates : Nat := 0x800

/-- The number of characters. -/
def count : Nat := 0x110000 - surrogates

/-- The number of a character in the count without surrogates. -/
def index (c : Char) : Nat := if c.toNat < 0xD800 then c.toNat else c.toNat - surrogates

/-- The character with that number. -/
def char (i : Nat) : Char := Char.ofNat (if i < 0xD800 then i else i + surrogates)

def empty : CharSet := ⟨[]⟩

def all : CharSet := ⟨[(0, count - 1)]⟩

/-- Joins ascending ranges that overlap or touch. -/
def join : List (Nat × Nat) → List (Nat × Nat)
  | [] => []
  | range :: rest => go range [] rest
where
  go (last : Nat × Nat) (done : List (Nat × Nat)) : List (Nat × Nat) → List (Nat × Nat)
    | [] => (last :: done).reverse
    | range :: rest =>
      if range.1 ≤ last.2 + 1 then go (last.1, max last.2 range.2) done rest
      else go range (last :: done) rest

/-- The set of all numbers in any of the ranges. -/
def ofRanges (ranges : List (Nat × Nat)) : CharSet :=
  ⟨join (ranges.mergeSort fun a b => a.1 ≤ b.1)⟩

/-- The set of the characters from `a` to `b`. -/
def between (a b : Char) : CharSet := ⟨[(index a, index b)]⟩

def singleton (c : Char) : CharSet := between c c

/-- The set of characters with code points in any of the ranges. -/
def ofCodePoints (ranges : List (Nat × Nat)) : CharSet :=
  ofRanges (ranges.flatMap fun (low, high) =>
    (if low < 0xD800 then [(low, min high 0xD7FF)] else []) ++
    (if 0xE000 ≤ high then [(max low 0xE000 - surrogates, high - surrogates)] else []))

def isEmpty (s : CharSet) : Bool := s.ranges.isEmpty

def containsIndex (s : CharSet) (i : Nat) : Bool :=
  s.ranges.any fun range => range.1 ≤ i && i ≤ range.2

def contains (s : CharSet) (c : Char) : Bool := s.containsIndex (index c)

/-- The only member of a set with one member. -/
def only? (s : CharSet) : Option Char :=
  match s.ranges with
  | [(low, high)] => if low = high then some (char low) else none
  | _ => none

def union (a b : CharSet) : CharSet := ofRanges (a.ranges ++ b.ranges)

def unionAll (sets : List CharSet) : CharSet := ofRanges (sets.flatMap (·.ranges))

def complement (s : CharSet) : CharSet := ⟨go 0 [] s.ranges⟩
where
  go (next : Nat) (done : List (Nat × Nat)) : List (Nat × Nat) → List (Nat × Nat)
    | [] => (if next < count then (next, count - 1) :: done else done).reverse
    | (low, high) :: rest =>
      go (high + 1) (if next < low then (next, low - 1) :: done else done) rest

def inter (a b : CharSet) : CharSet := (a.complement.union b.complement).complement

def diff (a b : CharSet) : CharSet := a.inter b.complement

def symmDiff (a b : CharSet) : CharSet := (a.union b).diff (a.inter b)

/-- The code point of the greatest member. -/
def greatest? (s : CharSet) : Option Char := s.ranges.getLast?.map fun range => char range.2

/-- Reads one digit of base 36. -/
def digit (c : Char) : Nat := if c.isDigit then c.toNat - 48 else c.toNat - 87

/-- Reads the numbers of a row: base 36, separated by blanks. -/
def numbers (rows : List String) : List Nat :=
  rows.flatMap fun row =>
    (row.toList.splitOn ' ').map fun digits => digits.foldl (fun n c => n * 36 + digit c) 0

/-- Each pair of numbers is the gap before a range and the distance between its ends. -/
def spans (start : Nat) : List Nat → List (Nat × Nat)
  | gap :: width :: rest =>
    (start + gap, start + gap + width) :: spans (start + gap + width + 1) rest
  | _ => []

/-- Reads the ranges of code points that rows of numbers write. -/
def ofRows (rows : List String) : CharSet := ofCodePoints (spans 0 (numbers rows))

end CharSet
end WebServer.Unicode

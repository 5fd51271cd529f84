import WebServer.Regex.Expr

/-!
# The size of compiled patterns

A pattern is refused if its program grows too large, so that a short pattern with nested counts
cannot take all memory. The size is counted in bytes, for a program that reads UTF-8 byte by byte.
-/
namespace WebServer.Regex

open Unicode (CharSet)

/-- A state of the program, and an entry of its table of transitions. -/
def stateCost : Nat := 32
def transitionCost : Nat := 8
def branchCost : Nat := 4

def costLimit : Nat := 10 * 1024 * 1024

/-- The bytes of a code point in UTF-8. -/
def utf8Bytes (c : Nat) : List Nat :=
  if c < 0x80 then [c]
  else if c < 0x800 then [0xC0 + c / 64, 0x80 + c % 64]
  else if c < 0x10000 then [0xE0 + c / 4096, 0x80 + c / 64 % 64, 0x80 + c % 64]
  else [0xF0 + c / 262144, 0x80 + c / 4096 % 64, 0x80 + c / 64 % 64, 0x80 + c % 64]

/-- Splits a range of code points so that within each piece every byte runs over one range: the
pieces have the same number of bytes and agree on all bytes before the first full range. -/
def pieces (fuel : Nat) (low high : Nat) : List (List (Nat × Nat)) :=
  match fuel with
  | 0 => []
  | fuel + 1 =>
    let cutAt (n : Nat) := pieces fuel low (n - 1) ++ pieces fuel n high
    if low < 0x80 ∧ 0x80 ≤ high then cutAt 0x80
    else if low < 0x800 ∧ 0x800 ≤ high then cutAt 0x800
    else if low < 0xD800 ∧ 0xD800 ≤ high then
      pieces fuel low 0xD7FF ++ (if 0xE000 ≤ high then pieces fuel 0xE000 high else [])
    else if low < 0x10000 ∧ 0x10000 ≤ high then cutAt 0x10000
    else
      let width := (utf8Bytes low).length
      let uneven := (List.range (width - 1)).findSome? fun i =>
        let block := Nat.pow 64 (i + 1)
        if low / block = high / block then none
        else if low % block ≠ 0 then some ((low / block + 1) * block)
        else if high % block ≠ block - 1 then some (high / block * block)
        else none
      match uneven with
      | some n => cutAt n
      | none => [(utf8Bytes low).zip (utf8Bytes high)]

/-- Groups neighbouring byte sequences that begin with the same range. -/
def groupHeads : List (List (Nat × Nat)) → List ((Nat × Nat) × List (List (Nat × Nat)))
  | [] => []
  | [] :: rest => groupHeads rest
  | (head :: tail) :: rest =>
    match groupHeads rest with
    | (head', tails) :: groups =>
      if head = head' then (head, tail :: tails) :: groups
      else (head, [tail]) :: (head', tails) :: groups
    | [] => [(head, [tail])]

/-- All sets of byte sequences that the states of a class still have to read. -/
def suffixes (depth : Nat) (sequences : List (List (Nat × Nat))) :
    List (List (List (Nat × Nat))) :=
  match depth with
  | 0 => []
  | depth + 1 =>
    if sequences.all (·.isEmpty) then []
    else sequences :: (groupHeads sequences).flatMap fun g => suffixes depth g.2

/-- A class beyond ASCII takes a state for each distinct set of sequences. -/
def setCost (set : CharSet) : Nat :=
  if set.ranges.all fun r => r.2 < 0x80 then
    2 * stateCost + transitionCost * set.ranges.length
  else
    let sequences := set.ranges.flatMap fun (low, high) =>
      let code (i : Nat) := if i < 0xD800 then i else i + CharSet.surrogates
      pieces 64 (code low) (code high)
    let states := (suffixes 5 sequences).eraseDups
    states.foldl (fun n s => n + stateCost + transitionCost * (groupHeads s).length) stateCost

namespace Expr

mutual

/-- The size of the program for an expression. Counted repetitions are written out. -/
def cost : Expr → Nat
  | .empty => stateCost
  | .literal chars => stateCost * (chars.flatMap fun c => utf8Bytes c.toNat).length
  | .oneOf set => setCost set
  | .look _ => stateCost
  | .repetition min max _ body =>
    let one := cost body
    match max with
    | none =>
      if min = 0 then one + 3 * stateCost + 4 * branchCost
      else min * one + stateCost + 2 * branchCost
    | some max => min * one + (max - min) * (one + stateCost + 2 * branchCost) + stateCost
  | .capture _ body => cost body + 2 * stateCost
  | .sequence parts => costs parts
  | .choice branches => costs branches + 2 * stateCost + branchCost * branches.length

def costs : List Expr → Nat
  | [] => 0
  | e :: es => cost e + costs es

end

end Expr
end WebServer.Regex

import WebServer.Regex.Program

/-!
# Searching

Runs a program on a text. The search follows the preferred branch first and tries each instruction
at most once at each position, so that its time is bounded by the product of both and the first
match found is the one that the preferences choose.
-/
namespace WebServer.Regex

/-- A position of a text: how many characters stand before it, the last of them, and those that
follow. -/
structure Spot where
  index : Nat
  before : Option Char
  after : List Char
  deriving DecidableEq, Repr

def isWordChar (unicode : Bool) (c : Char) : Bool :=
  if unicode then Unicode.wordChars.contains c else c.isAlphanum || c = '_'

/-- The condition holds at the position. -/
def Look.holds (kind : Look) (s : Spot) : Bool :=
  let word (unicode : Bool) (c : Option Char) : Bool := c.any (isWordChar unicode)
  let next := s.after.head?
  match kind with
  | .textStart => s.before.isNone
  | .textEnd => next.isNone
  | .lineStart => s.before.isNone || s.before = some '\n'
  | .lineEnd => next.isNone || next = some '\n'
  | .crlfLineStart =>
    s.before.isNone || s.before = some '\n' || (s.before = some '\r' && next ≠ some '\n')
  | .crlfLineEnd =>
    next.isNone || next = some '\r' || (next = some '\n' && s.before ≠ some '\r')
  | .boundary u => word u s.before != word u next
  | .notBoundary u => word u s.before == word u next
  | .wordStart u => !word u s.before && word u next
  | .wordEnd u => word u s.before && !word u next
  | .wordStartHalf u => !word u s.before
  | .wordEndHalf u => !word u next

/-- One way to go on: an instruction, a position, and the marks set so far, the latest first. -/
structure Thread where
  pc : Nat
  spot : Spot
  marks : List (Nat × Nat)
  deriving DecidableEq, Repr

/-- The threads that follow a thread, in the order of preference; none if it is stuck. -/
def Thread.follow (t : Thread) : Instr → List Thread
  | .take set next =>
    match t.spot.after with
    | c :: rest =>
      if set.contains c then [⟨next, ⟨t.spot.index + 1, some c, rest⟩, t.marks⟩] else []
    | [] => []
  | .split targets => targets.map fun pc => { t with pc }
  | .mark slot next => [⟨next, t.spot, (slot, t.spot.index) :: t.marks⟩]
  | .look kind next => if kind.holds t.spot then [{ t with pc := next }] else []
  | .accept => []

/-- The instructions already tried, as the bits of one number for each position. -/
abbrev Tried := Array Nat

def Tried.has (tried : Tried) (t : Thread) : Bool :=
  (tried.getD t.spot.index 0).testBit t.pc

def Tried.add (tried : Tried) (t : Thread) : Tried :=
  tried.modify t.spot.index (· ||| 1 <<< t.pc)

/-- Follows the threads one after another until one of them accepts. -/
def explore (p : Program) (fuel : Nat) (tried : Tried) (threads : List Thread) :
    Option Thread × Tried :=
  match fuel, threads with
  | 0, _ => (none, tried)
  | _, [] => (none, tried)
  | fuel + 1, t :: rest =>
    if tried.has t then explore p fuel tried rest
    else match p.instrs[t.pc]? with
      | none => explore p fuel tried rest
      | some .accept => (some t, tried)
      | some instr => explore p fuel (tried.add t) (t.follow instr ++ rest)

/-- A match: where it begins and ends, and the marks that its path set. -/
structure Match where
  start : Nat
  stop : Nat
  marks : List (Nat × Nat)
  deriving DecidableEq, Repr

/-- An instruction leads to at most this many others. -/
def Instr.degree : Instr → Nat
  | .split targets => targets.length
  | _ => 1

/-- More threads than a search over a text can follow. -/
def Program.fuel (p : Program) (length : Nat) : Nat :=
  (p.instrs.foldl (fun n instr => n + instr.degree) 0 + 1) * (length + 1) + 1

/-- Tries the positions of the text from left to right. -/
def searchFrom (p : Program) (fuel : Nat) (tried : Tried) (before : Option Char) (index : Nat)
    (text : List Char) : Option Match :=
  match explore p fuel tried [⟨p.start, ⟨index, before, text⟩, []⟩] with
  | (some t, _) => some ⟨index, t.spot.index, t.marks⟩
  | (none, tried) =>
    match text with
    | [] => none
    | c :: rest => searchFrom p fuel tried (some c) (index + 1) rest

/-- The first match in the text. -/
def Program.search (p : Program) (text : List Char) : Option Match :=
  searchFrom p (p.fuel text.length) (Array.replicate (text.length + 1) 0) none 0 text

/-- The text between two marks, if a group took part in the match. -/
def Match.group? (m : Match) (text : List Char) (index : Nat) : Option (List Char) :=
  match m.marks.lookup (2 * index), m.marks.lookup (2 * index + 1) with
  | some start, some stop => some ((text.drop start).take (stop - start))
  | _, _ => none

end WebServer.Regex

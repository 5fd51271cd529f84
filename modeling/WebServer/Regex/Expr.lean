import WebServer.Text.Utf8
import WebServer.Unicode.Lookup

/-!
# Regular expressions

Patterns with all names resolved, in a normal form: sequences and choices are flat, adjacent
literals are one literal, a choice between single characters is a class, and what all branches of
a choice begin with stands before it. The normal form decides which groups a pattern keeps and
which of several ways to match comes first.
-/
namespace WebServer.Regex

open Unicode (CharSet)

/-- Conditions on a position between two characters. -/
inductive Look where
  | textStart | textEnd | lineStart | lineEnd | crlfLineStart | crlfLineEnd
  | boundary (unicode : Bool)
  | notBoundary (unicode : Bool)
  | wordStart (unicode : Bool)
  | wordEnd (unicode : Bool)
  | wordStartHalf (unicode : Bool)
  | wordEndHalf (unicode : Bool)
  deriving DecidableEq, Repr

inductive Expr where
  | empty
  | literal (chars : List Char)
  /-- One character of the set; the empty set matches nothing. -/
  | oneOf (set : CharSet)
  | look (kind : Look)
  | repetition (min : Nat) (max : Option Nat) (greedy : Bool) (body : Expr)
  | capture (index : Nat) (body : Expr)
  | sequence (parts : List Expr)
  | choice (branches : List Expr)
  deriving Inhabited, Repr

namespace Expr

mutual

/-- The two expressions are the same. -/
def same : Expr → Expr → Bool
  | .empty, .empty => true
  | .literal a, .literal b => a == b
  | .oneOf a, .oneOf b => a == b
  | .look a, .look b => a == b
  | .repetition m n g a, .repetition m' n' g' b => m == m' && n == n' && g == g' && same a b
  | .capture i a, .capture j b => i == j && same a b
  | .sequence as, .sequence bs => allSame as bs
  | .choice as, .choice bs => allSame as bs
  | _, _ => false

def allSame : List Expr → List Expr → Bool
  | [], [] => true
  | a :: as, b :: bs => same a b && allSame as bs
  | _, _ => false

end

mutual

/-- The expression matches the empty text only. -/
def onlyEmpty : Expr → Bool
  | .empty | .look _ => true
  | .literal _ | .oneOf _ => false
  | .repetition _ max _ body => max.isSome && onlyEmpty body
  | .capture _ body => onlyEmpty body
  | .sequence parts => allOnlyEmpty parts
  | .choice branches => allOnlyEmpty branches

def allOnlyEmpty : List Expr → Bool
  | [] => true
  | e :: es => onlyEmpty e && allOnlyEmpty es

end

mutual

/-- The length of the shortest text that matches, as far as it is known: none for an expression
that contains the empty set. -/
def leastLength : Expr → Option Nat
  | .empty | .look _ => some 0
  | .literal chars => some chars.length
  | .oneOf set => if set.isEmpty then none else some 1
  | .repetition min _ _ body => (leastLength body).map (min * ·)
  | .capture _ body => leastLength body
  | .sequence parts => leastSum parts
  | .choice branches => leastOf branches

def leastSum : List Expr → Option Nat
  | [] => some 0
  | e :: es =>
    match leastLength e, leastSum es with
    | some a, some b => some (a + b)
    | _, _ => none

def leastOf : List Expr → Option Nat
  | [] => none
  | [e] => leastLength e
  | e :: es =>
    match leastLength e, leastOf es with
    | some a, some b => some (min a b)
    | _, _ => none

end

/-- Every match takes at least one character. -/
def consumes (e : Expr) : Bool := (leastLength e).any (0 < ·)

/-- A set with one member is that character. -/
def ofSet (set : CharSet) : Expr :=
  match set.only? with
  | some c => .literal [c]
  | none => .oneOf set

/-- An expression that matches only the empty text is repeated at most once, what is repeated
zero times is empty, and what is repeated exactly once stands for itself. -/
def repeated (min : Nat) (max : Option Nat) (greedy : Bool) (body : Expr) : Expr :=
  let (min, max) :=
    if onlyEmpty body then (Nat.min min 1, some ((max.map (Nat.min · 1)).getD 1)) else (min, max)
  if min = 0 ∧ max = some 0 then .empty
  else if min = 1 ∧ max = some 1 then body
  else .repetition min max greedy body

/-- Joins literals that stand side by side and drops empty parts. -/
def joinLiterals (text : List Char) : List Expr → List Expr
  | [] => if text.isEmpty then [] else [.literal text]
  | .literal chars :: rest => joinLiterals (text ++ chars) rest
  | .empty :: rest => joinLiterals text rest
  | e :: rest => (if text.isEmpty then [] else [.literal text]) ++ e :: joinLiterals [] rest

def parts : Expr → List Expr
  | .sequence parts => parts
  | e => [e]

def inSequence (es : List Expr) : Expr :=
  match joinLiterals [] (es.flatMap parts) with
  | [] => .empty
  | [e] => e
  | es => .sequence es

def branches : Expr → List Expr
  | .choice branches => branches
  | e => [e]

def singleChar? : Expr → Option Char
  | .literal [c] => some c
  | _ => none

/-- The set that a class or a single character is. -/
def set? : Expr → Option CharSet
  | .oneOf set => some set
  | .literal [c] => some (CharSet.singleton c)
  | _ => none

/-- How many parts two sequences have in common at their beginning. -/
def commonLength : List Expr → List Expr → Nat
  | a :: as, b :: bs => if same a b then commonLength as bs + 1 else 0
  | _, _ => 0

/-- The number of parts that all branches begin with; zero unless all are sequences. -/
def sharedLength (es : List Expr) : Nat :=
  match es with
  | .sequence first :: rest =>
    rest.foldl (fun n e =>
      match e with
      | .sequence other => commonLength (first.take n) other
      | _ => 0) first.length
  | _ => 0

/-- A choice of single characters or classes is a class. Branches that all begin alike, and are
all sequences, are one sequence with a choice at its end; the choice may again begin alike, so
that each round of `fuel` takes parts away. -/
def choose (fuel : Nat) (es : List Expr) : Expr :=
  match es.flatMap branches with
  | [] => .oneOf CharSet.empty
  | [e] => e
  | es =>
    match es.mapM set? with
    | some sets => ofSet (CharSet.unionAll sets)
    | none =>
      let n := sharedLength es
      match fuel with
      | 0 => .choice es
      | fuel + 1 =>
        if n = 0 then .choice es
        else
          let first := ((es.head?.map parts).getD []).take n
          inSequence (first ++ [choose fuel (es.map fun e => inSequence ((parts e).drop n))])

mutual

/-- The number of nested sequences and parts, a bound for the rounds of `choose`. -/
def size : Expr → Nat
  | .repetition _ _ _ body => size body + 1
  | .capture _ body => size body + 1
  | .sequence parts => sizes parts + 1
  | .choice branches => sizes branches + 1
  | _ => 1

def sizes : List Expr → Nat
  | [] => 0
  | e :: es => size e + sizes es

end

def inChoice (es : List Expr) : Expr := choose (sizes es + 1) es

mutual

/-- The greatest number of a group that captures; zero if there is none. -/
def lastGroup : Expr → Nat
  | .repetition _ _ _ body => lastGroup body
  | .capture index body => max index (lastGroup body)
  | .sequence parts => lastGroups parts
  | .choice branches => lastGroups branches
  | _ => 0

def lastGroups : List Expr → Nat
  | [] => 0
  | e :: es => max (lastGroup e) (lastGroups es)

end

end Expr
end WebServer.Regex

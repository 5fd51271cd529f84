/-!
# Patterns as they are written

The parts of a regular expression before flags and names get their meaning, and the ways in which
a text can fail to be one.
-/
namespace WebServer.Regex

/-- Why a text is no pattern. -/
inductive Fault where
  | unopenedGroup | unclosedGroup | unclosedClass | unclosedCount | unclosedBoundary
  | unexpectedEnd | noOperand | emptyCount | badCount | numberTooLarge
  | badGroupName | emptyGroupName | repeatedGroupName | lookAround
  | unknownFlag | repeatedFlag | repeatedNegation | danglingNegation
  | backreference | unknownEscape | badHex | badRange | badClassEscape | badClassName
  | unknownBoundary | unknownProperty | unicodeNotAllowed | notUtf8
  | tooDeep | tooLarge
  deriving DecidableEq, Repr

inductive Flag where
  | caseInsensitive | multiLine | dotAll | swapGreed | unicode | crlf | verbose
  deriving DecidableEq, Repr

/-- A change of flags: each with the value it gets, in the order written. -/
abbrev FlagChange := List (Flag × Bool)

/-- The assertions that a pattern can name. -/
inductive Assertion where
  | lineStart | lineEnd | textStart | textEnd
  | boundary | notBoundary | wordStart | wordEnd | wordStartHalf | wordEndHalf
  deriving DecidableEq, Repr

/-- The classes of one letter behind a backslash. -/
inductive PerlClass where
  | digit | blank | word
  deriving DecidableEq, Repr

/-- A Unicode class: by one name, or by a property and its value. -/
inductive ClassName where
  | single (name : List Char)
  | valued (property value : List Char)
  deriving DecidableEq, Repr

inductive SetOp where
  | inter | diff | symmDiff
  deriving DecidableEq, Repr

/-- A character in a pattern. `isByte` marks an escape of two hexadecimal digits, which without
Unicode stands for a byte. -/
structure Literal where
  char : Char
  isByte : Bool := false
  deriving DecidableEq, Repr

/-- What stands between the brackets of a class. -/
inductive SetSyntax where
  | literal (c : Literal)
  | range (low high : Literal)
  | ascii (ranges : List (Nat × Nat)) (negated : Bool)
  | perl (kind : PerlClass) (negated : Bool)
  | named (name : ClassName) (negated : Bool)
  | bracketed (set : SetSyntax) (negated : Bool)
  | union (items : List SetSyntax)
  | binary (op : SetOp) (left right : SetSyntax)
  deriving Repr

inductive Syntax where
  | empty
  | flags (change : FlagChange)
  | literal (c : Literal)
  | dot
  | assertion (kind : Assertion)
  | perl (kind : PerlClass) (negated : Bool)
  | named (name : ClassName) (negated : Bool)
  | bracketed (set : SetSyntax) (negated : Bool)
  | repetition (min : Nat) (max : Option Nat) (greedy : Bool) (body : Syntax)
  /-- A group with a number captures what it matches. -/
  | capture (index : Nat) (body : Syntax)
  | group (change : FlagChange) (body : Syntax)
  | alternation (branches : List Syntax)
  | sequence (parts : List Syntax)
  deriving Repr

mutual

/-- How deep brackets and operators of a class nest. -/
def SetSyntax.depth : SetSyntax → Nat
  | .bracketed set _ => set.depth + 1
  | .union items => SetSyntax.depths items + 1
  | .binary _ left right => max left.depth right.depth + 1
  | _ => 0

def SetSyntax.depths : List SetSyntax → Nat
  | [] => 0
  | item :: items => max item.depth (SetSyntax.depths items)

end

mutual

/-- How deep a pattern nests. Single characters and classes do not count. -/
def Syntax.depth : Syntax → Nat
  | .bracketed set _ => set.depth + 1
  | .repetition _ _ _ body => body.depth + 1
  | .capture _ body => body.depth + 1
  | .group _ body => body.depth + 1
  | .alternation branches => Syntax.depths branches + 1
  | .sequence parts => Syntax.depths parts + 1
  | _ => 0

def Syntax.depths : List Syntax → Nat
  | [] => 0
  | item :: items => max item.depth (Syntax.depths items)

end

/-- A pattern may nest this deep. -/
def depthLimit : Nat := 250

/-- No part is the empty sequence, and one part stands for itself. -/
def Syntax.ofParts : List Syntax → Syntax
  | [] => .empty
  | [part] => part
  | parts => .sequence parts

/-- One branch stands for itself. -/
def Syntax.ofBranches : List Syntax → Syntax
  | [branch] => branch
  | branches => .alternation branches

def SetSyntax.ofItems : List SetSyntax → SetSyntax
  | [item] => item
  | items => .union items

end WebServer.Regex

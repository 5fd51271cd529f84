import WebServer.Regex.Syntax
import WebServer.Text.Blank
import WebServer.Text.Quoted

/-!
# Reading patterns

Reads the text of a pattern. In verbose mode blanks and comments between the parts are skipped.
Loops take as fuel a bound on the number of characters: each of their rounds reads at least one.
-/
namespace WebServer.Regex

/-- What is left to read, and what was read so far as far as later parts depend on it. -/
structure State where
  rest : List Char
  verbose : Bool := false
  groups : Nat := 0
  names : List (List Char) := []
  deriving DecidableEq, Repr

abbrev Reader (α : Type) := StateT State (Except Fault) α

namespace Reader

def peek : Reader (Option Char) := fun s => .ok (s.rest.head?, s)

def skip : Reader Unit := modify fun s => { s with rest := s.rest.drop 1 }

/-- Skips blanks and comments, which run to the end of their line. -/
def skipBlanks (inComment : Bool) : List Char → List Char
  | [] => []
  | c :: rest =>
    if inComment then skipBlanks (c != '\n') rest
    else if Text.isBlank c then skipBlanks false rest
    else if c = '#' then skipBlanks true rest
    else c :: rest

def space : Reader Unit := modify fun s =>
  if s.verbose then { s with rest := skipBlanks false s.rest } else s

/-- Steps over a character and the blanks behind it; the next character must exist. -/
def advance (fault : Fault) : Reader Unit := do
  skip
  space
  if (← peek).isNone then throw fault

/-- Steps over the text if it comes next. -/
def skipIf (text : List Char) : Reader Bool := do
  let s ← get
  if text.isPrefixOf s.rest then
    set { s with rest := s.rest.drop text.length }
    return true
  else return false

/-- The character behind the next one. In verbose mode blanks are passed over, and so is the mark
that begins a comment. -/
def peekSecond : Reader (Option Char) := do
  let s ← get
  let next := s.rest.tail.head?
  return if s.verbose then (go false s.rest.tail).or next else next
where
  go (inComment : Bool) : List Char → Option Char
    | [] => none
    | c :: rest =>
      if Text.isBlank c then go inComment rest
      else if !inComment && c = '#' then go true rest
      else some c

def isMeta (c : Char) : Bool :=
  ['\\', '.', '+', '*', '?', '(', ')', '|', '[', ']', '\x7b', '\x7d', '^', '$', '#', '&', '-',
    '~'].contains c

/-- A backslash may stand before any ASCII character but letters, digits and angle brackets. -/
def isEscapable (c : Char) : Bool :=
  isMeta c || (c.toNat < 0x80 && !c.isAlphanum && c != '<' && c != '>')

def hexDigit? (c : Char) : Option Nat :=
  if c.toNat < 0x80 then (Bytes.hexValue? c.toNat.toUInt8).map (·.toNat) else none

/-- The character with that code point, if there is one. -/
def scalar? (n : Nat) : Option Char := if n.isValidChar then some (Char.ofNat n) else none

def hexChar (digits : List Nat) : Reader Char :=
  match scalar? (digits.foldl (fun n d => n * 16 + d) 0) with
  | none => throw .badHex
  | some c => return c

/-- A fixed number of hexadecimal digits. -/
def hexDigits (count : Nat) (done : List Nat) : Reader (List Nat) :=
  match count with
  | 0 => return done.reverse
  | count + 1 => do
    match ← peek with
    | none => throw .unexpectedEnd
    | some c =>
      match hexDigit? c with
      | none => throw .badHex
      | some d =>
        skip
        space
        hexDigits count (d :: done)

/-- Hexadecimal digits up to a closing brace. -/
def bracedHexDigits (fuel : Nat) (done : List Nat) : Reader (List Nat) :=
  match fuel with
  | 0 => throw .unexpectedEnd
  | fuel + 1 => do
    advance .unexpectedEnd
    match ← peek with
    | none => throw .unexpectedEnd
    | some c =>
      if c = '\x7d' then
        skip
        space
        return done.reverse
      else match hexDigit? c with
        | none => throw .badHex
        | some d => bracedHexDigits fuel (d :: done)

/-- A character by its number, behind `x`, `u` or `U`. -/
def hexEscape (fuel : Nat) (kind : Char) : Reader Literal := do
  advance .unexpectedEnd
  if (← peek) = some '\x7b' then
    let digits ← bracedHexDigits fuel []
    if digits.isEmpty then throw .badHex
    return ⟨← hexChar digits, false⟩
  else
    let digits ← hexDigits (if kind = 'x' then 2 else if kind = 'u' then 4 else 8) []
    return ⟨← hexChar digits, kind = 'x'⟩

/-- The characters up to a closing brace, which is stepped over. -/
def bracedName (fuel : Nat) (done : List Char) : Reader (List Char) :=
  match fuel with
  | 0 => throw .unexpectedEnd
  | fuel + 1 => do
    advance .unexpectedEnd
    match ← peek with
    | none => throw .unexpectedEnd
    | some c =>
      if c = '\x7d' then
        skip
        return done.reverse
      else bracedName fuel (c :: done)

/-- The text before the first occurrence of `mark`, and the text behind it. -/
def cut? (mark : List Char) (before : List Char) : List Char → Option (List Char × List Char)
  | [] => none
  | c :: rest =>
    if mark.isPrefixOf (c :: rest) then some (before.reverse, (c :: rest).drop mark.length)
    else cut? mark (c :: before) rest

/-- A Unicode class behind `p` or `P`. -/
def unicodeClass (fuel : Nat) (negated : Bool) : Reader Syntax := do
  advance .unexpectedEnd
  match ← peek with
  | none => throw .unexpectedEnd
  | some c =>
    if c = '\x7b' then
      let name ← bracedName fuel []
      match cut? ['!', '='] [] name with
      | some (property, value) => return .named (.valued property value) !negated
      | none =>
        match cut? [':'] [] name <|> cut? ['='] [] name with
        | some (property, value) => return .named (.valued property value) negated
        | none => return .named (.single name) negated
    else if c = '\\' then throw .badClassName
    else
      skip
      space
      return .named (.single [c]) negated

def isBoundaryChar (c : Char) : Bool := c.isAlpha || c = '-'

def boundaryName (fuel : Nat) (done : List Char) : Reader String :=
  match fuel with
  | 0 => throw .unclosedBoundary
  | fuel + 1 => do
    match ← peek with
    | none => throw .unclosedBoundary
    | some c =>
      if isBoundaryChar c then
        skip
        space
        boundaryName fuel (c :: done)
      else if c = '\x7d' then
        skip
        return String.ofList done.reverse
      else throw .unclosedBoundary

/-- What stands in braces behind `\b`: the name of a boundary, unless it is a count. -/
def boundary (fuel : Nat) : Reader Assertion := do
  if (← peek) ≠ some '\x7b' then return .boundary
  let before ← get
  advance .unclosedBoundary
  if !(← peek).any isBoundaryChar then
    set before
    return .boundary
  match ← boundaryName fuel [] with
  | "start" => return .wordStart
  | "end" => return .wordEnd
  | "start-half" => return .wordStartHalf
  | "end-half" => return .wordEndHalf
  | _ => throw .unknownBoundary

/-- The controls with a letter of their own. -/
def control? (c : Char) : Option Char :=
  match c with
  | 'a' => some '\x07'
  | 'f' => some '\x0c'
  | 't' => some '\t'
  | 'n' => some '\n'
  | 'r' => some '\r'
  | 'v' => some '\x0b'
  | _ => none

/-- The classes and assertions of one character behind a backslash. -/
def named? (c : Char) : Option Syntax :=
  match c with
  | 'd' => some (.perl .digit false)
  | 'D' => some (.perl .digit true)
  | 's' => some (.perl .blank false)
  | 'S' => some (.perl .blank true)
  | 'w' => some (.perl .word false)
  | 'W' => some (.perl .word true)
  | 'A' => some (.assertion .textStart)
  | 'z' => some (.assertion .textEnd)
  | 'B' => some (.assertion .notBoundary)
  | '<' => some (.assertion .wordStart)
  | '>' => some (.assertion .wordEnd)
  | _ => none

/-- What a backslash and the letters behind it mean. -/
def escape (fuel : Nat) : Reader Syntax := do
  skip
  match ← peek with
  | none => throw .unexpectedEnd
  | some c =>
    if c.isDigit then throw .backreference
    else if c = 'x' ∨ c = 'u' ∨ c = 'U' then return .literal (← hexEscape fuel c)
    else if c = 'p' ∨ c = 'P' then unicodeClass fuel (c = 'P')
    else
      skip
      if c = 'b' then return .assertion (← boundary fuel)
      match named? c with
      | some part => return part
      | none =>
        if isEscapable c then return .literal ⟨c, false⟩
        else match control? c with
          | some c => return .literal ⟨c, false⟩
          | none => throw .unknownEscape

/-- The ASCII classes that may stand in brackets of their own. -/
def asciiRanges? : String → Option (List (Nat × Nat))
  | "alnum" => some [(48, 57), (65, 90), (97, 122)]
  | "alpha" => some [(65, 90), (97, 122)]
  | "ascii" => some [(0, 127)]
  | "blank" => some [(9, 9), (32, 32)]
  | "cntrl" => some [(0, 31), (127, 127)]
  | "digit" => some [(48, 57)]
  | "graph" => some [(33, 126)]
  | "lower" => some [(97, 122)]
  | "print" => some [(32, 126)]
  | "punct" => some [(33, 47), (58, 64), (91, 96), (123, 126)]
  | "space" => some [(9, 13), (32, 32)]
  | "upper" => some [(65, 90)]
  | "word" => some [(48, 57), (65, 90), (95, 95), (97, 122)]
  | "xdigit" => some [(48, 57), (65, 70), (97, 102)]
  | _ => none

/-- The ASCII class with the name up to a colon and a bracket, and the text behind it. -/
def asciiName? (negated : Bool) (text : List Char) : Option (SetSyntax × List Char) :=
  match text.span (· != ':') with
  | (name, ':' :: ']' :: rest) =>
    (asciiRanges? (String.ofList name)).map fun ranges => (.ascii ranges negated, rest)
  | _ => none

/-- An ASCII class such as `[:alpha:]` and the text behind it. -/
def asciiClass? (text : List Char) : Option (SetSyntax × List Char) :=
  match text with
  | '[' :: ':' :: '^' :: rest => asciiName? true rest
  | '[' :: ':' :: rest => asciiName? false rest
  | _ => none

/-- One character or class inside brackets. -/
def setPart (fuel : Nat) : Reader Syntax := do
  match ← peek with
  | none => throw .unclosedClass
  | some c =>
    if c = '\\' then escape fuel
    else
      skip
      return .literal ⟨c, false⟩

def setItem : Syntax → Reader SetSyntax
  | .literal c => return .literal c
  | .perl kind negated => return .perl kind negated
  | .named name negated => return .named name negated
  | _ => throw .badClassEscape

def setLiteral : Syntax → Reader Literal
  | .literal c => return c
  | _ => throw .badRange

/-- An item of a class: a range, or a single part. A hyphen before a bracket or another hyphen
makes no range. -/
def setRange (fuel : Nat) : Reader SetSyntax := do
  let low ← setPart fuel
  space
  match ← peek with
  | none => throw .unclosedClass
  | some c =>
    if c != '-' then setItem low
    else
      let second ← peekSecond
      if second = some ']' ∨ second = some '-' then setItem low
      else
        advance .unclosedClass
        let high ← setPart fuel
        let low ← setLiteral low
        let high ← setLiteral high
        if high.char < low.char then throw .badRange
        return .range low high

/-- Hyphens at the beginning of a class stand for themselves. -/
def leadingHyphens (fuel : Nat) (done : List SetSyntax) : Reader (List SetSyntax) :=
  match fuel with
  | 0 => throw .unclosedClass
  | fuel + 1 => do
    if (← peek) = some '-' then
      advance .unclosedClass
      leadingHyphens fuel (.literal ⟨'-', false⟩ :: done)
    else return done

/-- The beginning of a class: whether it is negated, and the items that stand for themselves
only there. -/
def openClass (fuel : Nat) : Reader (Bool × List SetSyntax) := do
  advance .unclosedClass
  let negated := (← peek) = some '^'
  if negated then advance .unclosedClass
  let items ← leadingHyphens fuel []
  if items.isEmpty ∧ (← peek) = some ']' then
    advance .unclosedClass
    return (negated, [.literal ⟨']', false⟩])
  return (negated, items)

/-- Applies the operator that waits for its right side. -/
def combine (left : Option (SetOp × SetSyntax)) (items : List SetSyntax) : SetSyntax :=
  let right := SetSyntax.ofItems items.reverse
  match left with
  | none => right
  | some (op, left) => .binary op left right

/-- The rest of a class up to its bracket. Operators bind equally and to the left. -/
def setItems (fuel : Nat) (left : Option (SetOp × SetSyntax)) (items : List SetSyntax) :
    Reader SetSyntax :=
  match fuel with
  | 0 => throw .unclosedClass
  | fuel + 1 => do
    space
    match ← peek with
    | none => throw .unclosedClass
    | some c =>
      if c = '[' then
        let s ← get
        match asciiClass? s.rest with
        | some (item, rest) =>
          set { s with rest }
          setItems fuel left (item :: items)
        | none =>
          let (negated, first) ← openClass fuel
          let inner ← setItems fuel none first
          setItems fuel left (.bracketed inner negated :: items)
      else if c = ']' then
        skip
        return combine left items
      else if ← skipIf ['&', '&'] then setItems fuel (some (.inter, combine left items)) []
      else if ← skipIf ['-', '-'] then setItems fuel (some (.diff, combine left items)) []
      else if ← skipIf ['~', '~'] then setItems fuel (some (.symmDiff, combine left items)) []
      else
        let item ← setRange fuel
        setItems fuel left (item :: items)

/-- A class with its brackets. -/
def setClass (fuel : Nat) : Reader Syntax := do
  let (negated, first) ← openClass fuel
  let inner ← setItems fuel none first
  return .bracketed inner negated

def flag? : Char → Option Flag
  | 'i' => some .caseInsensitive
  | 'm' => some .multiLine
  | 's' => some .dotAll
  | 'U' => some .swapGreed
  | 'u' => some .unicode
  | 'R' => some .crlf
  | 'x' => some .verbose
  | _ => none

/-- Flags up to a colon or a parenthesis. Those behind a hyphen are switched off. -/
def flags (fuel : Nat) (negated dangling : Bool) (done : FlagChange) : Reader FlagChange :=
  match fuel with
  | 0 => throw .unexpectedEnd
  | fuel + 1 => do
    match ← peek with
    | none => throw .unexpectedEnd
    | some c =>
      if c = ':' ∨ c = ')' then
        if dangling then throw .danglingNegation else return done.reverse
      else if c = '-' then
        if negated then throw .repeatedNegation
        skip
        flags fuel true true done
      else match flag? c with
        | none => throw .unknownFlag
        | some flag =>
          if done.any (·.1 == flag) then throw .repeatedFlag
          skip
          flags fuel negated false ((flag, !negated) :: done)

def isNameStart (c : Char) : Bool := c = '_' || Unicode.alphabetic.contains c

def isNameChar (c : Char) : Bool :=
  c = '_' || c = '.' || c = '[' || c = ']' || Unicode.alphanumeric.contains c

/-- The name of a group up to its angle bracket. -/
def groupName : Reader Unit := do
  let s ← get
  match s.rest.span (· != '>') with
  | ([], '>' :: _) => throw .emptyGroupName
  | (first :: others, '>' :: rest) =>
    if !isNameStart first || !others.all isNameChar then throw .badGroupName
    if s.names.contains (first :: others) then throw .repeatedGroupName
    set { s with rest, names := (first :: others) :: s.names }
  | _ => throw .badGroupName

inductive GroupHead where
  | flags (change : FlagChange)
  | plain (change : FlagChange)
  | capture (index : Nat)
  deriving DecidableEq, Repr

/-- The number of the next group that captures. -/
def nextIndex : Reader Nat := modifyGet fun s => (s.groups + 1, { s with groups := s.groups + 1 })

/-- What stands between an opening parenthesis and the body of its group. -/
def groupHead (fuel : Nat) : Reader GroupHead := do
  skip
  space
  let s ← get
  if [['?', '='], ['?', '!'], ['?', '<', '='], ['?', '<', '!']].any fun look =>
      look.isPrefixOf s.rest then throw .lookAround
  if ← skipIf ['?', 'P', '<'] <||> skipIf ['?', '<'] then
    let index ← nextIndex
    groupName
    return .capture index
  else if ← skipIf ['?'] then
    let change ← flags fuel false false []
    let last ← peek
    skip
    if last = some ')' then
      if change.isEmpty then throw .noOperand
      return .flags change
    else return .plain change
  else return .capture (← nextIndex)

/-- Blanks are allowed around a number in every mode. -/
def skipBlanksAround (fuel : Nat) (all : Bool) : Reader Unit :=
  match fuel with
  | 0 => throw .unclosedCount
  | fuel + 1 => do
    if (← peek).any Text.isBlank then
      skip
      if all then space
      skipBlanksAround fuel all

def decimalDigits (fuel : Nat) (done : List Char) : Reader (List Char) :=
  match fuel with
  | 0 => throw .unclosedCount
  | fuel + 1 => do
    match ← peek with
    | some c =>
      if c.isDigit then
        skip
        space
        decimalDigits fuel (c :: done)
      else return done.reverse
    | none => return done.reverse

/-- A number of at most 32 bits; `none` if there are no digits. -/
def decimal (fuel : Nat) : Reader (Option Nat) := do
  skipBlanksAround fuel false
  let digits ← decimalDigits fuel []
  skipBlanksAround fuel true
  if digits.isEmpty then return none
  let n := digits.foldl (fun n c => n * 10 + (c.toNat - 48)) 0
  if 0x100000000 ≤ n then throw .numberTooLarge
  return some n

/-- The part that an operator repeats. Neither nothing nor a change of flags can be repeated. -/
def operand (parts : List Syntax) : Reader (Syntax × List Syntax) :=
  match parts with
  | [] => throw .noOperand
  | .empty :: _ => throw .noOperand
  | .flags _ :: _ => throw .noOperand
  | part :: rest => return (part, rest)

/-- A question mark behind an operator makes it prefer less. -/
def greedy : Reader Bool := return !(← skipIf ['?'])

/-- A count in braces. -/
def count (fuel : Nat) : Reader (Nat × Option Nat) := do
  advance .unclosedCount
  let min ← decimal fuel
  match ← peek with
  | none => throw .unclosedCount
  | some c =>
    if c = ',' then
      advance .unclosedCount
      match min with
      | none => throw .emptyCount
      | some min =>
        if (← peek) = some '\x7d' then return (min, none)
        match ← decimal fuel with
        | none => throw .emptyCount
        | some max =>
          if max < min then throw .badCount
          return (min, some max)
    else match min with
      | none => throw .emptyCount
      | some min => return (min, some min)

/-- The part with the repetition that stands behind it. -/
def repeated (fuel : Nat) (c : Char) (part : Syntax) : Reader Syntax := do
  if c = '\x7b' then
    let (min, max) ← count fuel
    if (← peek) ≠ some '\x7d' then throw .unclosedCount
    skip
    space
    return .repetition min max (← greedy) part
  else
    skip
    let (min, max) := if c = '?' then (0, some 1) else if c = '*' then (0, none) else (1, none)
    return .repetition min max (← greedy) part

/-- The branches of a group, or of the whole pattern, up to the closing parenthesis or the end.
Branches and parts are collected in reverse. -/
def branches (fuel : Nat) (inGroup : Bool) (done : List Syntax) (parts : List Syntax) :
    Reader Syntax :=
  match fuel with
  | 0 => throw .unexpectedEnd
  | fuel + 1 => do
    let finished : Syntax := .ofBranches ((Syntax.ofParts parts.reverse :: done).reverse)
    space
    match ← peek with
    | none => if inGroup then throw .unclosedGroup else return finished
    | some c =>
      if c = '(' then
        let head ← groupHead fuel
        let outer := (← get).verbose
        let inner (change : FlagChange) : Bool := (change.lookup .verbose).getD outer
        match head with
        | .flags change =>
          modify fun s => { s with verbose := inner change }
          branches fuel inGroup done (.flags change :: parts)
        | .plain change =>
          modify fun s => { s with verbose := inner change }
          let body ← branches fuel true [] []
          modify fun s => { s with verbose := outer, rest := s.rest.drop 1 }
          branches fuel inGroup done (.group change body :: parts)
        | .capture index =>
          let body ← branches fuel true [] []
          modify fun s => { s with verbose := outer, rest := s.rest.drop 1 }
          branches fuel inGroup done (.capture index body :: parts)
      else if c = ')' then
        if inGroup then return finished else throw .unopenedGroup
      else if c = '|' then
        skip
        branches fuel inGroup (Syntax.ofParts parts.reverse :: done) []
      else if c = '[' then
        let part ← setClass fuel
        branches fuel inGroup done (part :: parts)
      else if c = '?' ∨ c = '*' ∨ c = '+' ∨ c = '\x7b' then
        let (part, parts) ← operand parts
        let part ← repeated fuel c part
        branches fuel inGroup done (part :: parts)
      else if c = '\\' then
        let part ← escape fuel
        branches fuel inGroup done (part :: parts)
      else
        skip
        let part : Syntax :=
          if c = '.' then .dot
          else if c = '^' then .assertion .lineStart
          else if c = '$' then .assertion .lineEnd
          else .literal ⟨c, false⟩
        branches fuel inGroup done (part :: parts)

end Reader

/-- Reads a whole pattern. -/
def Syntax.read (pattern : List Char) : Except Fault Syntax := do
  let (parsed, _) ← Reader.branches (pattern.length + 1) false [] [] { rest := pattern }
  if depthLimit < parsed.depth then throw .tooDeep
  return parsed

end WebServer.Regex

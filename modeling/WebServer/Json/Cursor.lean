import WebServer.Text.Utf8

/-!
# Reading JSON: position, strings and numbers

A cursor holds the bytes that are left and where they stand. A fault names its cause and a place:
either the place just reached or, where the next byte is to blame, the place behind that byte.
-/
namespace WebServer.Json

inductive Cause where
  | endInList | endInObject | endInString | endInValue
  | noColon | noListEnd | noObjectEnd | noIdentifier | noValue
  | badEscape | badNumber | outOfRange | badCharacter | control | keyNotText
  | loneSurrogate | endOfEscape | trailingComma | trailingCharacters | tooDeep
  /-- A value of the wrong kind for what the reader wants. -/
  | custom (message : String)
  deriving DecidableEq, Repr

def Cause.message : Cause → String
  | .endInList => "EOF while parsing a list"
  | .endInObject => "EOF while parsing an object"
  | .endInString => "EOF while parsing a string"
  | .endInValue => "EOF while parsing a value"
  | .noColon => "expected `:`"
  | .noListEnd => "expected `,` or `]`"
  | .noObjectEnd => "expected `,` or `\x7d`"
  | .noIdentifier => "expected ident"
  | .noValue => "expected value"
  | .badEscape => "invalid escape"
  | .badNumber => "invalid number"
  | .outOfRange => "number out of range"
  | .badCharacter => "invalid unicode code point"
  | .control => "control character (\\u0000-\\u001F) found while parsing a string"
  | .keyNotText => "key must be a string"
  | .loneSurrogate => "lone leading surrogate in hex escape"
  | .endOfEscape => "unexpected end of hex escape"
  | .trailingComma => "trailing comma"
  | .trailingCharacters => "trailing characters"
  | .tooDeep => "recursion limit exceeded"
  | .custom message => message

structure Fault where
  cause : Cause
  line : Nat
  column : Nat
  deriving DecidableEq, Repr

def Fault.message (fault : Fault) : String :=
  s!"{fault.cause.message} at line {fault.line} column {fault.column}"

structure Cursor where
  line : Nat
  column : Nat
  rest : Bytes
  deriving DecidableEq, Repr

def Cursor.start (bytes : Bytes) : Cursor := ⟨1, 0, bytes⟩

/-- Steps over one byte; a line feed begins a line. -/
def Cursor.next (c : Cursor) : Cursor :=
  match c.rest with
  | [] => c
  | b :: rest => if b = Bytes.lf then ⟨c.line + 1, 0, rest⟩ else ⟨c.line, c.column + 1, rest⟩

abbrev Reader (α : Type) := StateT Cursor (Except Fault) α

namespace Reader

/-- The fault lies in what was read last. -/
def fail {α : Type} (cause : Cause) : Reader α := fun c => .error ⟨cause, c.line, c.column⟩

/-- The fault lies in the next byte. -/
def failAhead {α : Type} (cause : Cause) : Reader α := fun c =>
  let ahead := c.next
  .error ⟨cause, ahead.line, ahead.column⟩

def peek : Reader (Option UInt8) := fun c => .ok (c.rest.head?, c)

def skip : Reader Unit := fun c => .ok ((), c.next)

def next : Reader (Option UInt8) := do
  let b ← peek
  skip
  return b

def isBlank (b : UInt8) : Bool := b = 32 || b = 10 || b = 9 || b = 13

def Cursor.skipWhile (p : UInt8 → Bool) (c : Cursor) : Cursor :=
  go c.line c.column c.rest
where
  go (line column : Nat) : Bytes → Cursor
    | [] => ⟨line, column, []⟩
    | b :: rest =>
      if !p b then ⟨line, column, b :: rest⟩
      else if b = Bytes.lf then go (line + 1) 0 rest
      else go line (column + 1) rest

/-- Steps over blanks and shows the byte behind them. -/
def peekPastBlanks : Reader (Option UInt8) := fun c =>
  let c := Cursor.skipWhile isBlank c
  .ok (c.rest.head?, c)

/-- Reads the bytes of a known word. -/
def identifier : List UInt8 → Reader Unit
  | [] => pure ()
  | expected :: word => do
    match ← next with
    | none => fail .endInValue
    | some b => if b = expected then identifier word else fail .noIdentifier

/-- Reads four hexadecimal digits. -/
def hexEscape : Reader Nat := fun c =>
  match c.rest with
  | a :: b :: d :: e :: rest =>
    let after : Cursor := ⟨c.line, c.column + 4, rest⟩
    match Bytes.hexValue? a, Bytes.hexValue? b, Bytes.hexValue? d, Bytes.hexValue? e with
    | some a, some b, some d, some e =>
      .ok (((a.toNat * 16 + b.toNat) * 16 + d.toNat) * 16 + e.toNat, after)
    | _, _, _, _ =>
      let after := c.next.next.next.next
      .error ⟨.badEscape, after.line, after.column⟩
  | _ =>
    let after := Cursor.skipWhile (fun _ => true) c
    .error ⟨.endInString, after.line, after.column⟩

/-- A byte that an escape of a surrogate pair needs. -/
def surrogateByte (expected : UInt8) : Reader Unit := do
  match ← peek with
  | none => fail .endInString
  | some b =>
    skip
    if b = expected then return () else fail .endOfEscape

/-- The character of an escape with a number: characters beyond 0xFFFF are written as a pair of
surrogates, and surrogates stand for nothing else. -/
def unicodeEscape : Reader Char := do
  let high ← hexEscape
  if 0xDC00 ≤ high ∧ high ≤ 0xDFFF then fail .loneSurrogate
  else if high < 0xD800 ∨ 0xDBFF < high then return Char.ofNat high
  else
    surrogateByte 0x5C
    surrogateByte 0x75
    let low ← hexEscape
    if low < 0xDC00 ∨ 0xDFFF < low then fail .loneSurrogate
    else return Char.ofNat ((high - 0xD800) * 0x400 + (low - 0xDC00) + 0x10000)

/-- The character that a letter behind a backslash stands for. -/
def simpleEscape? (b : UInt8) : Option Char :=
  if b = 0x22 then some '"'
  else if b = 0x5C then some '\\'
  else if b = 0x2F then some '/'
  else if b = 0x62 then some (Char.ofNat 8)
  else if b = 0x66 then some (Char.ofNat 12)
  else if b = 0x6E then some '\n'
  else if b = 0x72 then some '\r'
  else if b = 0x74 then some '\t'
  else none

/-- What stands behind a backslash. -/
def escape : Reader Char := do
  match ← next with
  | none => fail .endInString
  | some b =>
    if b = 0x75 then unicodeEscape
    else match simpleEscape? b with
      | some c => return c
      | none => fail .badEscape

/-- Steps over an escape. Here a surrogate may stand alone. -/
def skipEscape : Reader Unit := do
  match ← next with
  | none => fail .endInString
  | some b =>
    if b = 0x75 then discard hexEscape
    else if (simpleEscape? b).isNone then fail .badEscape
    else return ()

/-- The bytes of a string behind its opening quote, in reverse. Every round takes a byte, so that
`fuel` suffices if it is no less than the number of bytes that are left. -/
def stringBytes (fuel : Nat) (done : Bytes) : Reader Bytes :=
  match fuel with
  | 0 => fail .endInString
  | fuel + 1 => do
    match ← next with
    | none => fail .endInString
    | some b =>
      if b = 0x22 then return done
      else if b = 0x5C then
        let c ← escape
        stringBytes fuel ((Text.encode c.toString).reverse ++ done)
      else if b < 0x20 then fail .control
      else stringBytes fuel (b :: done)

/-- A string behind its opening quote. -/
def string (fuel : Nat) : Reader String := do
  let bytes ← stringBytes fuel []
  match Text.decode? bytes.reverse with
  | none => fail .badCharacter
  | some content => return content

/-- Steps over a string behind its opening quote. -/
def skipString (fuel : Nat) : Reader Unit :=
  match fuel with
  | 0 => fail .endInString
  | fuel + 1 => do
    match ← peek with
    | none => fail .endInString
    | some b =>
      if b < 0x20 then fail .control
      else
        skip
        if b = 0x22 then return ()
        else
          if b = 0x5C then skipEscape
          skipString fuel

/-- Steps over decimal digits and gives their values. -/
def digits : Reader (List Nat) := fun c =>
  let (taken, rest) := c.rest.span Bytes.isDigit
  .ok (taken.map fun b => b.toNat - 48, ⟨c.line, c.column + taken.length, rest⟩)

def greatestSignificand : Nat := 0xFFFFFFFFFFFFFFFF

/-- Takes as many digits into the significand as fit, and counts the others. -/
def absorb (significand : Nat) : List Nat → Nat × Nat
  | [] => (significand, 0)
  | d :: rest =>
    if greatestSignificand < significand * 10 + d then (significand, (d :: rest).length)
    else absorb (significand * 10 + d) rest

/-- A power of ten as a double. -/
def powerOfTen (n : Nat) : Float := Float.ofScientific 1 false n

/-- The number `f * 10 ^ exponent`, computed with one rounding for each factor of at most 1e308;
`none` if it is too large. -/
def scale? (f : Float) (exponent : Int) : Option Float :=
  if exponent < -308 then
    if f == 0 then some f else scale? (f / powerOfTen 308) (exponent + 308)
  else if exponent < 0 then some (f / powerOfTen exponent.natAbs)
  else if 308 < exponent then if f == 0 then some f else none
  else
    let scaled := f * powerOfTen exponent.natAbs
    if scaled.isInf then none else some scaled
termination_by (-exponent).toNat
decreasing_by omega

def double (positive : Bool) (significand : Nat) (exponent : Int) : Reader Float :=
  match scale? significand.toUInt64.toFloat exponent with
  | none => fail .outOfRange
  | some f => return if positive then f else -f

def greatestExponent : Nat := 0x7FFFFFFF

/-- How many digits it takes to go beyond the greatest exponent. -/
def overflowAt? (value count : Nat) : List Nat → Option Nat
  | [] => none
  | d :: rest =>
    if greatestExponent < value * 10 + d then some (count + 1)
    else overflowAt? (value * 10 + d) (count + 1) rest

/-- The exponent behind `e`, and the number. -/
def withExponent (positive : Bool) (significand : Nat) (before : Int) : Reader Float := do
  skip
  let sign ← peek
  if sign = some 0x2B ∨ sign = some 0x2D then skip
  let negative := sign = some 0x2D
  match ← peek with
  | none => fail .endInValue
  | some b =>
    if !Bytes.isDigit b then
      skip
      fail .badNumber
    else
      let start ← get
      let digits ← digits
      match overflowAt? 0 0 digits with
      | some count =>
        if significand ≠ 0 ∧ !negative then
          throw ⟨.outOfRange, start.line, start.column + count⟩
        else return if positive then 0.0 else -0.0
      | none =>
        let exponent : Nat := digits.foldl (fun n d => n * 10 + d) 0
        double positive significand (if negative then before - exponent else before + exponent)

def isExponentMark (b : Option UInt8) : Bool := b = some 0x65 || b = some 0x45

/-- The digits behind the point, and the number. -/
def withFraction (positive : Bool) (significand : Nat) (before : Int) : Reader Float := do
  skip
  let digits ← digits
  if digits.isEmpty then
    match ← peek with
    | none => failAhead .endInValue
    | some _ => failAhead .badNumber
  else
    let (significand, dropped) := absorb significand digits
    let exponent := before - ((digits.length - dropped : Nat) : Int)
    if isExponentMark (← peek) then withExponent positive significand exponent
    else double positive significand exponent

inductive Number where
  | int (value : Int)
  | float (value : Float)
  deriving Repr

/-- A number behind its sign. An integer that is out of range, and zero with a sign, are read as
doubles. -/
def number (positive : Bool) : Reader Number := do
  match ← peek with
  | none => fail .endInValue
  | some b =>
    if !Bytes.isDigit b then
      skip
      fail .badNumber
    else
      if b = 0x30 then
        skip
        if (← peek).any Bytes.isDigit then failAhead .badNumber
      let digits ← digits
      let (significand, dropped) := absorb 0 digits
      let mark ← peek
      if mark = some 0x2E then return .float (← withFraction positive significand dropped)
      else if isExponentMark mark then
        return .float (← withExponent positive significand dropped)
      else if dropped ≠ 0 then return .float (← double positive significand dropped)
      else if positive then return .int significand
      else if significand = 0 ∨ 0x8000000000000000 < significand then
        return .float (-significand.toUInt64.toFloat)
      else return .int (-(significand : Int))

/-- Steps over a number behind its sign. -/
def skipNumber : Reader Unit := do
  match ← peek with
  | none => fail .badNumber
  | some b =>
    skip
    if b = 0x30 then
      if (← peek).any Bytes.isDigit then failAhead .badNumber
    else if Bytes.isDigit b then discard digits
    else fail .badNumber
  if (← peek) = some 0x2E then
    skip
    if (← digits).isEmpty then failAhead .badNumber
  if isExponentMark (← peek) then
    skip
    let sign ← peek
    if sign = some 0x2B ∨ sign = some 0x2D then skip
    match ← peek with
    | none => fail .badNumber
    | some b =>
      skip
      if Bytes.isDigit b then discard digits else fail .badNumber

end Reader
end WebServer.Json

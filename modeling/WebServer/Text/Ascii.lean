import WebServer.Bytes

/-!
# ASCII text

Comparison without regard to the case of ASCII letters, token characters, and decimal numerals.
-/
namespace WebServer.Text

/-- Equal up to the case of the letters a to z; all other characters compare exactly. -/
def sameIgnoringCase (a b : String) : Bool :=
  a.toList.map Char.toLower == b.toList.map Char.toLower

/-- The bytes that may stand in a token: a method or the name of a header field. -/
def isTokenByte (b : UInt8) : Bool :=
  Bytes.isDigit b || Bytes.isLetter b ||
    [0x21, 0x23, 0x24, 0x25, 0x26, 0x27, 0x2A, 0x2B, 0x2D, 0x2E, 0x5E, 0x5F, 0x60, 0x7C, 0x7E].contains b

/-- The text up to the first `mark` and the text behind it. -/
def cutOnce? (mark : Char) : List Char → Option (List Char × List Char) :=
  go []
where
  go (before : List Char) : List Char → Option (List Char × List Char)
    | [] => none
    | c :: rest => if c = mark then some (before.reverse, rest) else go (c :: before) rest

/-- The value of a non-empty string of ASCII digits. -/
def decimal? (digits : List Char) : Option Nat :=
  if digits.isEmpty then none else digits.foldlM step 0
where
  step (n : Nat) (c : Char) : Option Nat :=
    if c.isDigit then some (10 * n + (c.toNat - 48)) else none

/-- Reads an unsigned numeral with an optional plus sign, at most `greatest`. -/
def unsigned? (greatest : Nat) (text : List Char) : Option Nat :=
  let digits := match text with
    | '+' :: rest => rest
    | _ => text
  (decimal? digits).filter (· ≤ greatest)

/-- Reads a numeral with an optional sign, from `-(greatest + 1)` to `greatest`. -/
def signed? (greatest : Nat) (text : List Char) : Option Int :=
  match text with
  | '-' :: digits => ((decimal? digits).filter (· ≤ greatest + 1)).map fun n => -(n : Int)
  | _ => (unsigned? greatest text).map fun n => (n : Int)

end WebServer.Text

import WebServer.Bytes
import WebServer.Decimal.Shortest
import WebServer.Json.Value

/-!
# Writing JSON

Values are written without blanks, members in the order of their names. Of a text only quotes,
backslashes and controls are escaped.
-/
namespace WebServer.Json

/-- How doubles are written. -/
structure FloatLayout where
  /-- Exponents of the leading digit from here on are written with `e`. -/
  tooLarge : Int
  /-- Exponents of the leading digit below this are written with `e`. -/
  least : Int
  deriving DecidableEq, Repr

/-- Numbers below 1e-5 and from 1e16 on have an exponent. -/
def floatLayout : FloatLayout := ⟨16, -5⟩

/-- Puts the point into the digits, or an exponent with its sign behind them. Without an exponent
at least one digit stands on either side of the point. -/
def FloatLayout.write (layout : FloatLayout) (d : Decimal.Digits) : String :=
  let digits := Nat.toDigits 10 d.digits
  let point := digits.length + d.exponent
  let leading := point - 1
  if layout.least ≤ leading && leading < layout.tooLarge then
    if point ≤ 0 then
      String.ofList ('0' :: '.' :: List.replicate (-point).toNat '0' ++ digits)
    else
      let whole := digits.take point.toNat ++ List.replicate d.exponent.toNat '0'
      let fraction := digits.drop point.toNat
      String.ofList (whole ++ '.' :: if fraction.isEmpty then ['0'] else fraction)
  else
    let mantissa := match digits with
      | first :: second :: rest => first :: '.' :: second :: rest
      | digits => digits
    let sign := if leading < 0 then "e-" else "e+"
    String.ofList mantissa ++ sign ++ toString leading.natAbs

/-- A finite double; a number that is not finite has no form of its own. -/
def writeFloat (value : Float) : String :=
  if !value.isFinite then "null"
  else
    let bits := value.toBits
    let sign := if bits.toNat / Nat.pow 2 63 = 1 then "-" else ""
    let binary := Decimal.Binary.ofBits bits
    if binary.mantissa = 0 then sign ++ "0.0"
    else sign ++ floatLayout.write (Decimal.shortest binary)

def escapeChar (out : String) (c : Char) : String :=
  if c = '"' then out ++ "\\\""
  else if c = '\\' then out ++ "\\\\"
  else if c.toNat = 8 then out ++ "\\b"
  else if c.toNat = 9 then out ++ "\\t"
  else if c.toNat = 10 then out ++ "\\n"
  else if c.toNat = 12 then out ++ "\\f"
  else if c.toNat = 13 then out ++ "\\r"
  else if c.toNat < 32 then
    ((out ++ "\\u00").push (Bytes.hexDigit (c.toNat / 16))).push (Bytes.hexDigit (c.toNat % 16))
  else out.push c

/-- Appends a text in quotes. -/
def writeText (out : String) (text : String) : String :=
  (text.toList.foldl escapeChar (out.push '"')).push '"'

mutual

/-- Appends a value. -/
def write (out : String) : Json → String
  | .null => out ++ "null"
  | .bool true => out ++ "true"
  | .bool false => out ++ "false"
  | .int value => out ++ toString value
  | .float value => out ++ writeFloat value
  | .text value => writeText out value
  | .list [] => out ++ "[]"
  | .list (item :: items) => (writeItems (write (out.push '[') item) items).push ']'
  | .object [] => out ++ "\x7b\x7d"
  | .object ((name, value) :: members) =>
    (writeMembers (write ((writeText (out.push '\x7b') name).push ':') value) members).push '\x7d'

/-- Appends the items behind the first, each after a comma. -/
def writeItems (out : String) : List Json → String
  | [] => out
  | item :: items => writeItems (write (out.push ',') item) items

/-- Appends the members behind the first, each after a comma. -/
def writeMembers (out : String) : List (String × Json) → String
  | [] => out
  | (name, value) :: members =>
    writeMembers (write ((writeText (out.push ',') name).push ':') value) members

end

def render (value : Json) : String := write "" value

end WebServer.Json

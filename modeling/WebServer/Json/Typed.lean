import WebServer.Json.Printer
import WebServer.Json.Reader
import WebServer.Text.Quoted

/-!
# Reading JSON: values of a known type

Readers that know what they want and say so when something else stands there.
-/
namespace WebServer.Json.Reader

/-- The words for a number where another value is wanted. -/
def Number.described : Number → String
  | .int value => s!"integer `{value}`"
  | .float value => s!"floating point `{writeFloat value}`"

/-- Reads the value that stands in the wrong place and gives the words for it. Lists and objects
are not read. -/
def describe (fuel : Nat) : Reader String := do
  match ← peekPastBlanks with
  | none => failAhead .endInValue
  | some b =>
    if b = 0x6E then
      skip
      identifier [0x75, 0x6C, 0x6C]
      return "null"
    else if b = 0x74 then
      skip
      identifier [0x72, 0x75, 0x65]
      return "boolean `true`"
    else if b = 0x66 then
      skip
      identifier [0x61, 0x6C, 0x73, 0x65]
      return "boolean `false`"
    else if b = 0x2D ∨ Bytes.isDigit b then
      if b = 0x2D then skip
      return (← number (b ≠ 0x2D)).described
    else if b = 0x22 then
      skip
      return "string " ++ Text.quoted (← string fuel)
    else if b = 0x5B then return "sequence"
    else if b = 0x7B then return "map"
    else failAhead .noValue

/-- The value that follows is none of those that are expected. -/
def wrongType {α : Type} (fuel : Nat) (expected : String) : Reader α := do
  let found ← describe fuel
  fail (.custom s!"invalid type: {found}, expected {expected}")

/-- The words for a number of 64 bits without a sign. -/
def sizeWords : String := "usize"

def size (fuel : Nat) : Reader Nat := do
  match ← peekPastBlanks with
  | none => failAhead .endInValue
  | some b =>
    if b = 0x2D ∨ Bytes.isDigit b then
      if b = 0x2D then skip
      match ← number (b ≠ 0x2D) with
      | .int (.ofNat n) => return n
      | .int value => fail (.custom s!"invalid value: integer `{value}`, expected {sizeWords}")
      | found => fail (.custom s!"invalid type: {found.described}, expected {sizeWords}")
    else wrongType fuel sizeWords

def bool (fuel : Nat) : Reader Bool := do
  match ← peekPastBlanks with
  | none => failAhead .endInValue
  | some b =>
    if b = 0x74 then
      skip
      identifier [0x72, 0x75, 0x65]
      return true
    else if b = 0x66 then
      skip
      identifier [0x61, 0x6C, 0x73, 0x65]
      return false
    else wrongType fuel "a boolean"

end WebServer.Json.Reader

import WebServer.Json.Cursor
import WebServer.Json.Value

/-!
# Reading JSON: values

`read` reads a whole document. Lists and objects nest at most 127 deep. Loops take as fuel a bound
on the number of bytes: each of their rounds reads at least one.
-/
namespace WebServer.Json

namespace Reader

/-- Another item follows; if so, the cursor stands before it. -/
def moreItems (first : Bool) : Reader Bool := do
  match ← peekPastBlanks with
  | none => failAhead .endInList
  | some b =>
    if b = 0x5D then return false
    else if first then return true
    else if b = 0x2C then
      skip
      match ← peekPastBlanks with
      | none => failAhead .endInValue
      | some b => if b = 0x5D then failAhead .trailingComma else return true
    else failAhead .noListEnd

/-- Another member follows; if so, the cursor stands before its quote. -/
def moreMembers (first : Bool) : Reader Bool := do
  match ← peekPastBlanks with
  | none => failAhead .endInObject
  | some b =>
    if b = 0x7D then return false
    else if first then
      if b = 0x22 then return true else failAhead .keyNotText
    else if b = 0x2C then
      skip
      match ← peekPastBlanks with
      | none => failAhead .endInValue
      | some b =>
        if b = 0x22 then return true
        else if b = 0x7D then failAhead .trailingComma
        else failAhead .keyNotText
    else failAhead .noObjectEnd

/-- The colon between a name and its value. -/
def colon : Reader Unit := do
  match ← peekPastBlanks with
  | none => failAhead .endInObject
  | some b => if b = Bytes.colon then skip else failAhead .noColon

/-- The items of a list up to its bracket. -/
def items (item : Reader Json) (fuel : Nat) (done : List Json) : Reader (List Json) :=
  match fuel with
  | 0 => failAhead .endInList
  | fuel + 1 => do
    if ← moreItems done.isEmpty then
      let value ← item
      items item fuel (value :: done)
    else return done.reverse

/-- The members of an object up to its brace. -/
def members (text : Reader String) (item : Reader Json) (fuel : Nat)
    (done : List (String × Json)) : Reader (List (String × Json)) :=
  match fuel with
  | 0 => failAhead .endInObject
  | fuel + 1 => do
    if ← moreMembers done.isEmpty then
      skip
      let name ← text
      colon
      let value ← item
      members text item fuel ((name, value) :: done)
    else return done.reverse

/-- A value in which lists and objects nest at most `levels` deep. -/
def value (fuel : Nat) (levels : Nat) : Reader Json := do
  match ← peekPastBlanks with
  | none => failAhead .endInValue
  | some b =>
    if b = 0x6E then
      skip
      identifier [0x75, 0x6C, 0x6C]
      return .null
    else if b = 0x74 then
      skip
      identifier [0x72, 0x75, 0x65]
      return .bool true
    else if b = 0x66 then
      skip
      identifier [0x61, 0x6C, 0x73, 0x65]
      return .bool false
    else if b = 0x2D ∨ Bytes.isDigit b then
      if b = 0x2D then skip
      match ← number (b ≠ 0x2D) with
      | .int value => return .int value
      | .float value => return .float value
    else if b = 0x22 then
      skip
      return .text (← string fuel)
    else if b = 0x5B then
      match levels with
      | 0 => failAhead .tooDeep
      | levels + 1 =>
        skip
        let items ← items (value fuel levels) fuel []
        skip
        return .list items
    else if b = 0x7B then
      match levels with
      | 0 => failAhead .tooDeep
      | levels + 1 =>
        skip
        let members ← members (string fuel) (value fuel levels) fuel []
        skip
        return ofMembers members
    else failAhead .noValue

/-- Nothing but blanks may follow. -/
def finish : Reader Unit := do
  if (← peekPastBlanks).isSome then failAhead .trailingCharacters

def deepest : Nat := 127

/-- Runs a reader on a whole document. -/
def run {α : Type} (reader : Nat → Reader α) (document : Bytes) : Except Fault α := do
  let whole : Reader α := do
    let value ← reader (document.length + 1)
    finish
    return value
  let (value, _) ← whole (Cursor.start document)
  return value

end Reader

def read (document : Bytes) : Except Fault Json :=
  Reader.run (fun fuel => Reader.value fuel Reader.deepest) document

end WebServer.Json

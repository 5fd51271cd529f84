import WebServer.Json.Reader

/-!
# Reading JSON: values that nobody wants

A value is stepped over without being built. The lists and objects around the cursor stand on a
stack, so that they may nest as deep as the document is long.
-/
namespace WebServer.Json

/-- What a value can lie in. -/
inductive Enclosure where
  | list | object
  deriving DecidableEq, Repr

namespace Enclosure

def ofOpening? (b : UInt8) : Option Enclosure :=
  if b = 0x5B then some .list else if b = 0x7B then some .object else none

def closing : Enclosure → UInt8
  | .list => 0x5D
  | .object => 0x7D

/-- The document ends inside. -/
def unfinished : Enclosure → Cause
  | .list => .endInList
  | .object => .endInObject

/-- Neither a comma nor the end follows a value. -/
def noEnd : Enclosure → Cause
  | .list => .noListEnd
  | .object => .noObjectEnd

end Enclosure

namespace Reader

/-- Steps over a value that holds no others. -/
def skipScalar (fuel : Nat) : Reader Unit := do
  match ← peekPastBlanks with
  | none => failAhead .endInValue
  | some b =>
    if b = 0x6E then
      skip
      identifier [0x75, 0x6C, 0x6C]
    else if b = 0x74 then
      skip
      identifier [0x72, 0x75, 0x65]
    else if b = 0x66 then
      skip
      identifier [0x61, 0x6C, 0x73, 0x65]
    else if b = 0x2D then
      skip
      skipNumber
    else if Bytes.isDigit b then skipNumber
    else if b = 0x22 then
      skip
      skipString fuel
    else failAhead .noValue

/-- Leaves the lists and objects that end here and gives those in which another value follows.
Behind a value a comma may follow, behind an opening bracket it may not. -/
def leave (commaAllowed : Bool) : List Enclosure → Reader (List Enclosure)
  | [] => return []
  | inner :: outer => do
    match ← peekPastBlanks with
    | none => failAhead inner.unfinished
    | some b =>
      if commaAllowed ∧ b = 0x2C then
        skip
        return inner :: outer
      else if b = inner.closing then
        skip
        leave true outer
      else if commaAllowed then failAhead inner.noEnd
      else return inner :: outer

/-- Steps over the name of a member and the colon behind it. -/
def skipName (fuel : Nat) : Reader Unit := do
  match ← peekPastBlanks with
  | none => failAhead .endInObject
  | some b =>
    if b = 0x22 then
      skip
      skipString fuel
      colon
    else failAhead .keyNotText

/-- Steps over a value and over the rest of what it lies in. Every round takes a byte. -/
def skipValues (fuel : Nat) (around : List Enclosure) : Reader Unit :=
  match fuel with
  | 0 => failAhead .endInValue
  | fuel + 1 => do
    let around ← match (← peekPastBlanks).bind Enclosure.ofOpening? with
      | some opened =>
        skip
        leave false (opened :: around)
      | none =>
        skipScalar (fuel + 1)
        leave true around
    match around with
    | [] => return ()
    | inner :: _ =>
      if inner = .object then skipName (fuel + 1)
      skipValues fuel around

def skipValue (fuel : Nat) : Reader Unit := skipValues fuel []

end Reader
end WebServer.Json

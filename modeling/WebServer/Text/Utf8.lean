import WebServer.Bytes

/-!
# Text as bytes

`encode` writes a text in UTF-8 and `decode?` reads it back. `decodeLossy` reads any bytes: each
longest piece that starts a character and cannot go on becomes one replacement character.
-/
namespace WebServer.Text

def encode (text : String) : Bytes := text.toByteArray.data.toList

/-- The text whose UTF-8 form the bytes are, if they are valid UTF-8. -/
def decode? (bytes : Bytes) : Option String :=
  String.fromUTF8? (ByteArray.mk bytes.toArray)

def replacement : Char := '\uFFFD'

/-- The bounds of the second byte of a sequence whose first byte is `lead`. They exclude
overlong forms, surrogates and numbers beyond the last character. -/
def secondBounds (lead : UInt8) : UInt8 × UInt8 :=
  if lead == 0xE0 then (0xA0, 0xBF)
  else if lead == 0xED then (0x80, 0x9F)
  else if lead == 0xF0 then (0x90, 0xBF)
  else if lead == 0xF4 then (0x80, 0x8F)
  else (0x80, 0xBF)

/-- The number of bytes that follow `lead` in a complete sequence; `none` if no sequence
starts with it. -/
def following? (lead : UInt8) : Option Nat :=
  if lead < 0x80 then some 0
  else if 0xC2 ≤ lead && lead ≤ 0xDF then some 1
  else if 0xE0 ≤ lead && lead ≤ 0xEF then some 2
  else if 0xF0 ≤ lead && lead ≤ 0xF4 then some 3
  else none

/-- The bits of the character that the first byte carries. -/
def leadBits (lead : UInt8) : Nat → Nat
  | 0 => lead.toNat
  | 1 => lead.toNat % 32
  | 2 => lead.toNat % 16
  | _ => lead.toNat % 8

/-- How many of the next `count` bytes continue a sequence, and the number they complete. The
bounds hold for the first of them, the others lie in 0x80..0xBF. -/
def continuation (bounds : UInt8 × UInt8) (number : Nat) : Nat → Bytes → Nat × Nat
  | 0, _ => (0, number)
  | _ + 1, [] => (0, number)
  | count + 1, b :: rest =>
    if bounds.1 ≤ b && b ≤ bounds.2 then
      let (used, number) :=
        continuation (0x80, 0xBF) (number * 64 + (b.toNat - 0x80)) count rest
      (used + 1, number)
    else (0, number)

/-- The character at the head of `lead :: rest`, and how many bytes of `rest` belong to it. A
sequence that breaks off counts as one replacement character. -/
def headChar (lead : UInt8) (rest : Bytes) : Char × Nat :=
  match following? lead with
  | none => (replacement, 0)
  | some count =>
    let (used, number) := continuation (secondBounds lead) (leadBits lead count) count rest
    if used = count then (Char.ofNat number, used) else (replacement, used)

def decodeLossy (bytes : Bytes) : String :=
  String.ofList (go [] bytes)
where
  go (done : List Char) : Bytes → List Char
    | [] => done.reverse
    | lead :: rest =>
      let (c, used) := headChar lead rest
      go (c :: done) (rest.drop used)
  termination_by bytes => bytes.length
  decreasing_by simp only [List.length_drop, List.length_cons]; omega

end WebServer.Text

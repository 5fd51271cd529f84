import WebServer.Text.Utf8

/-!
# Percent escapes

In paths, queries and cookies a byte may be written `%XX` with two hexadecimal digits, and in
queries a space may be written `+`. `unescape` takes the escapes away again.
-/
namespace WebServer.Text

/-- Why a text with escapes cannot be read. -/
inductive EscapeFault where
  /-- A percent sign does not stand before two hexadecimal digits. -/
  | malformed (raw : String)
  /-- The bytes behind the escapes are not UTF-8. -/
  | notUtf8 (raw : String)
  deriving DecidableEq, Repr

def EscapeFault.message : EscapeFault → String
  | .malformed raw => s!"invalid escape in `{raw}`"
  | .notUtf8 raw => s!"escape in `{raw}` is not valid UTF-8"

/-- The bytes that the escapes stand for, or `none` if a percent sign starts no escape. -/
def unescapeBytes? (plusIsSpace : Bool) (raw : Bytes) : Option Bytes :=
  go [] raw
where
  go (done : Bytes) : Bytes → Option Bytes
    | [] => some done.reverse
    | b :: rest =>
      if b = 0x25 then
        match rest with
        | high :: low :: rest =>
          match Bytes.hexValue? high, Bytes.hexValue? low with
          | some h, some l => go ((h * 16 + l) :: done) rest
          | _, _ => none
        | _ => none
      else if plusIsSpace && b = 0x2B then go (Bytes.space :: done) rest
      else go (b :: done) rest

def unescape (raw : String) (plusIsSpace : Bool) : Except EscapeFault String :=
  match unescapeBytes? plusIsSpace (encode raw) with
  | none => .error (.malformed raw)
  | some bytes =>
    match decode? bytes with
    | none => .error (.notUtf8 raw)
    | some text => .ok text

end WebServer.Text

import WebServer.Http.Failure
import WebServer.Text.Ascii
import WebServer.Text.Utf8

/-!
# The head of a request

The grammar of a request line and its header fields. Each reader takes bytes and gives back what
it read together with the bytes that follow. Bytes that break the grammar and bytes that end too
early are told apart, and whichever a reader meets first decides.
-/
namespace WebServer.Http

/-- A request line and header fields as they stand on the wire. -/
structure Head where
  method : String
  target : String
  version : Version
  fields : List (String × Bytes)
  deriving DecidableEq, Repr

namespace Head

/-- The bytes of a request target: all but controls, space and DEL. -/
def isTargetByte (b : UInt8) : Bool := (0x21 ≤ b && b ≤ 0x7E) || 0x80 ≤ b

/-- The bytes of a field value: all but controls and DEL; a tab is allowed. -/
def isValueByte (b : UInt8) : Bool := b = Bytes.tab || (0x20 ≤ b && b ≤ 0x7E) || 0x80 ≤ b

/-- Spaces and tabs around a field value do not belong to it. -/
def isPadding (b : UInt8) : Bool := b = Bytes.space || b = Bytes.tab

/-- One line end: CRLF, or LF alone. -/
def lineEnd (fault : HeadFault) : Bytes → Except HeadFault Bytes
  | 13 :: 10 :: rest => .ok rest
  | 10 :: rest => .ok rest
  | [] => .error .truncated
  | [13] => .error .truncated
  | _ => .error fault

/-- Empty lines may stand before the request line. -/
def skipEmptyLines : Bytes → Except HeadFault Bytes
  | 13 :: 10 :: rest => skipEmptyLines rest
  | 10 :: rest => skipEmptyLines rest
  | [] => .error .truncated
  | [13] => .error .truncated
  | 13 :: _ => .error .newLine
  | bytes => .ok bytes

/-- A non-empty run of bytes of one class and the single space that ends it. -/
def word (isWordByte : UInt8 → Bool) (bytes : Bytes) : Except HeadFault (Bytes × Bytes) :=
  match bytes.span isWordByte with
  | (_, []) => .error .truncated
  | ([], _) => .error .token
  | (word, 32 :: rest) => .ok (word, rest)
  | _ => .error .token

/-- The text of bytes that are all ASCII. -/
def asciiText (bytes : Bytes) : String := String.ofList (bytes.map fun b => Char.ofNat b.toNat)

def readMethod (bytes : Bytes) : Except HeadFault (String × Bytes) := do
  let (token, rest) ← word Text.isTokenByte bytes
  return (asciiText token, rest)

def readTarget (bytes : Bytes) : Except HeadFault (String × Bytes) := do
  let (target, rest) ← word isTargetByte bytes
  match Text.decode? target with
  | none => .error .token
  | some target => .ok (target, rest)

/-- Fewer bytes than a version has may still become one. -/
def readVersion (bytes : Bytes) : Except HeadFault (Version × Bytes) :=
  match Bytes.splitExactly? 8 bytes with
  | some (name, rest) =>
    if name = Text.encode Version.http10.name then .ok (.http10, rest)
    else if name = Text.encode Version.http11.name then .ok (.http11, rest)
    else .error .version
  | none =>
    if bytes.isPrefixOf (Text.encode "HTTP/1.") then .error .truncated else .error .version

def readFieldName (bytes : Bytes) : Except HeadFault (String × Bytes) :=
  match bytes.span Text.isTokenByte with
  | (_, []) => .error .truncated
  | ([], _) => .error .fieldName
  | (name, 58 :: rest) => .ok (asciiText name, rest)
  | _ => .error .fieldName

def readFieldValue (bytes : Bytes) : Except HeadFault (Bytes × Bytes) := do
  let (value, rest) := (bytes.dropWhile isPadding).span isValueByte
  let rest ← lineEnd .fieldValue rest
  return ((value.reverse.dropWhile isPadding).reverse, rest)

/-- The fields up to the empty line. There is room for `room` more; a field beyond the limit is
an error only if it is a well-formed field. -/
def readFields (limit room : Nat) (done : List (String × Bytes)) (bytes : Bytes) :
    Except HeadFault (List (String × Bytes) × Bytes) :=
  match bytes with
  | 13 :: 10 :: rest => .ok (done.reverse, rest)
  | 10 :: rest => .ok (done.reverse, rest)
  | [] => .error .truncated
  | [13] => .error .truncated
  | 13 :: _ => .error .newLine
  | bytes => do
    let (name, rest) ← readFieldName bytes
    let (value, rest) ← readFieldValue rest
    match room with
    | 0 => .error (.tooManyFields limit)
    | room + 1 => readFields limit room ((name, value) :: done) rest

/-- Reads a head with at most `limit` fields; also gives the bytes behind its empty line. -/
def read (limit : Nat) (bytes : Bytes) : Except HeadFault (Head × Bytes) := do
  let rest ← skipEmptyLines bytes
  let (method, rest) ← readMethod rest
  let (target, rest) ← readTarget rest
  let (version, rest) ← readVersion rest
  let rest ← lineEnd .newLine rest
  let (fields, rest) ← readFields limit limit [] rest
  return (⟨method, target, version, fields⟩, rest)

end Head
end WebServer.Http

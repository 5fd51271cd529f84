import WebServer.Digest.Fnv
import WebServer.Http.Failure
import WebServer.Http.Request
import WebServer.Http.Response
import WebServer.Server.Config
import WebServer.WebSocket.Offsets

/-!
# Reports

The values of the library as JSON documents. Bytes are shown as text with escapes; long byte
strings are shown by their length, their ends and a checksum.
-/
namespace WebServer.Scenario

open Http WebSocket

namespace Report

/-- Appends the form of one byte: printable ASCII stands for itself. -/
def byte (out : String) (b : UInt8) : String :=
  if b = 0x5C then out ++ "\\\\"
  else if b = 0x0D then out ++ "\\r"
  else if b = 0x0A then out ++ "\\n"
  else if 0x20 ≤ b && b ≤ 0x7E then out.push (Char.ofNat b.toNat)
  else ((out ++ "\\x").push (Bytes.hexDigit (b.toNat / 16))).push (Bytes.hexDigit (b.toNat % 16))

def bytesText (bytes : Bytes) : String := bytes.foldl byte ""

def longest : Nat := 2048

def bytes (bytes : Bytes) : Json :=
  let length := bytes.length
  if length ≤ longest then .text (bytesText bytes)
  else .ofMembers [("len", .nat length), ("head", .text (bytesText (bytes.take 64))),
    ("tail", .text (bytesText (bytes.drop (length - 64)))),
    ("fnv1a", .text (Digest.hexWord (Digest.fnv1a bytes)))]

def failure (f : Failure) : Json :=
  .ofMembers [("error", .text (if f.isInternal then "Internal" else "Status")),
    ("status", .nat f.status), ("message", .text f.message), ("fatal", .bool f.isFatal),
    ("display", .text f.summary)]

def document (f : Json.Fault) : Json :=
  .ofMembers [("error", .text "Json"), ("message", .text f.message), ("line", .nat f.line),
    ("column", .nat f.column)]

def part (name : String) (part : Multipart.Part) : Json :=
  .ofMembers [("name", .text name), ("headers", .pairs part.headers.fields),
    ("content", bytes part.content), ("filename", .orNull .text part.fileName?)]

def parts (parts : List (String × Multipart.Part)) : Json :=
  .list (parts.map fun p => part p.1 p.2)

def request (r : Request) : Json :=
  .ofMembers [("method", .text r.method.name), ("custom", .bool r.method.isCustom),
    ("url", .text r.url), ("path", .text r.path), ("query", .orNull .text r.query),
    ("version", .text r.version.name), ("headers", .pairs r.headers.fields),
    ("args", .pairs r.args.pairs), ("cookies", .pairs r.cookies.sorted),
    ("parts", parts r.parts), ("content_length", .nat r.body.length), ("body", bytes r.body),
    ("keep_alive", .bool r.isKeepAlive)]

def response (r : Response) : Json :=
  .ofMembers [("status", .nat r.status), ("reason", .text r.reasonPhrase),
    ("headers", .pairs r.headers.fields), ("body", bytes r.body)]

def opcodeName : Opcode → String
  | .continuation => "continuation"
  | .text => "text"
  | .binary => "binary"
  | .close => "close"
  | .ping => "ping"
  | .pong => "pong"

def closeCodeName : CloseCode → String
  | .normal => "Normal"
  | .goingAway => "GoingAway"
  | .protocolError => "ProtocolError"
  | .unsupported => "Unsupported"
  | .noStatus => "NoStatus"
  | .abnormal => "Abnormal"
  | .invalidPayload => "InvalidPayload"
  | .policyViolation => "PolicyViolation"
  | .tooBig => "TooBig"
  | .internal => "Internal"
  | .other _ => "Other"

def frameFaultName : FrameFault → String
  | .unmasked => "Unmasked"
  | .reservedBits => "ReservedBits"
  | .reservedOpcode _ => "ReservedOpcode"
  | .fragmentedControl => "FragmentedControl"
  | .controlTooLong _ => "ControlTooLong"
  | .tooBig .. => "TooBig"
  | .badClosePayload => "BadClosePayload"

def frameFault (f : FrameFault) : Json :=
  .ofMembers [("error", .text (frameFaultName f)), ("message", .text f.message),
    ("close_code", .nat f.closeCode.code.toNat)]

/-- The phrase of a status as one capitalised word, such as `NotFound` or `Ok`. -/
def statusName (phrase : String) : String :=
  String.ofList ((phrase.toList.splitOn ' ').flatMap fun word =>
    match word with
    | [] => []
    | first :: rest => first.toUpper :: rest.map Char.toLower)

def status (code : Nat) : Json :=
  match reasonPhrase? code with
  | none => .ofMembers [("reason", .null), ("display", .null), ("code", .null), ("variant", .null)]
  | some phrase => .ofMembers [("reason", .text phrase), ("display", .text s!"{code} {phrase}"),
      ("code", .nat code), ("variant", .text (statusName phrase))]

def method (m : Method) : Json :=
  .ofMembers [("as_str", .text m.name), ("display", .text m.name), ("as_ref", .text m.name),
    ("custom", .bool m.isCustom)]

def opcode : Option Opcode → Json
  | none => .ofMembers [("opcode", .null)]
  | some o => .ofMembers [("opcode", .text (opcodeName o)), ("value", .nat o.toByte.toNat),
      ("control", .bool o.isControl)]

def closeCode (c : CloseCode) : Json :=
  .ofMembers [("name", .text (closeCodeName c)), ("display", .text (toString c.code.toNat)),
    ("code", .nat c.code.toNat)]

def closePayload : Option (CloseCode × String) → Json
  | none => frameFault .badClosePayload
  | some (c, reason) => .ofMembers [("name", .text (closeCodeName c)),
      ("code", .nat c.code.toNat), ("reason", .text reason)]

/-- The frames at the start of the bytes, one after another, and what ended them; `none` if a sum of
offsets is no word. Every frame takes bytes, so that as many rounds as there are bytes suffice. -/
def frames (limit : Nat) (fuel : Nat) (rest : Bytes) : Option (List Json) :=
  match fuel with
  | 0 => some []
  | fuel + 1 =>
    match Frame.decodeBy .checked limit rest with
    | none => none
    | some (.error f) => some [frameFault f]
    | some (.ok none) => some [.ofMembers [("wait", .nat rest.length)]]
    | some (.ok (some (frame, used))) =>
      let report := .ofMembers [("fin", .bool frame.fin),
        ("opcode", .text (opcodeName frame.opcode)), ("payload", bytes frame.payload),
        ("used", .nat used)]
      (frames limit fuel (rest.drop used)).map (report :: ·)

/-- What a program says that was stopped. -/
def panic (words : String) : Json :=
  .ofMembers [("error", .text "Panic"), ("message", .text words)]

/-- The reports of a trial, unless a sum in it was no word. -/
def unlessOverflowed (reports : Option (List Json)) : Json :=
  reports.elim (panic "attempt to add with overflow") .list

def config (c : Config) : Json :=
  .ofMembers [("max_request_size", .nat c.maxRequestSize),
    ("read_chunk_size", .nat c.readChunkSize), ("max_headers", .nat c.maxHeaders),
    ("max_message_size", .nat c.maxMessageSize), ("nodelay", .bool c.nodelay)]

def configFault (f : ConfigFault) : Json :=
  match f with
  | .document place => .ofMembers [("error", .text "Parse"), ("message", .text f.message),
      ("line", .nat place.line), ("column", .nat place.column)]
  | .zero setting => .ofMembers [("error", .text "Zero"), ("field", .text setting.name),
      ("message", .text f.message)]

end Report
end WebServer.Scenario

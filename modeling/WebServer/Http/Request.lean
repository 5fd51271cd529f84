import WebServer.Http.Head
import WebServer.Http.Headers
import WebServer.Http.Multipart
import WebServer.Http.Query

/-!
# Requests

A request is read in two steps, so that a connection can hold a head while its body still
arrives: `parseHead` reads the head, `attachBody` adds the body once `bodyLength` bytes are there.
`parse` does both at once.
-/
namespace WebServer.Http

structure Request where
  method : Method
  /-- The target as it was sent. -/
  url : String
  /-- The target before the first question mark, without escapes. -/
  path : String
  query : Option String
  version : Version
  headers : Headers
  args : Arguments
  cookies : Cookies
  /-- The parts of a multipart body by name. -/
  parts : List (String × Multipart.Part) := []
  body : Bytes := []
  deriving DecidableEq, Repr

namespace Request

/-- The number of header fields a request may have unless configured otherwise. -/
def defaultFieldLimit : Nat := 64

/-- The greatest length that a buffer can have. -/
def greatestLength : Nat := 0xFFFFFFFFFFFFFFFF

/-- The bytes up to and including the first empty line, and those behind it. -/
def cutHead? (bytes : Bytes) : Option (Bytes × Bytes) :=
  (Bytes.cut? crlfcrlf bytes).map fun (lines, rest) => (lines ++ crlfcrlf, rest)

def readHeaders (fields : List (String × Bytes)) : Except Text.EscapeFault Headers := do
  let fields ← fields.mapM fun (name, value) => do
    let name ← Text.unescape name false
    return (name, String.ofList (Text.trim (Text.decodeLossy value).toList))
  return ⟨fields⟩

/-- A target is the asterisk or an absolute path; all before the query counts. -/
def isTarget (path : List Char) : Bool := path == ['*'] || path.head? == some '/'

/-- Gives a head its meaning: escapes are taken away, arguments and cookies are read. -/
def ofHead (head : Head) : Except RequestFault Request := do
  let (path, query) := match Text.cutOnce? '?' head.target.toList with
    | some (path, query) => (path, some (String.ofList query))
    | none => (head.target.toList, none)
  if !isTarget path then throw (.badTarget head.target)
  let path ← (Text.unescape (String.ofList path) false).mapError .escape
  let headers ← (readHeaders head.fields).mapError .escape
  let args ← ((query.map Arguments.ofQuery).getD (.ok {})).mapError .escape
  let cookies ← (Cookies.ofFields (headers.getAll "cookie")).mapError .escape
  return {
    method := .ofName head.method, url := head.target, path, query, version := head.version
    headers, args, cookies }

/-- Reads the request line and the header fields. -/
def parseHead (head : Bytes) (limit : Nat) : Except RequestFault Request := do
  let (head, _) ← (Head.read limit head).mapError .head
  ofHead head

/-- The one length that all values state; none if there are no values. -/
def agreedLength (agreed : Option Nat) : List String → Except RequestFault (Option Nat)
  | [] => .ok agreed
  | value :: values =>
    match Text.unsigned? greatestLength value.toList with
    | none => .error (.badLength value)
    | some length =>
      if agreed.any (· != length) then .error .conflictingLengths
      else agreedLength (some length) values

/-- The number of body bytes that the head announces. -/
def bodyLength (request : Request) : Except RequestFault Nat := do
  if let some coding := request.headers.get? "transfer-encoding" then
    if !Text.sameIgnoringCase coding "identity" then throw (.unsupportedCoding coding)
  let length ← agreedLength none (request.headers.getAll "content-length")
  return length.getD 0

/-- Adds the body. A multipart body is split into its parts. -/
def attachBody (request : Request) (body : Bytes) : Except RequestFault Request := do
  match (request.headers.get? "content-type").bind Multipart.boundary? with
  | none => return { request with body }
  | some boundary =>
    let parts ← (Multipart.read body boundary).mapError .multipart
    return { request with body, parts }

/-- The request at the start of the bytes and the number of bytes it takes; `none` if more bytes
are needed to tell. -/
def parse (bytes : Bytes) : Except RequestFault (Option (Request × Nat)) :=
  match cutHead? bytes with
  | none => .ok none
  | some (head, rest) => do
    let request ← parseHead head defaultFieldLimit
    let length ← request.bodyLength
    if greatestLength < head.length + length then throw .lengthOverflow
    match Bytes.splitExactly? length rest with
    | none => return none
    | some (body, _) =>
      let request ← request.attachBody body
      return some (request, head.length + length)

/-- The first argument of that name. -/
def arg? (request : Request) (name : String) : Option String := request.args.get? name

def cookie? (request : Request) (name : String) : Option String := request.cookies.get? name

def part? (request : Request) (name : String) : Option Multipart.Part :=
  request.parts.lookup name

/-- After this request the connection stays open. -/
def isKeepAlive (request : Request) : Bool :=
  request.version = .http11 && !request.headers.hasToken "connection" "close"

end Request
end WebServer.Http

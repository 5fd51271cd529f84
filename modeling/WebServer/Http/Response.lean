import WebServer.Http.Headers
import WebServer.Http.Multipart
import WebServer.Http.Status
import WebServer.Json.Printer

/-!
# Responses

A response is built field by field and written as bytes. The length of the body is always written
by `toBytes`, never taken from a field set by hand.
-/
namespace WebServer.Http

structure Response where
  status : Nat
  version : String := "HTTP/1.1"
  /-- A reason phrase in place of the usual one. -/
  reason : Option String := none
  headers : Headers := {}
  body : Bytes := []
  deriving DecidableEq, Repr

namespace Response

/-- Adds a header field. -/
def header (r : Response) (name value : String) : Response :=
  { r with headers := r.headers.insert name value }

/-- Replaces the header fields of that name. -/
def setHeader (r : Response) (name value : String) : Response :=
  { r with headers := r.headers.set name value }

def eraseHeader (r : Response) (name : String) : Response :=
  { r with headers := r.headers.erase name }

def withReason (r : Response) (reason : String) : Response := { r with reason := some reason }

def withVersion (r : Response) (version : String) : Response := { r with version }

def withBody (r : Response) (body : Bytes) : Response := { r with body }

def withText (r : Response) (text : String) : Response := r.withBody (Text.encode text)

/-- A JSON document as the body, with its content type. -/
def withJson (r : Response) (value : Json) : Response :=
  (r.withText value.render).setHeader "Content-Type" "application/json"

/-- The phrase of the status line. -/
def reasonPhrase (r : Response) : String :=
  r.reason.getD ((reasonPhrase? r.status).getD "Unknown")

/-- The fields as they are written: a body has a content type, and the length is left to
`toBytes`. -/
def writtenHeaders (r : Response) : Headers :=
  let headers :=
    if !r.body.isEmpty && !r.headers.contains "content-type" then
      r.headers.insert "Content-Type" "text/plain; charset=utf-8"
    else r.headers
  headers.erase "content-length"

/-- The length field stands last; informational responses have none. -/
def lengthLine (r : Response) : String :=
  if isInformational r.status then "" else s!"Content-Length: {r.body.length}\r\n"

def statusLine (r : Response) : String := s!"{r.version} {r.status} {r.reasonPhrase}\r\n"

def fieldLine (field : String × String) : String := s!"{field.1}: {field.2}\r\n"

/-- The status line and the header fields with the empty line behind them. -/
def head (r : Response) : String :=
  r.statusLine ++ String.join (r.writtenHeaders.fields.map fieldLine) ++ r.lengthLine ++ "\r\n"

def toBytes (r : Response) : Bytes := Text.encode r.head ++ r.body

end Response
end WebServer.Http

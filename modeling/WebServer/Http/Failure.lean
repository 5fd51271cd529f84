import WebServer.Http.Method
import WebServer.Http.Status
import WebServer.Text.Escape

/-!
# Failures and their answers

Everything that can go wrong between a request's bytes and its response, by cause. Each cause has
one status and one message. A status of 500 or more is fatal: the connection ends with the answer.
-/
namespace WebServer.Http

/-- Why a header block does not follow the grammar. -/
inductive HeadFault where
  | token | version | newLine | fieldName | fieldValue
  /-- More fields than the limit allows. -/
  | tooManyFields (limit : Nat)
  /-- The block ends before its empty line. -/
  | truncated
  deriving DecidableEq, Repr

def HeadFault.message : HeadFault → String
  | .token => "malformed request: invalid token"
  | .version => "malformed request: invalid HTTP version"
  | .newLine => "malformed request: invalid new line"
  | .fieldName => "malformed request: invalid header name"
  | .fieldValue => "malformed request: invalid header value"
  | .tooManyFields limit => s!"more than {limit} header fields"
  | .truncated => "truncated header block"

/-- Why a body does not follow the multipart grammar. -/
inductive MultipartFault where
  | noBoundary | noLineEnd | unterminatedHeaders | headersNotUtf8
  /-- A header line of a part has no colon. -/
  | badHeader (line : String)
  | unterminatedPart | unnamedPart
  deriving DecidableEq, Repr

def MultipartFault.message : MultipartFault → String
  | .noBoundary => "multipart boundary not found"
  | .noLineEnd => "multipart delimiter not followed by CRLF"
  | .unterminatedHeaders => "unterminated multipart part headers"
  | .headersNotUtf8 => "multipart part headers are not UTF-8"
  | .badHeader line => s!"invalid multipart header `{line}`"
  | .unterminatedPart => "unterminated multipart part"
  | .unnamedPart => "multipart part without a named Content-Disposition"

/-- Why a request cannot be read. -/
inductive RequestFault where
  | head (fault : HeadFault)
  | escape (fault : Text.EscapeFault)
  | badTarget (url : String)
  | badLength (value : String)
  | conflictingLengths
  /-- Head and body together are longer than any buffer. -/
  | lengthOverflow
  | unsupportedCoding (coding : String)
  | multipart (fault : MultipartFault)
  /-- Head and body together are longer than the configured limit. -/
  | tooLarge
  deriving DecidableEq, Repr

def RequestFault.status : RequestFault → Nat
  | .unsupportedCoding _ => 501
  | .tooLarge => 413
  | _ => 400

def RequestFault.message : RequestFault → String
  | .head fault => fault.message
  | .escape fault => fault.message
  | .badTarget url => s!"invalid request target `{url}`"
  | .badLength value => s!"invalid Content-Length `{value}`"
  | .conflictingLengths => "conflicting Content-Length values"
  | .lengthOverflow => "Content-Length overflows"
  | .unsupportedCoding coding => s!"Transfer-Encoding `{coding}` is not supported"
  | .multipart fault => fault.message
  | .tooLarge => "request too large"

/-- Why a request cannot become a WebSocket. -/
inductive UpgradeFault where
  | unsupportedTarget (target : String)
  | noUpgradeToken
  | wrongMethod (method : Method)
  | noKey
  | unsupportedVersion (version : String)
  | noVersion
  deriving DecidableEq, Repr

def UpgradeFault.status : UpgradeFault → Nat
  | .unsupportedTarget _ => 501
  | .wrongMethod _ => 405
  | _ => 400

def UpgradeFault.message : UpgradeFault → String
  | .unsupportedTarget target => s!"upgrade to `{target}` is not supported"
  | .noUpgradeToken => "Connection header lacks the upgrade token"
  | .wrongMethod method => s!"WebSocket upgrade requires GET, got {method.name}"
  | .noKey => "missing Sec-WebSocket-Key"
  | .unsupportedVersion version => s!"unsupported Sec-WebSocket-Version `{version}`"
  | .noVersion => "missing Sec-WebSocket-Version"

/-- Why no handler answered. -/
inductive RoutingFault where
  | noRoute (path : String)
  | methodNotAllowed (method : Method) (path : String)
  /-- The chosen handler declined. -/
  | declined (path : String)
  | handlerPanicked
  | noSocketRoute (path : String)
  | factoryPanicked
  /-- A capture group that a typed handler needs took no part in the match. -/
  | missingArgument (index : Nat)
  | badArgument (raw : String)
  deriving DecidableEq, Repr

def RoutingFault.status : RoutingFault → Nat
  | .noRoute _ | .declined _ | .noSocketRoute _ => 404
  | .methodNotAllowed .. => 405
  | .handlerPanicked | .factoryPanicked => 500
  | .missingArgument _ | .badArgument _ => 400

def RoutingFault.message : RoutingFault → String
  | .noRoute path => s!"no route for {path}"
  | .methodNotAllowed method path => s!"{method.name} is not allowed on {path}"
  | .declined path => s!"no response for {path}"
  | .handlerPanicked => "handler panicked"
  | .noSocketRoute path => s!"no websocket route for {path}"
  | .factoryPanicked => "websocket route panicked"
  | .missingArgument index => s!"missing path argument {index}"
  | .badArgument raw => s!"invalid path argument `{raw}`"

inductive Failure where
  | request (fault : RequestFault)
  | upgrade (fault : UpgradeFault)
  | routing (fault : RoutingFault)
  /-- A status and message that the application chose. -/
  | chosen (status : Nat) (message : String)
  /-- A failure that nobody classified. -/
  | internal (message : String)
  deriving DecidableEq, Repr

namespace Failure

def status : Failure → Nat
  | .request fault => fault.status
  | .upgrade fault => fault.status
  | .routing fault => fault.status
  | .chosen status _ => status
  | .internal _ => 500

/-- The wording as it was given, which may be empty. -/
def detail : Failure → String
  | .request fault => fault.message
  | .upgrade fault => fault.message
  | .routing fault => fault.message
  | .chosen _ message | .internal message => message

/-- The message that the answer carries. A chosen failure without a message takes the reason
phrase of its status. -/
def message : Failure → String
  | .chosen status "" => (reasonPhrase? status).getD "Error"
  | failure => failure.detail

def isInternal : Failure → Bool
  | .internal _ => true
  | _ => false

def isFatal (failure : Failure) : Bool := 500 ≤ failure.status

/-- The one-line form for logs. -/
def summary (failure : Failure) : String :=
  if failure.isInternal then s!"internal error: {failure.detail}"
  else s!"{failure.status} {failure.detail}"

def badRequest (message : String) : Failure := .chosen 400 message
def notFound (message : String) : Failure := .chosen 404 message
def methodNotAllowed (message : String) : Failure := .chosen 405 message
def notImplemented (message : String) : Failure := .chosen 501 message

end Failure
end WebServer.Http

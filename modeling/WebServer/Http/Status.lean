/-!
# Status codes

A status is a number; the common ones have a reason phrase.
-/
namespace WebServer.Http

/-- The phrase that a status line carries for a common code. -/
def reasonPhrase? : Nat → Option String
  | 100 => some "Continue"
  | 101 => some "Switching Protocols"
  | 200 => some "OK"
  | 201 => some "Created"
  | 202 => some "Accepted"
  | 204 => some "No Content"
  | 206 => some "Partial Content"
  | 301 => some "Moved Permanently"
  | 302 => some "Found"
  | 303 => some "See Other"
  | 304 => some "Not Modified"
  | 307 => some "Temporary Redirect"
  | 308 => some "Permanent Redirect"
  | 400 => some "Bad Request"
  | 401 => some "Unauthorized"
  | 403 => some "Forbidden"
  | 404 => some "Not Found"
  | 405 => some "Method Not Allowed"
  | 409 => some "Conflict"
  | 410 => some "Gone"
  | 411 => some "Length Required"
  | 413 => some "Payload Too Large"
  | 414 => some "URI Too Long"
  | 415 => some "Unsupported Media Type"
  | 422 => some "Unprocessable Entity"
  | 426 => some "Upgrade Required"
  | 429 => some "Too Many Requests"
  | 500 => some "Internal Server Error"
  | 501 => some "Not Implemented"
  | 502 => some "Bad Gateway"
  | 503 => some "Service Unavailable"
  | 504 => some "Gateway Timeout"
  | 505 => some "HTTP Version Not Supported"
  | _ => none

/-- The codes 100 to 199, whose responses have no body and announce no length. -/
def isInformational (status : Nat) : Bool := 100 ≤ status && status < 200

end WebServer.Http

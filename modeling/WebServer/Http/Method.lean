/-!
# Request methods

The nine methods with a name of their own, and every other token.
-/
namespace WebServer.Http

inductive Method where
  | get | post | put | delete | head | options | patch | connect | trace
  | custom (name : String)
  deriving DecidableEq, Repr

namespace Method

/-- Methods are case-sensitive: any other spelling is a method of its own. -/
def ofName : String → Method
  | "GET" => .get
  | "POST" => .post
  | "PUT" => .put
  | "DELETE" => .delete
  | "HEAD" => .head
  | "OPTIONS" => .options
  | "PATCH" => .patch
  | "CONNECT" => .connect
  | "TRACE" => .trace
  | name => .custom name

def name : Method → String
  | .get => "GET"
  | .post => "POST"
  | .put => "PUT"
  | .delete => "DELETE"
  | .head => "HEAD"
  | .options => "OPTIONS"
  | .patch => "PATCH"
  | .connect => "CONNECT"
  | .trace => "TRACE"
  | .custom name => name

def isCustom : Method → Bool
  | .custom _ => true
  | _ => false

end Method

/-- The two versions that a request line may name. -/
inductive Version where
  | http10 | http11
  deriving DecidableEq, Repr

def Version.name : Version → String
  | .http10 => "HTTP/1.0"
  | .http11 => "HTTP/1.1"

end WebServer.Http

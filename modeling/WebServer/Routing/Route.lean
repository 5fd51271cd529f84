import WebServer.Connection.Signal
import WebServer.Regex.Pattern

/-!
# Routes

A route is a pattern for whole paths together with what answers for it. Whatever decides whether a
path matches is a function from paths to captures; `anchored` makes one from a regular expression.
-/
namespace WebServer

/-- The number of bytes that the groups captured. -/
def Captures.size (captures : Captures) : Nat :=
  captures.foldr (fun group size => (group.map String.utf8ByteSize).getD 0 + size) 0

/-- How specific a match is: the length of the path less all that was captured. With nested groups
this may be negative. -/
def score (path : String) (captures : Captures) : Int :=
  (path.utf8ByteSize : Int) - captures.size

/-- Why there is no route. -/
inductive RouteFault where
  | pattern (fault : Regex.Fault)
  /-- The pattern has another number of groups than the handler takes. -/
  | arity (pattern : String) (expected found : Nat)
  deriving DecidableEq, Repr

/-- The message for a wrong number of groups. -/
def arityMessage (pattern : String) (expected found : Nat) : String :=
  s!"pattern `{pattern}` has {found} capture groups but the handler takes {expected}"

/-- The regular expression around a pattern that ties it to both ends of the path. -/
def anchored (pattern : String) : List Char :=
  "^(?:".toList ++ pattern.toList ++ ")$".toList

/-- A pattern that is ready to match: how many groups it has, and what it captures. -/
structure PathPattern where
  groups : Nat
  captures? : String → Option Captures

def PathPattern.compile (pattern : String) : Except RouteFault PathPattern :=
  match Regex.Pattern.compile (anchored pattern) with
  | .error fault => .error (.pattern fault)
  | .ok compiled => .ok ⟨compiled.groups, fun path => compiled.captures? path.toList⟩

/-- A route for requests. Two routes are the same if they have the same key. Without methods it
takes every method. -/
structure Route (κ : Type) where
  key : Nat
  pattern : String
  captures? : String → Option Captures
  methods : List Http.Method
  endpoint : κ

def Route.allows {κ : Type} (r : Route κ) (method : Http.Method) : Bool :=
  r.methods.isEmpty || r.methods.contains method

/-- A route for requests to become a WebSocket. -/
structure SocketRoute (γ : Type) where
  key : Nat
  pattern : String
  captures? : String → Option Captures
  gate : γ

def Route.compile {κ : Type} (key : Nat) (pattern : String) (methods : List Http.Method)
    (endpoint : κ) : Except RouteFault (Route κ) := do
  let compiled ← PathPattern.compile pattern
  return ⟨key, pattern, compiled.captures?, methods, endpoint⟩

/-- A route whose handler takes `arity` arguments, one for each group. -/
def Route.compileTyped {κ : Type} (key : Nat) (pattern : String) (methods : List Http.Method)
    (arity : Nat) (endpoint : κ) : Except RouteFault (Route κ) := do
  let compiled ← PathPattern.compile pattern
  if compiled.groups ≠ arity then throw (.arity pattern arity compiled.groups)
  return ⟨key, pattern, compiled.captures?, methods, endpoint⟩

def SocketRoute.compile {γ : Type} (key : Nat) (pattern : String) (gate : γ) :
    Except RouteFault (SocketRoute γ) := do
  let compiled ← PathPattern.compile pattern
  return ⟨key, pattern, compiled.captures?, gate⟩

end WebServer

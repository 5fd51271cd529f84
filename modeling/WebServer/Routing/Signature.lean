import WebServer.Connection.Signal
import WebServer.Http.Failure
import WebServer.Text.Ascii

/-!
# Typed arguments

A handler may take the captured groups as values of certain kinds. A group that took no part in
the match, or that is not the text of such a value, makes a bad request.
-/
namespace WebServer

/-- The kinds of arguments: numbers without and with a sign up to a greatest value, texts, truth
values and single characters. -/
inductive ArgKind where
  | nat (greatest : Nat)
  | int (greatest : Nat)
  | text | bool | char
  deriving DecidableEq, Repr

inductive ArgValue where
  | nat (value : Nat)
  | int (value : Int)
  | text (value : String)
  | bool (value : Bool)
  | char (value : Char)
  deriving DecidableEq, Repr

def ArgValue.shown : ArgValue → String
  | .nat value => toString value
  | .int value => toString value
  | .text value => value
  | .bool value => if value then "true" else "false"
  | .char value => value.toString

/-- The value that a text stands for. -/
def ArgKind.read? (kind : ArgKind) (raw : String) : Option ArgValue :=
  match kind with
  | .nat greatest => (Text.unsigned? greatest raw.toList).map .nat
  | .int greatest => (Text.signed? greatest raw.toList).map .int
  | .text => some (.text raw)
  | .bool => if raw = "true" then some (.bool true) else if raw = "false" then some (.bool false)
      else none
  | .char =>
    match raw.toList with
    | [c] => some (.char c)
    | _ => none

/-- The kinds of all arguments of a handler. -/
abbrev Signature := List ArgKind

/-- The values of the groups from `index` on. The first fault counts. -/
def Signature.readFrom (index : Nat) (captures : Captures) :
    Signature → Except Http.RoutingFault (List ArgValue)
  | [] => .ok []
  | kind :: kinds =>
    match (captures[index]?).join with
    | none => .error (.missingArgument index)
    | some raw =>
      match kind.read? raw with
      | none => .error (.badArgument raw)
      | some value => do return value :: (← readFrom (index + 1) captures kinds)

def Signature.read (s : Signature) (captures : Captures) :
    Except Http.RoutingFault (List ArgValue) :=
  s.readFrom 0 captures

end WebServer

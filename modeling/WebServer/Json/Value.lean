/-!
# JSON values

A number is an integer between -2^63 and 2^64 - 1 or a double. The members of an object are kept
in the order of their names, and each name stands once.
-/
namespace WebServer

inductive Json where
  | null
  | bool (value : Bool)
  | int (value : Int)
  | float (value : Float)
  | text (value : String)
  | list (items : List Json)
  | object (members : List (String × Json))
  deriving Inhabited, Repr

namespace Json

/-- Puts a member in its place; a member of the same name gives way. -/
def putMember (name : String) (value : Json) : List (String × Json) → List (String × Json)
  | [] => [(name, value)]
  | member :: rest =>
    if name < member.1 then (name, value) :: member :: rest
    else if name = member.1 then (name, value) :: rest
    else member :: putMember name value rest

/-- The object with these members, of which a later one replaces an earlier one. -/
def ofMembers (members : List (String × Json)) : Json :=
  .object (members.foldl (fun done member => putMember member.1 member.2 done) [])

def nat (n : Nat) : Json := .int n

/-- The value, or null if there is none. -/
def orNull {α : Type} (write : α → Json) (value : Option α) : Json :=
  (value.map write).getD .null

def texts (items : List String) : Json := .list (items.map .text)

/-- Pairs of texts as a list of lists of two. -/
def pairs (items : List (String × String)) : Json :=
  .list (items.map fun item => texts [item.1, item.2])

def isNull : Json → Bool
  | .null => true
  | _ => false

/-- The member of that name, and null if there is none or the value is no object. -/
def member (value : Json) (name : String) : Json :=
  match value with
  | .object members => (members.lookup name).getD .null
  | _ => .null

/-- The items of a list, and none of any other value. -/
def items : Json → List Json
  | .list items => items
  | _ => []

/-- The item at that place of a list, and null beyond it. -/
def item (value : Json) (index : Nat) : Json := (value.items[index]?).getD .null

def text? : Json → Option String
  | .text value => some value
  | _ => none

def bool? : Json → Option Bool
  | .bool value => some value
  | _ => none

def nat? : Json → Option Nat
  | .int value => if 0 ≤ value then some value.toNat else none
  | _ => none

end Json
end WebServer

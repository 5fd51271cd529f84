import WebServer.Text.Ascii
import WebServer.Text.Blank

/-!
# Header fields

The fields of a request or response in wire order. A name may repeat, and names compare without
regard to ASCII case.
-/
namespace WebServer.Http

structure Headers where
  fields : List (String × String) := []
  deriving DecidableEq, Repr

namespace Headers

def names (name : String) (field : String × String) : Bool :=
  Text.sameIgnoringCase field.1 name

def empty : Headers := {}

/-- Adds a field behind all others. -/
def insert (h : Headers) (name value : String) : Headers := ⟨h.fields ++ [(name, value)]⟩

/-- Takes away every field of that name. -/
def erase (h : Headers) (name : String) : Headers :=
  ⟨h.fields.filter fun field => !names name field⟩

/-- Replaces all fields of that name by a single one, behind all others. -/
def set (h : Headers) (name value : String) : Headers := (h.erase name).insert name value

def contains (h : Headers) (name : String) : Bool := h.fields.any (names name)

/-- The value of the first field of that name. -/
def get? (h : Headers) (name : String) : Option String :=
  (h.fields.find? (names name)).map (·.2)

/-- The values of all fields of that name, in wire order. -/
def getAll (h : Headers) (name : String) : List String :=
  (h.fields.filter (names name)).map (·.2)

def size (h : Headers) : Nat := h.fields.length

/-- Some field of that name, read as a list separated by commas, holds the token. -/
def hasToken (h : Headers) (name token : String) : Bool :=
  (h.getAll name).any fun value =>
    (value.toList.splitOn ',').any fun item =>
      Text.sameIgnoringCase (String.ofList (Text.trim item)) token

end Headers
end WebServer.Http

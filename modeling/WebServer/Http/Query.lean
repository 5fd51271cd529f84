import WebServer.Text.Ascii
import WebServer.Text.Blank
import WebServer.Text.Escape

/-!
# Query arguments and cookies

A query is a list of `name=value` pairs joined by `&`; a cookie header holds pairs separated by
`;` or `,`. Arguments keep their order and repeats, of cookies with one name the last one counts.
-/
namespace WebServer.Http

/-- Decoded arguments in the order of the query. -/
structure Arguments where
  pairs : List (String × String) := []
  deriving DecidableEq, Repr

namespace Arguments

def insert (a : Arguments) (name value : String) : Arguments := ⟨a.pairs ++ [(name, value)]⟩

/-- The first value of that name. -/
def get? (a : Arguments) (name : String) : Option String := a.pairs.lookup name

def getAll (a : Arguments) (name : String) : List String :=
  (a.pairs.filter (·.1 == name)).map (·.2)

def contains (a : Arguments) (name : String) : Bool := a.pairs.any (·.1 == name)

def size (a : Arguments) : Nat := a.pairs.length

/-- One pair of a query; a text without `=` is a name with an empty value. -/
def readPair (pair : List Char) : Except Text.EscapeFault (String × String) := do
  let (name, value) := (Text.cutOnce? '=' pair).getD (pair, [])
  let name ← Text.unescape (String.ofList name) true
  let value ← Text.unescape (String.ofList value) true
  return (name, value)

/-- Empty pairs are skipped. -/
def ofQuery (query : String) : Except Text.EscapeFault Arguments := do
  let pairs ← ((query.toList.splitOn '&').filter (!·.isEmpty)).mapM readPair
  return ⟨pairs⟩

end Arguments

/-- Cookies by name, each name once. -/
structure Cookies where
  pairs : List (String × String) := []
  deriving DecidableEq, Repr

namespace Cookies

def insert (c : Cookies) (name value : String) : Cookies :=
  ⟨c.pairs.filter (·.1 != name) ++ [(name, value)]⟩

def get? (c : Cookies) (name : String) : Option String := c.pairs.lookup name

/-- The pairs in the order of their names. -/
def sorted (c : Cookies) : List (String × String) :=
  c.pairs.mergeSort fun a b => a.1 ≤ b.1

/-- Adds one pair of a cookie header. A text without `=` or with a blank name adds nothing;
quotes around the value are dropped. -/
def addPair (c : Cookies) (pair : List Char) : Except Text.EscapeFault Cookies :=
  match Text.cutOnce? '=' pair with
  | none => .ok c
  | some (name, value) => do
    let name := Text.trim name
    if name.isEmpty then return c
    let value := Text.trimBy (· == '"') (Text.trim value)
    let name ← Text.unescape (String.ofList name) false
    let value ← Text.unescape (String.ofList value) false
    return c.insert name value

def ofFields (values : List String) : Except Text.EscapeFault Cookies :=
  (values.flatMap fun value => value.toList.splitOnP fun c => c == ';' || c == ',').foldlM
    addPair {}

end Cookies
end WebServer.Http

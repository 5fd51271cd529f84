import WebServer.Unicode.Category
import WebServer.Unicode.Folding
import WebServer.Unicode.Property
import WebServer.Unicode.Script

/-!
# Sets by name

The classes that patterns use by name: categories, scripts and properties, with their names
compared loosely, and the classes of word characters, digits and blanks.
-/
namespace WebServer.Unicode

/-- A name without case, blanks, hyphens and underscores. -/
def plainName (name : List Char) : List Char :=
  (name.filter fun c => c.toNat < 0x80 && c != ' ' && c != '_' && c != '-').map Char.toLower

/-- Names compare loosely and without a leading `is`, save that `isc` is a name of its own. -/
def looseName (name : List Char) : String :=
  if (name.take 2).map Char.toLower = ['i', 's'] then
    let rest := plainName (name.drop 2)
    if rest = ['c'] then "isc" else String.ofList rest
  else String.ofList (plainName name)

/-- The characters of a category or a group of categories. Surrogates are no characters. -/
def category? (name : String) : Option CharSet :=
  if name = "any" then some CharSet.all
  else if name = "ascii" then some (CharSet.ofCodePoints [(0, 0x7F)])
  else if name = "assigned" then some (ofCategories ['&']).complement
  else match categoryLetters? name with
    | some ['#'] => none
    | letters => letters.map ofCategories

/-- A set by a single name: a property, a category or a script, in this order. Three short names
mean a category although a property of another kind has them too. -/
def byName? (name : List Char) : Option CharSet :=
  let name := looseName name
  let isCategory := name = "cf" ∨ name = "sc" ∨ name = "lc"
  match if isCategory then none else property? name with
  | some set => some set
  | none => category? name <|> (script? name).map Script.own

/-- A set by the name of a property and one of its values. -/
def byValue? (name value : List Char) : Option CharSet :=
  let value := looseName value
  match looseName name with
  | "gc" | "generalcategory" => category? value
  | "sc" | "script" => (script? value).map Script.own
  | "scx" | "scriptextensions" => (script? value).map Script.extended
  | _ => none

def digits : CharSet := ofCategories ['I']

def blanks : CharSet := (property? "whitespace").getD CharSet.empty

/-- Letters, marks, digits, connecting punctuation and joiners. -/
def wordChars : CharSet :=
  CharSet.unionAll [(property? "alphabetic").getD CharSet.empty,
    ofCategories ['F', 'G', 'H', 'I', 'L'], CharSet.ofCodePoints [(0x200C, 0x200D)]]

def alphabetic : CharSet := (property? "alphabetic").getD CharSet.empty

/-- Letters and numbers of every kind. -/
def alphanumeric : CharSet := alphabetic.union (ofCategories ['I', 'J', 'K'])

/-- Characters that a quoted text does not show: controls, formats, private and unassigned ones,
separators except the space, and those that extend the character before them. -/
def hidden : CharSet :=
  (CharSet.unionAll [ofCategories ['Z', '!', '%', '&', 'W', 'X', 'Y'],
    (property? "graphemeextend").getD CharSet.empty]).diff (CharSet.singleton ' ')

end WebServer.Unicode

import WebServer.Regex.Cost
import WebServer.Regex.Meaning
import WebServer.Regex.Reader
import WebServer.Regex.Search

/-!
# Compiled patterns

A pattern is read, given its meaning, and compiled to a program.
-/
namespace WebServer.Regex

structure Pattern where
  program : Program
  /-- The number of groups that capture. -/
  groups : Nat
  deriving DecidableEq, Repr

/-- The expression that a text means as a pattern. -/
def Expr.read (text : List Char) : Except Fault Expr := do
  let parsed ← Syntax.read text
  let (e, _) ← parsed.meaning {}
  return e

def Pattern.compile (text : List Char) : Except Fault Pattern := do
  let e ← Expr.read text
  if costLimit < e.cost then throw .tooLarge
  return ⟨.ofExpr e, e.lastGroup⟩

/-- What the groups captured in the first match; none for a group that took no part. -/
def Pattern.captures? (p : Pattern) (text : List Char) : Option (List (Option String)) :=
  (p.program.search text).map fun m =>
    (List.range p.groups).map fun i => (m.group? text (i + 1)).map String.ofList

end WebServer.Regex

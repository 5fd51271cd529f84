import WebServer.Regex.Expr
import WebServer.Regex.Syntax

/-!
# From syntax to expressions

Gives a pattern its meaning: flags are applied from where they are set to the end of their group,
names of classes are looked up, and everything is put into normal form.
-/
namespace WebServer.Regex

open Unicode (CharSet)

structure Flags where
  caseInsensitive : Bool := false
  multiLine : Bool := false
  dotAll : Bool := false
  swapGreed : Bool := false
  unicode : Bool := true
  crlf : Bool := false
  deriving DecidableEq, Repr

def Flags.set (f : Flags) (flag : Flag) (value : Bool) : Flags :=
  match flag with
  | .caseInsensitive => { f with caseInsensitive := value }
  | .multiLine => { f with multiLine := value }
  | .dotAll => { f with dotAll := value }
  | .swapGreed => { f with swapGreed := value }
  | .unicode => { f with unicode := value }
  | .crlf => { f with crlf := value }
  | .verbose => f

def Flags.change (f : Flags) (change : FlagChange) : Flags :=
  change.foldl (fun f c => f.set c.1 c.2) f

/-- The upper and lower case forms of ASCII letters in a set. -/
def foldAscii (set : CharSet) : CharSet :=
  let letters := (List.range 26).filter fun i =>
    set.containsIndex (65 + i) || set.containsIndex (97 + i)
  set.union (CharSet.ofRanges (letters.flatMap fun i => [(65 + i, 65 + i), (97 + i, 97 + i)]))

namespace Flags

def foldCase (f : Flags) (set : CharSet) : CharSet :=
  if !f.caseInsensitive then set else if f.unicode then set.foldCase else foldAscii set

/-- Without Unicode a negated class would match single bytes of a character. -/
def negate (f : Flags) (negated : Bool) (set : CharSet) : Except Fault CharSet :=
  if !negated then .ok set else if f.unicode then .ok set.complement else .error .notUtf8

def perlSet (f : Flags) (kind : PerlClass) (negated : Bool) : Except Fault CharSet :=
  f.negate negated <|
    match kind, f.unicode with
    | .digit, true => Unicode.digits
    | .blank, true => Unicode.blanks
    | .word, true => Unicode.wordChars
    | .digit, false => ⟨[(48, 57)]⟩
    | .blank, false => ⟨[(9, 13), (32, 32)]⟩
    | .word, false => ⟨[(48, 57), (65, 90), (95, 95), (97, 122)]⟩

def namedSet (f : Flags) (name : ClassName) (negated : Bool) : Except Fault CharSet :=
  if !f.unicode then .error .unicodeNotAllowed
  else
    let set? := match name with
      | .single name => Unicode.byName? name
      | .valued property value => Unicode.byValue? property value
    match set? with
    | none => .error .unknownProperty
    | some set => f.negate negated (f.foldCase set)

/-- A character in brackets. Without Unicode it must be ASCII. -/
def setChar (f : Flags) (c : Literal) : Except Fault Char :=
  if f.unicode || c.char.toNat < 0x80 then .ok c.char
  else if c.isByte then .error .notUtf8
  else .error .unicodeNotAllowed

/-- A character. Without Unicode an escape beyond ASCII would be a byte and no character. -/
def literal (f : Flags) (c : Literal) : Except Fault Expr :=
  if !f.unicode && c.isByte && 0x80 ≤ c.char.toNat then .error .notUtf8
  else .ok (.ofSet (f.foldCase (CharSet.singleton c.char)))

def dot (f : Flags) : Except Fault Expr :=
  if !f.unicode then .error .notUtf8
  else if f.dotAll then .ok (.oneOf CharSet.all)
  else if f.crlf then .ok (.oneOf (CharSet.complement ⟨[(10, 10), (13, 13)]⟩))
  else .ok (.oneOf (CharSet.complement ⟨[(10, 10)]⟩))

def assertion (f : Flags) : Assertion → Look
  | .textStart => .textStart
  | .textEnd => .textEnd
  | .lineStart => if !f.multiLine then .textStart else if f.crlf then .crlfLineStart else .lineStart
  | .lineEnd => if !f.multiLine then .textEnd else if f.crlf then .crlfLineEnd else .lineEnd
  | .boundary => .boundary f.unicode
  | .notBoundary => .notBoundary f.unicode
  | .wordStart => .wordStart f.unicode
  | .wordEnd => .wordEnd f.unicode
  | .wordStartHalf => .wordStartHalf f.unicode
  | .wordEndHalf => .wordEndHalf f.unicode

end Flags

mutual

/-- The set between the brackets of a class. -/
def SetSyntax.meaning (f : Flags) : SetSyntax → Except Fault CharSet
  | .literal c => do return CharSet.singleton (← f.setChar c)
  | .range low high => do return CharSet.between (← f.setChar low) (← f.setChar high)
  | .ascii ranges negated => f.negate negated (f.foldCase (CharSet.ofCodePoints ranges))
  | .perl kind negated => f.perlSet kind negated
  | .named name negated => f.namedSet name negated
  | .bracketed set negated => do f.negate negated (f.foldCase (← set.meaning f))
  | .union items => do return CharSet.unionAll (← SetSyntax.meanings f items)
  | .binary op left right => do
    let left := f.foldCase (← left.meaning f)
    let right := f.foldCase (← right.meaning f)
    match op with
    | .inter => return left.inter right
    | .diff => return left.diff right
    | .symmDiff => return left.symmDiff right

def SetSyntax.meanings (f : Flags) : List SetSyntax → Except Fault (List CharSet)
  | [] => .ok []
  | item :: items => do return (← item.meaning f) :: (← SetSyntax.meanings f items)

end

mutual

/-- The expression that a pattern means, and the flags as they are set at its end. -/
def Syntax.meaning (f : Flags) : Syntax → Except Fault (Expr × Flags)
  | .empty => .ok (.empty, f)
  | .flags change => .ok (.empty, f.change change)
  | .literal c => do return (← f.literal c, f)
  | .dot => do return (← f.dot, f)
  | .assertion kind => .ok (.look (f.assertion kind), f)
  | .perl kind negated => do return (.ofSet (← f.perlSet kind negated), f)
  | .named name negated => do return (.ofSet (← f.namedSet name negated), f)
  | .bracketed set negated => do
    let set ← set.meaning f
    return (.ofSet (← f.negate negated (f.foldCase set)), f)
  | .repetition min max greedy body => do
    let (body, f') ← body.meaning f
    return (.repeated min max (greedy != f'.swapGreed) body, f')
  | .capture index body => do
    let (body, _) ← body.meaning f
    return (.capture index body, f)
  | .group change body => do
    let (body, _) ← body.meaning (f.change change)
    return (body, f)
  | .alternation branches => do
    let (branches, f') ← Syntax.meanings f branches
    return (.inChoice branches, f')
  | .sequence parts => do
    let (parts, f') ← Syntax.meanings f parts
    return (.inSequence parts, f')

def Syntax.meanings (f : Flags) : List Syntax → Except Fault (List Expr × Flags)
  | [] => .ok ([], f)
  | part :: parts => do
    let (e, f) ← part.meaning f
    let (es, f) ← Syntax.meanings f parts
    return (e :: es, f)

end

end WebServer.Regex

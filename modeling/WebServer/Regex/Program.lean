import WebServer.Regex.Expr

/-!
# Programs

An expression as a graph of instructions. An instruction tells what to do at a position of the
text and which instruction comes next; where there is a choice, the targets stand in the order of
preference.
-/
namespace WebServer.Regex

open Unicode (CharSet)

inductive Instr where
  /-- Takes one character of the set. -/
  | take (set : CharSet) (next : Nat)
  /-- Goes on with the first target that leads to a match. -/
  | split (targets : List Nat)
  /-- Remembers the position under a number. -/
  | mark (slot next : Nat)
  /-- Goes on if the condition holds at the position. -/
  | look (kind : Look) (next : Nat)
  | accept
  deriving DecidableEq, Repr

structure Program where
  instrs : Array Instr
  start : Nat
  deriving DecidableEq, Repr

/-- Adds an instruction and gives its number. -/
def emit (instr : Instr) (code : Array Instr) : Nat × Array Instr :=
  (code.size, code.push instr)

/-- The targets of a choice between going on inside and leaving. -/
def prefer (greedy : Bool) (inside outside : Nat) : Instr :=
  .split (if greedy then [inside, outside] else [outside, inside])

/-- Takes the characters one after another, then goes to `next`. -/
def compileChars (next : Nat) (code : Array Instr) : List Char → Nat × Array Instr
  | [] => (next, code)
  | c :: cs =>
    let (after, code) := compileChars next code cs
    emit (.take (CharSet.singleton c) after) code

/-- Does the same `count` times, each time with a copy of its own. -/
def compileTimes (one : Nat → Array Instr → Nat × Array Instr) (next : Nat) :
    Nat → Array Instr → Nat × Array Instr
  | 0, code => (next, code)
  | count + 1, code =>
    let (after, code) := compileTimes one next count code
    one after code

/-- Up to `count` more copies, each inside the one before it. -/
def compileUpTo (one : Nat → Array Instr → Nat × Array Instr) (greedy : Bool) (next : Nat) :
    Nat → Array Instr → Nat × Array Instr
  | 0, code => (next, code)
  | count + 1, code =>
    let (after, code) := compileUpTo one greedy next count code
    let (inside, code) := one after code
    emit (prefer greedy inside next) code

/-- At least one copy, and back to it as often as wanted. -/
def compileLoop (one : Nat → Array Instr → Nat × Array Instr) (greedy : Bool) (next : Nat)
    (code : Array Instr) : Nat × Array Instr :=
  let (again, code) := emit (.split []) code
  let (inside, code) := one again code
  (inside, code.setIfInBounds again (prefer greedy inside next))

/-- Any number of copies. If a copy may be empty, the loop stands behind a choice of its own, so
that an empty copy is preferred to none. -/
def compileAny (one : Nat → Array Instr → Nat × Array Instr) (consumes greedy : Bool)
    (next : Nat) (code : Array Instr) : Nat × Array Instr :=
  if consumes then
    let (again, code) := emit (.split []) code
    let (inside, code) := one again code
    (again, code.setIfInBounds again (prefer greedy inside next))
  else
    let (inside, code) := compileLoop one greedy next code
    emit (prefer greedy inside next) code

mutual

/-- Adds the instructions of an expression, which lead to `next`, and gives the first of them. -/
def compile : Expr → Nat → Array Instr → Nat × Array Instr
  | .empty, next, code => (next, code)
  | .literal chars, next, code => compileChars next code chars
  | .oneOf set, next, code => emit (.take set next) code
  | .look kind, next, code => emit (.look kind next) code
  | .repetition min max greedy body, next, code =>
    let one := compile body
    match max with
    | some max =>
      let (after, code) := compileUpTo one greedy next (max - min) code
      compileTimes one after min code
    | none =>
      if min = 0 then compileAny one body.consumes greedy next code
      else
        let (after, code) := compileLoop one greedy next code
        compileTimes one after (min - 1) code
  | .capture index body, next, code =>
    let (after, code) := emit (.mark (2 * index + 1) next) code
    let (inside, code) := compile body after code
    emit (.mark (2 * index) inside) code
  | .sequence parts, next, code => compileSequence parts next code
  | .choice branches, next, code =>
    let (targets, code) := compileBranches branches next code
    emit (.split targets) code

def compileSequence : List Expr → Nat → Array Instr → Nat × Array Instr
  | [], next, code => (next, code)
  | e :: es, next, code =>
    let (after, code) := compileSequence es next code
    compile e after code

def compileBranches : List Expr → Nat → Array Instr → List Nat × Array Instr
  | [], _, code => ([], code)
  | e :: es, next, code =>
    let (first, code) := compile e next code
    let (others, code) := compileBranches es next code
    (first :: others, code)

end

/-- The program whose first instruction accepts. -/
def Program.ofExpr (e : Expr) : Program :=
  let (start, instrs) := compile e 0 #[.accept]
  ⟨instrs, start⟩

end WebServer.Regex

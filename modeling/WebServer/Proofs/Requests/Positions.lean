import WebServer.Proofs.Requests.Parts

/-!
# Reading a body by positions

The parts of a body can be read without cutting it up, by a position that goes from one delimiter
to the next. The body is then accessed by ranges, and the access to a range that is not in it fails.
`readAt?` reads so, with `none` for such an access. None of its accesses fails, and it reads what
`read` reads (`readAt?_eq`).
-/
namespace WebServer

namespace Bytes

/-- Where the mark begins first. -/
def find? (mark text : Bytes) : Option Nat :=
  (cut? mark text).map (·.1.length)

/-- This is what a text has from a position on. -/
structure At (text : Bytes) (pos : Nat) (rest : Bytes) : Prop where
  inside : pos ≤ text.length
  rest_eq : text.drop pos = rest

section At

variable {text before rest : Bytes} {pos : Nat}

theorem At.start (whole : text = rest) : At text 0 rest :=
  ⟨Nat.zero_le _, by rw [List.drop_zero, whole]⟩

theorem At.length_eq (here : At text pos rest) : pos + rest.length = text.length := by
  rw [← here.rest_eq, List.length_drop]
  have inside := here.inside
  omega

theorem At.move (here : At text pos (before ++ rest)) : At text (pos + before.length) rest := by
  have length := here.length_eq
  rw [List.length_append] at length
  refine ⟨by omega, ?_⟩
  rw [← List.drop_drop, here.rest_eq, List.drop_left]

/-- What follows a position is in range. -/
theorem At.slice? (here : At text pos (before ++ rest)) :
    slice? text pos (pos + before.length) = some before := by
  have length := here.length_eq
  rw [List.length_append] at length
  rw [Bytes.slice?, if_pos (by omega), here.rest_eq, Nat.add_sub_cancel_left, List.take_left]

theorem At.slice?_rest (here : At text pos rest) :
    Bytes.slice? text pos text.length = some rest := by
  rw [← here.length_eq]
  exact (show At text pos (rest ++ []) by rwa [List.append_nil]).slice?

theorem at_of_slice? (found : Bytes.slice? text pos text.length = some rest) :
    At text pos rest := by
  unfold Bytes.slice? at found
  split at found
  · rename_i inside
    refine ⟨inside.1, ?_⟩
    rw [← Option.some.inj found, List.take_of_length_le]
    rw [List.length_drop]
  · cases found

end At

end Bytes

namespace Http.Multipart

/-- A reading that ends when it accesses what is not there. -/
abbrev Checked (α : Type) := ExceptT MultipartFault Option α

/-- The bytes of a range, and nothing more is read if the text lacks some of them. -/
def Checked.access (range : Option Bytes) : Checked Bytes := ExceptT.lift range

/-- What a check of the bytes says. -/
def Checked.verdict {α : Type} (result : Except MultipartFault α) : Checked α :=
  ExceptT.mk (some result)

open Checked (access verdict)

/-- The bytes from a position up to a mark, and the position behind the mark. -/
def upTo (body mark : Bytes) (missing : MultipartFault) (pos : Nat) : Checked (Bytes × Nat) := do
  let rest ← access (body.slice? pos body.length)
  let size ← verdict (orFault missing (Bytes.find? mark rest))
  let bytes ← access (body.slice? pos (pos + size))
  return (bytes, pos + size + mark.length)

/-- The part at a position, and the position behind the separator at its end. -/
def partAt (body separator : Bytes) (pos : Nat) : Checked ((String × Part) × Nat) := do
  let rest ← access (body.slice? pos body.length)
  if crlf.isPrefixOf rest then
    let (block, pos) ← upTo body crlfcrlf .unterminatedHeaders (pos + 2)
    let headers ← verdict (readHeaders block)
    let (content, pos) ← upTo body separator .unterminatedPart pos
    let name ← verdict (orFault .unnamedPart
      ((headers.get? "content-disposition").bind (parameter? · "name")))
    return ((name, ⟨headers, content⟩), pos)
  else verdict (.error .noLineEnd)

/-- A reading by positions follows one that cuts the body: no access fails, both find the same, and
the position reached is that of the bytes that are left. -/
def Follows {α : Type} (body : Bytes) (reading : Checked (α × Nat))
    (cutting : Except MultipartFault (α × Bytes)) : Prop :=
  match cutting with
  | .error fault => reading = verdict (.error fault)
  | .ok (found, rest) => ∃ pos, reading = verdict (.ok (found, pos)) ∧ body.At pos rest

section Step

variable {α β : Type} {body separator rest : Bytes} {pos : Nat}

theorem Checked.access_bind {range : Option Bytes} {bytes : Bytes} (found : range = some bytes)
    (next : Bytes → Checked α) : (access range >>= next) = next bytes := by
  rw [found]
  rfl

theorem Follows.pure (found : α) (here : body.At pos rest) :
    Follows body (return (found, pos)) (.ok (found, rest)) :=
  ⟨pos, rfl, here⟩

theorem Follows.bind {reading : Checked (α × Nat)} {cutting : Except MultipartFault (α × Bytes)}
    (first : Follows body reading cutting) {next : α × Nat → Checked (β × Nat)}
    {next' : α × Bytes → Except MultipartFault (β × Bytes)}
    (later : ∀ found pos rest, body.At pos rest →
      Follows body (next (found, pos)) (next' (found, rest))) :
    Follows body (reading >>= next) (cutting >>= next') := by
  cases cutting with
  | error fault =>
    obtain rfl : reading = verdict (.error fault) := first
    rfl
  | ok cut =>
    obtain ⟨found, rest⟩ := cut
    obtain ⟨pos, rfl, here⟩ := first
    exact later found pos rest here

/-- Checks of what was found are the same for both. -/
theorem Follows.check (result : Except MultipartFault α) {next : α → Checked (β × Nat)}
    {next' : α → Except MultipartFault (β × Bytes)}
    (later : ∀ value, Follows body (next value) (next' value)) :
    Follows body (verdict result >>= next) (result >>= next') := by
  cases result with
  | error fault => rfl
  | ok value => exact later value

theorem follows_upTo (here : body.At pos rest) (mark : Bytes) (missing : MultipartFault) :
    Follows body (upTo body mark missing pos) (orFault missing (Bytes.cut? mark rest)) := by
  rw [upTo, Checked.access_bind here.slice?_rest, Bytes.find?]
  cases cut : Bytes.cut? mark rest with
  | none => rfl
  | some pieces =>
    obtain ⟨before, behind⟩ := pieces
    rw [(Bytes.cut?_eq_some_iff.1 cut).whole] at here
    have found : orFault missing (some before.length) = .ok before.length := rfl
    refine ⟨pos + before.length + mark.length, ?_, here.move.move⟩
    rw [Option.map_some, found]
    exact Checked.access_bind here.slice? _

/-- At a position in the body a part is read as from the bytes there. -/
theorem follows_partAt (here : body.At pos rest) (separator : Bytes) :
    Follows body (partAt body separator pos) (readPart separator rest) := by
  rw [partAt, Checked.access_bind here.slice?_rest, readPart]
  by_cases begins : crlf.isPrefixOf rest = true
  · obtain ⟨text, rfl⟩ := List.isPrefixOf_iff_prefix.1 begins
    rw [if_pos begins, if_pos begins]
    refine (follows_upTo here.move crlfcrlf .unterminatedHeaders).bind fun block pos rest here => ?_
    refine Follows.check (readHeaders block) fun headers => ?_
    refine (follows_upTo here separator .unterminatedPart).bind fun content pos rest here => ?_
    exact Follows.check _ fun name => .pure _ here
  · rw [if_neg begins, if_neg begins]
    rfl

theorem Follows.run {reading : Checked (α × Nat)} {cutting : Except MultipartFault (α × Bytes)}
    (follows : Follows body reading cutting) :
    (∃ fault, reading.run = some (.error fault) ∧ cutting = .error fault) ∨
      ∃ found pos rest, reading.run = some (.ok (found, pos)) ∧ cutting = .ok (found, rest) ∧
        body.At pos rest := by
  cases cutting with
  | error fault =>
    obtain rfl : reading = verdict (.error fault) := follows
    exact .inl ⟨fault, rfl, rfl⟩
  | ok cut =>
    obtain ⟨found, rest⟩ := cut
    obtain ⟨pos, rfl, here⟩ := follows
    exact .inr ⟨found, pos, rest, rfl, rfl, here⟩

/-- A part that is read leads to a position farther in the body. -/
theorem partAt_advances {entry : String × Part} {next : Nat}
    (read : (partAt body separator pos).run = some (.ok (entry, next))) :
    pos < next ∧ next ≤ body.length := by
  have accessed : ∃ rest, body.slice? pos body.length = some rest := by
    rw [partAt] at read
    cases found : body.slice? pos body.length with
    | none =>
      rw [found] at read
      cases read
    | some rest => exact ⟨rest, rfl⟩
  obtain ⟨rest, found⟩ := accessed
  have here := Bytes.at_of_slice? found
  rcases (follows_partAt here separator).run with
    ⟨fault, run, -⟩ | ⟨entry', next', behind, run, cutting, there⟩
  · cases read.symm.trans run
  · obtain ⟨rfl, rfl⟩ := Prod.mk.inj (Except.ok.inj (Option.some.inj (read.symm.trans run)))
    have shorter := (readPart_eq_ok_iff.1 cutting).length_lt
    have length := here.length_eq
    have length' := there.length_eq
    omega

end Step

/-- The parts from a position on. -/
def partsAt (body separator : Bytes) (done : List (String × Part)) (pos : Nat) :
    Option (Except MultipartFault (List (String × Part))) :=
  match body.slice? pos body.length with
  | none => none
  | some rest =>
    if [45, 45].isPrefixOf rest then some (.ok done.reverse)
    else match _h : (partAt body separator pos).run with
      | none => none
      | some (.error fault) => some (.error fault)
      | some (.ok (entry, next)) => partsAt body separator (entry :: done) next
termination_by body.length - pos
decreasing_by
  have farther := partAt_advances _h
  omega

/-- Splits a body at its boundary, with `none` for an access that is out of range. -/
def readAt? (body : Bytes) (boundary : String) :
    Option (Except MultipartFault (List (String × Part))) :=
  let delimiter := Text.encode ("--" ++ boundary)
  match Bytes.find? delimiter body with
  | none => some (.error .noBoundary)
  | some start => partsAt body (crlf ++ delimiter) [] (start + delimiter.length)

/-- From any position in the body the parts are read as from the bytes there. -/
theorem partsAt_eq {body separator rest : Bytes} {pos : Nat} (here : body.At pos rest)
    (done : List (String × Part)) :
    partsAt body separator done pos = some (readParts separator done rest) := by
  fun_induction partsAt body separator done pos generalizing rest with
  | case1 done pos absent =>
    cases absent.symm.trans here.slice?_rest
  | case2 done pos rest' found closing =>
    obtain rfl := Option.some.inj (found.symm.trans here.slice?_rest)
    rw [readParts_eq, if_pos closing]
  | case3 done pos rest' found more failed =>
    rcases (follows_partAt here separator).run with ⟨_, run, -⟩ | ⟨_, _, _, run, -, -⟩
    · cases failed.symm.trans run
    · cases failed.symm.trans run
  | case4 done pos rest' found more fault failed =>
    obtain rfl := Option.some.inj (found.symm.trans here.slice?_rest)
    rcases (follows_partAt here separator).run with ⟨_, run, cutting⟩ | ⟨_, _, _, run, -, -⟩
    · obtain rfl := Except.error.inj (Option.some.inj (failed.symm.trans run))
      rw [readParts_eq, if_neg more, cutting, error_bind]
    · cases failed.symm.trans run
  | case5 done pos rest' found more entry next read ih =>
    obtain rfl := Option.some.inj (found.symm.trans here.slice?_rest)
    rcases (follows_partAt here separator).run with ⟨_, run, -⟩ | ⟨_, _, _, run, cutting, there⟩
    · cases read.symm.trans run
    · obtain ⟨rfl, rfl⟩ := Prod.mk.inj (Except.ok.inj (Option.some.inj (read.symm.trans run)))
      rw [readParts_eq, if_neg more, cutting, ok_bind, ih there]

/-- Reading by positions no access is out of range, and the same is read. -/
theorem readAt?_eq (body : Bytes) (boundary : String) :
    readAt? body boundary = some (read body boundary) := by
  rw [read_eq, readAt?]
  simp only [Bytes.find?]
  cases cut : Bytes.cut? (Text.encode ("--" ++ boundary)) body with
  | none => rfl
  | some pieces =>
    obtain ⟨preamble, rest⟩ := pieces
    have there := (Bytes.At.start (Bytes.cut?_eq_some_iff.1 cut).whole).move.move
    rw [Nat.zero_add] at there
    exact partsAt_eq there []

end Http.Multipart
end WebServer

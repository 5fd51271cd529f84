import WebServer.Proofs.Regex.Enclosed
import WebServer.Proofs.Regex.Ends
import WebServer.Routing.Route

/-!
# Patterns for whole paths

The text of a pattern is put between `^(?:` and `)$`, whatever it is. If it is a pattern by itself,
the group around it holds, the two ends of the path stand on both of its sides, and a match is all
of the path (`whole_path_matched`). A text that closes the group and opens another one is accepted
as well, and is no pattern for whole paths (`beginning_of_path_matched`).
-/
namespace WebServer

open Regex (BetweenEnds)

/-- There is a route for the pattern, and it captures like this. -/
inductive Accepted (pattern : String) : (String → Option Captures) → Prop where
  | request {κ : Type} {key : Nat} {methods : List Http.Method} {endpoint : κ} {route : Route κ}
    (made : Route.compile key pattern methods endpoint = .ok route) :
    Accepted pattern route.captures?
  | typed {κ : Type} {key arity : Nat} {methods : List Http.Method} {endpoint : κ}
    {route : Route κ} (made : Route.compileTyped key pattern methods arity endpoint = .ok route) :
    Accepted pattern route.captures?
  | socket {γ : Type} {key : Nat} {gate : γ} {route : SocketRoute γ}
    (made : SocketRoute.compile key pattern gate = .ok route) : Accepted pattern route.captures?

/-- A text that stays in the group around it: it is a pattern by itself, or the whole is one that
begins and ends with the ends of the path all the same. -/
inductive Held (pattern : String) : Prop where
  | alone {body : Regex.Syntax} (read : Regex.Syntax.read pattern.toList = .ok body)
  | between {parsed : Regex.Syntax} (read : Regex.Syntax.read (anchored pattern) = .ok parsed)
    (ends : BetweenEnds parsed)

/-- What is made of a path pattern is made of a compiled one. -/
theorem PathPattern.compiled_of_bind {α : Type} {pattern : String}
    {next : PathPattern → Except RouteFault α} {result : α}
    (h : (PathPattern.compile pattern >>= next) = .ok result) :
    ∃ p, Regex.Pattern.compile (anchored pattern) = .ok p ∧
      next ⟨p.groups, fun path => p.captures? path.toList⟩ = .ok result := by
  obtain ⟨compiled, compiles, made⟩ := bind_eq_ok_iff.1 h
  unfold PathPattern.compile at compiles
  split at compiles
  · cases compiles
  · rename_i p search
    exact ⟨p, search, Except.ok.inj compiles ▸ made⟩

/-- Every route captures by a search in the path. -/
theorem Accepted.compiled {pattern : String} {captures? : String → Option Captures}
    (accepted : Accepted pattern captures?) :
    ∃ p, Regex.Pattern.compile (anchored pattern) = .ok p ∧
      ∀ path, captures? path = p.captures? path.toList := by
  cases accepted with
  | request made =>
    obtain ⟨p, search, same⟩ := PathPattern.compiled_of_bind made
    exact ⟨p, search, fun path => by rw [← Except.ok.inj same]⟩
  | typed made =>
    obtain ⟨p, search, checked⟩ := PathPattern.compiled_of_bind made
    split at checked
    · cases checked
    · exact ⟨p, search, fun path => by rw [← Except.ok.inj checked]⟩
  | socket made =>
    obtain ⟨p, search, same⟩ := PathPattern.compiled_of_bind made
    exact ⟨p, search, fun path => by rw [← Except.ok.inj same]⟩

theorem anchored_eq (pattern : String) :
    anchored pattern = '^' :: '(' :: '?' :: ':' :: (pattern.toList ++ Regex.Reader.closing) := by
  simp [anchored, Regex.Reader.closing]

/-- A group changes no flags behind it. -/
theorem betweenEnds_group (body : Regex.Syntax) :
    BetweenEnds (.sequence [.assertion .lineStart, .group [] body, .assertion .lineEnd]) := by
  refine @BetweenEnds.of [.group [] body] fun es f meant => ?_
  obtain ⟨⟨e, f₁⟩, group, others⟩ := bind_eq_ok_iff.1 meant
  obtain ⟨⟨inner, f₂⟩, -, same⟩ := bind_eq_ok_iff.1 group
  obtain ⟨rfl, rfl⟩ := Prod.mk.inj (Except.ok.inj same)
  obtain ⟨-, rfl⟩ := Prod.mk.inj (Except.ok.inj others)
  rfl

theorem Held.between_ends {pattern : String} (held : Held pattern) {parsed : Regex.Syntax}
    (read : Regex.Syntax.read (anchored pattern) = .ok parsed) : BetweenEnds parsed := by
  cases held with
  | @alone body alone =>
    rw [anchored_eq] at read
    rw [Regex.Syntax.read_enclosed alone read]
    exact betweenEnds_group body
  | between again ends =>
    rwa [Except.ok.inj (read.symm.trans again)]

theorem Held.tied {pattern : String} (held : Held pattern) {p : Regex.Pattern}
    (made : Regex.Pattern.compile (anchored pattern) = .ok p) : Regex.Tied p.program := by
  obtain ⟨e, expr, small⟩ := bind_eq_ok_iff.1 made
  obtain ⟨parsed, read, meant⟩ := bind_eq_ok_iff.1 expr
  obtain ⟨⟨e', f⟩, meaning, same⟩ := bind_eq_ok_iff.1 meant
  obtain rfl := Except.ok.inj same
  dsimp only at small
  split at small
  · cases small
  · rw [← Except.ok.inj small]
    exact (held.between_ends read).tied meaning

/-- A route whose pattern is one by itself matches whole paths. -/
theorem whole_path_matched {pattern : String} {captures? : String → Option Captures}
    (accepted : Accepted pattern captures?) (held : Held pattern) {path : String}
    {groups : Captures} (found : captures? path = some groups) :
    ∃ p m, Regex.Pattern.compile (anchored pattern) = .ok p ∧
      p.program.search path.toList = some m ∧ p.captures? path.toList = some groups ∧
      m.start = 0 ∧ m.stop = path.toList.length := by
  obtain ⟨p, made, searches⟩ := accepted.compiled
  have captured : p.captures? path.toList = some groups := (searches path).symm.trans found
  obtain ⟨m, search, -⟩ := Option.map_eq_some_iff.1 captured
  exact ⟨p, m, made, search, captured, (held.tied made).search search⟩

/-- Two alternatives, of which the longer one captures. -/
theorem alternative_matched :
    ∃ p m, Regex.Pattern.compile (anchored "/a|/(a+)") = .ok p ∧
      p.program.search "/aa".toList = some m ∧
      p.captures? "/aa".toList = some [some "aa"] ∧ m.start = 0 ∧ m.stop = 3 := by
  have made : Route.compile 0 "/a|/(a+)" [] () = .ok ⟨0, "/a|/(a+)", _, [], ()⟩ := rfl
  have read : Regex.Syntax.read "/a|/(a+)".toList = .ok _ := rfl
  exact whole_path_matched (.request made) (.alone read) (by decide +kernel)

/-- A text that closes the group and opens another one: of the path `/a/b` its beginning is
matched, and the route takes it. -/
theorem beginning_of_path_matched :
    ((Route.compile 0 "/a)|(?:/b" [] ()).toOption.map (·.captures? "/a/b")) = some (some []) ∧
      (Regex.Pattern.compile (anchored "/a)|(?:/b")).toOption.map
        (·.program.search "/a/b".toList) = some (some ⟨0, 2, []⟩) ∧
      "/a/b".toList.length = 4 := by
  decide +kernel

end WebServer

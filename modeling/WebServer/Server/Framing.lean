import WebServer.Http.Request
import WebServer.Server.Config

/-!
# Framing

Where the next request of a connection begins and ends. A head that cannot be read is stepped over,
as its end is known all the same. If the length of the body is in doubt, or too large, nothing
behind the head can be read any more.
-/
namespace WebServer

open Http (Request RequestFault)

/-- What stands at the beginning of a window. -/
inductive Opening where
  /-- Too little to tell. -/
  | incomplete
  /-- A head, the length of the body and the bytes behind the head. -/
  | request (request : Request) (length : Nat) (rest : Bytes)
  /-- A head that is no request, and the bytes behind it. -/
  | malformed (fault : RequestFault) (rest : Bytes)
  /-- Something behind which no request can be found. -/
  | unframed (fault : RequestFault)

/-- Reads the head at the beginning of a window. -/
def Opening.ofWindow (config : Config) (window : Bytes) : Opening :=
  match Request.cutHead? window with
  | none => if config.maxRequestSize < window.length then .unframed .tooLarge else .incomplete
  | some (head, rest) =>
    if config.maxRequestSize < head.length then .unframed .tooLarge
    else match Request.parseHead head config.maxHeaders with
      | .error fault => .malformed fault rest
      | .ok parsed =>
        match parsed.bodyLength with
        | .error fault => .unframed fault
        | .ok length =>
          if config.maxRequestSize < min (head.length + length) Request.greatestLength then
            .unframed .tooLarge
          else .request parsed length rest

theorem length_cutHead? {window head rest : Bytes}
    (h : Request.cutHead? window = some (head, rest)) :
    4 ≤ head.length ∧ head.length + rest.length = window.length := by
  obtain ⟨⟨lines, tail⟩, hc, he⟩ := Option.map_eq_some_iff.1 h
  have := Bytes.cut?_length hc
  simp only [Prod.mk.injEq] at he
  obtain ⟨rfl, rfl⟩ := he
  simp only [Http.crlfcrlf, List.length_append, List.length_cons, List.length_nil] at this ⊢
  omega

/-- Every head takes at least its empty line, and the end of the line before that. -/
theorem Opening.length_rest_le {config : Config} {window rest : Bytes}
    (h : (∃ request length, ofWindow config window = .request request length rest) ∨
      ∃ fault, ofWindow config window = .malformed fault rest) :
    rest.length + 4 ≤ window.length := by
  unfold ofWindow at h
  split at h
  · split at h <;> simp at h
  · rename_i head rest' hc
    have := length_cutHead? hc
    suffices rest' = rest by subst this; omega
    split at h
    · simp at h
    · split at h
      · simpa using h
      · split at h
        · simp at h
        · split at h
          · simp at h
          · simpa using h

theorem Opening.length_rest_lt {config : Config} {window rest : Bytes}
    (h : (∃ request length, ofWindow config window = .request request length rest) ∨
      ∃ fault, ofWindow config window = .malformed fault rest) :
    rest.length < window.length := by
  have := length_rest_le h
  omega

end WebServer

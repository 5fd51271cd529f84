import WebServer.Proofs.Stream.Prefixes
import WebServer.Server.Framing

/-!
# Elements of a stream of requests

What stands at the beginning of a stream, as reading it at one go tells: `Request.parse` finds a
request there, or its head or its body is rejected, or nothing behind it can be found. At most one
of these is the case (`Element.Opens.unique`), and if none is, more bytes are needed.
-/
namespace WebServer

open Http (Request RequestFault)

section

variable {ε ε' α β : Type} {x : Except ε α}

theorem ok_bind (value : α) (next : α → Except ε β) : (Except.ok value >>= next) = next value := rfl

theorem error_bind (fault : ε) (next : α → Except ε β) :
    (Except.error fault >>= next) = Except.error fault := rfl

theorem bind_eq_ok_iff {next : α → Except ε β} {result : β} :
    (x >>= next) = .ok result ↔ ∃ value, x = .ok value ∧ next value = .ok result := by
  cases x with
  | error cause => exact ⟨nofun, nofun⟩
  | ok value => exact ⟨fun h => ⟨value, rfl, h⟩, fun ⟨_, same, h⟩ => Except.ok.inj same ▸ h⟩

theorem bind_eq_error_iff {next : α → Except ε β} {fault : ε} :
    (x >>= next) = .error fault ↔
      x = .error fault ∨ ∃ value, x = .ok value ∧ next value = .error fault := by
  cases x with
  | error cause =>
    exact ⟨fun h => .inl (Except.error.inj h ▸ rfl),
      fun h => h.elim (fun same => Except.error.inj same ▸ rfl) nofun⟩
  | ok value =>
    exact ⟨fun h => .inr ⟨value, rfl, h⟩,
      fun h => h.elim nofun fun ⟨_, same, h⟩ => Except.ok.inj same ▸ h⟩

theorem mapError_eq_ok_iff {f : ε → ε'} {value : α} :
    x.mapError f = .ok value ↔ x = .ok value := by
  cases x with
  | error cause => exact ⟨nofun, nofun⟩
  | ok other => exact ⟨fun h => Except.ok.inj h ▸ rfl, fun h => Except.ok.inj h ▸ rfl⟩

theorem mapError_eq_error_iff {f : ε → ε'} {fault : ε'} :
    x.mapError f = .error fault ↔ ∃ cause, x = .error cause ∧ f cause = fault := by
  cases x with
  | error cause =>
    exact ⟨fun h => ⟨cause, rfl, Except.error.inj h⟩,
      fun ⟨_, same, h⟩ => congrArg Except.error (Except.error.inj same ▸ h)⟩
  | ok value => exact ⟨nofun, nofun⟩

end

namespace Http.Request

/-- A head that cannot be read is the fault of the client. -/
theorem status_of_parseHead {head : Bytes} {limit : Nat} {fault : RequestFault}
    (h : parseHead head limit = .error fault) : fault.status = 400 := by
  rcases bind_eq_error_iff.1 h with unread | ⟨⟨read, rest⟩, -, meaningless⟩
  · obtain ⟨cause, -, rfl⟩ := mapError_eq_error_iff.1 unread
    rfl
  · have escape {α : Type} {x : Except Text.EscapeFault α}
        (bad : x.mapError RequestFault.escape = .error fault) : fault.status = 400 := by
      obtain ⟨cause, -, rfl⟩ := mapError_eq_error_iff.1 bad
      rfl
    change ofHead read = .error fault at meaningless
    unfold ofHead at meaningless
    -- With a query and without one, the same steps can fail.
    generalize Text.cutOnce? '?' read.target.toList = cut at meaningless
    rcases cut with _ | ⟨path, query⟩
    all_goals
      simp only at meaningless
      split at meaningless
      · rcases bind_eq_error_iff.1 meaningless with target | ⟨_, thrown, -⟩
        · obtain rfl := Except.error.inj target
          rfl
        · cases thrown
      · rcases bind_eq_error_iff.1 meaningless with path | ⟨_, -, meaningless⟩
        · exact escape path
        rcases bind_eq_error_iff.1 meaningless with headers | ⟨_, -, meaningless⟩
        · exact escape headers
        rcases bind_eq_error_iff.1 meaningless with args | ⟨_, -, meaningless⟩
        · exact escape args
        rcases bind_eq_error_iff.1 meaningless with cookies | ⟨_, -, whole⟩
        · exact escape cookies
        cases whole

/-- So is a body that cannot be split into its parts. -/
theorem status_of_attachBody {request : Request} {body : Bytes} {fault : RequestFault}
    (h : request.attachBody body = .error fault) : fault.status = 400 := by
  unfold attachBody at h
  split at h
  · cases h
  · rcases bind_eq_error_iff.1 h with unread | ⟨parts, -, attached⟩
    · obtain ⟨cause, -, rfl⟩ := mapError_eq_error_iff.1 unread
      rfl
    · cases attached

/-- With its body, a request gets parts, and is the same otherwise. -/
theorem exists_parts_of_attachBody {request whole : Request} {body : Bytes}
    (h : request.attachBody body = .ok whole) : ∃ parts, whole = { request with body, parts } := by
  unfold attachBody at h
  split at h
  · exact ⟨request.parts, (Except.ok.inj h).symm⟩
  · obtain ⟨parts, -, attached⟩ := bind_eq_ok_iff.1 h
    exact ⟨parts, (Except.ok.inj attached).symm⟩

/-- A head and its body as they stand at the beginning of some bytes. -/
structure Framed (bytes head body rest : Bytes) (request : Request) : Prop where
  cut : cutHead? bytes = some (head, body ++ rest)
  parsed : parseHead head defaultFieldLimit = .ok request
  sized : request.bodyLength = .ok body.length

theorem Framed.drop_eq {bytes head body rest : Bytes} {request : Request}
    (h : Framed bytes head body rest request) :
    bytes.drop (head.length + body.length) = rest := by
  rw [append_of_cutHead? h.cut, ← List.append_assoc, ← List.length_append, List.drop_left]

/-- What reading at one go finds is a head with its body, to which the body was added. -/
theorem parse_eq_some_iff {bytes : Bytes} {whole : Request} {size : Nat} :
    parse bytes = .ok (some (whole, size)) ↔
      ∃ head body rest request, Framed bytes head body rest request ∧
        request.attachBody body = .ok whole ∧ size = head.length + body.length ∧
        size ≤ greatestLength := by
  constructor
  · intro h
    unfold parse at h
    split at h
    · cases h
    · rename_i head behind cut
      obtain ⟨request, parsed, h⟩ := bind_eq_ok_iff.1 h
      obtain ⟨length, sized, h⟩ := bind_eq_ok_iff.1 h
      simp only at h
      split at h
      · cases h
      · rename_i within
        split at h
        · cases h
        · rename_i body rest split
          obtain ⟨attached, added, h⟩ := bind_eq_ok_iff.1 h
          obtain ⟨rfl, rfl⟩ := Prod.mk.inj (Option.some.inj (Except.ok.inj h))
          obtain ⟨rfl, rfl⟩ := Bytes.splitExactly?_eq_some_iff.1 split
          have framed : Framed bytes head body rest request := ⟨cut, parsed, sized⟩
          exact ⟨head, body, rest, request, framed, added, rfl, Nat.le_of_not_lt within⟩
  · rintro ⟨head, body, rest, request, framed, added, rfl, within⟩
    have split : Bytes.splitExactly? body.length (body ++ rest) = some (body, rest) :=
      Bytes.splitExactly?_eq_some_iff.2 ⟨rfl, rfl⟩
    unfold parse
    rw [framed.cut]
    refine bind_eq_ok_iff.2 ⟨request, framed.parsed, bind_eq_ok_iff.2 ⟨_, framed.sized, ?_⟩⟩
    simp only
    rw [if_neg (Nat.not_lt.2 within), split]
    exact bind_eq_ok_iff.2 ⟨whole, added, rfl⟩

end Http.Request

/-- What stands at the beginning of a stream of requests. -/
inductive Element where
  /-- A whole request. -/
  | request (request : Request)
  /-- A head that is no request. -/
  | badHead (fault : RequestFault)
  /-- A head with a body that is rejected. -/
  | badBody (head : Request) (fault : RequestFault)
  /-- Something behind which no request can be found. -/
  | unreadable (fault : RequestFault)
  deriving DecidableEq, Repr

/-- What begins with these bytes, or is announced by them, is larger than the limit. -/
inductive Oversized (max : Nat) (bytes : Bytes) : Prop where
  | endless (none : Request.cutHead? bytes = none) (exceeds : max < bytes.length)
  | head {head rest : Bytes} (cut : Request.cutHead? bytes = some (head, rest))
    (exceeds : max < head.length)
  | body {head rest : Bytes} {request : Request} {length : Nat}
    (cut : Request.cutHead? bytes = some (head, rest))
    (parsed : Request.parseHead head Request.defaultFieldLimit = .ok request)
    (sized : request.bodyLength = .ok length)
    (exceeds : max < min (head.length + length) Request.greatestLength)

/-- An element stands at the beginning of the bytes and takes up so many of them, under a limit for
the length of requests. -/
inductive Element.Opens (max : Nat) (bytes : Bytes) : Element → Nat → Prop where
  | request {request : Request} {size : Nat}
    (parsed : Request.parse bytes = .ok (some (request, size))) (fits : size ≤ max) :
    Opens max bytes (.request request) size
  | badHead {head rest : Bytes} {fault : RequestFault}
    (cut : Request.cutHead? bytes = some (head, rest)) (fits : head.length ≤ max)
    (rejected : Request.parseHead head Request.defaultFieldLimit = .error fault) :
    Opens max bytes (.badHead fault) head.length
  | badBody {head body rest : Bytes} {request : Request} {fault : RequestFault}
    (framed : Request.Framed bytes head body rest request)
    (fits : head.length + body.length ≤ max) (rejected : request.attachBody body = .error fault) :
    Opens max bytes (.badBody request fault) (head.length + body.length)
  /-- The length of the body is in doubt. -/
  | unframed {head rest : Bytes} {request : Request} {fault : RequestFault}
    (cut : Request.cutHead? bytes = some (head, rest)) (fits : head.length ≤ max)
    (parsed : Request.parseHead head Request.defaultFieldLimit = .ok request)
    (doubt : request.bodyLength = .error fault) :
    Opens max bytes (.unreadable fault) bytes.length
  | tooLarge (exceeds : Oversized max bytes) : Opens max bytes (.unreadable .tooLarge) bytes.length

namespace Element

/-- A head with its body. -/
def ofBody (head : Request) (body : Bytes) : Element :=
  match head.attachBody body with
  | .ok whole => .request whole
  | .error fault => .badBody head fault

/-- The element at the beginning of a window that opens so, and what is behind it. -/
def ofOpening : Opening → Option (Element × Bytes)
  | .incomplete => none
  | .request head length rest =>
    (Bytes.splitExactly? length rest).map fun (body, behind) => (ofBody head body, behind)
  | .malformed fault rest => some (.badHead fault, rest)
  | .unframed fault => some (.unreadable fault, [])

variable {config : Config} {bytes : Bytes} {element : Element} {size : Nat}

theorem ofOpening_of_framed {head body rest : Bytes} {request : Request}
    (limit : config.maxHeaders = Request.defaultFieldLimit)
    (framed : Request.Framed bytes head body rest request)
    (fits : head.length + body.length ≤ config.maxRequestSize) :
    ofOpening (Opening.ofWindow config bytes) = some (ofBody request body, rest) := by
  have small : ¬ config.maxRequestSize < head.length := by omega
  have whole : ¬ config.maxRequestSize <
      min (head.length + body.length) Request.greatestLength := by omega
  have opening : Opening.ofWindow config bytes = .request request body.length (body ++ rest) := by
    unfold Opening.ofWindow
    simp only [framed.cut, if_neg small, limit, framed.parsed, framed.sized, if_neg whole]
  have split : Bytes.splitExactly? body.length (body ++ rest) = some (body, rest) :=
    Bytes.splitExactly?_eq_some_iff.2 ⟨rfl, rfl⟩
  rw [opening, ofOpening, split]
  rfl

theorem Opens.ofOpening_eq (limit : config.maxHeaders = Request.defaultFieldLimit)
    (h : element.Opens config.maxRequestSize bytes size) :
    ofOpening (Opening.ofWindow config bytes) = some (element, bytes.drop size) := by
  cases h with
  | request parsed fits =>
    obtain ⟨head, body, rest, request, framed, added, rfl, -⟩ :=
      Request.parse_eq_some_iff.1 parsed
    rw [ofOpening_of_framed limit framed fits, framed.drop_eq, ofBody, added]
  | @badHead head rest fault cut fits rejected =>
    have behind : bytes.drop head.length = rest := by
      rw [Request.append_of_cutHead? cut, List.drop_left]
    have small : ¬ config.maxRequestSize < head.length := Nat.not_lt.2 fits
    have opening : Opening.ofWindow config bytes = .malformed fault rest := by
      unfold Opening.ofWindow
      simp only [cut, if_neg small, limit, rejected]
    rw [opening, behind, ofOpening]
  | @badBody head body rest request fault framed fits rejected =>
    rw [ofOpening_of_framed limit framed fits, framed.drop_eq, ofBody, rejected]
  | @unframed head rest request fault cut fits parsed doubt =>
    have small : ¬ config.maxRequestSize < head.length := Nat.not_lt.2 fits
    have opening : Opening.ofWindow config bytes = .unframed fault := by
      unfold Opening.ofWindow
      simp only [cut, if_neg small, limit, parsed, doubt]
    rw [opening, List.drop_length, ofOpening]
  | tooLarge exceeds =>
    have opening : Opening.ofWindow config bytes = .unframed .tooLarge := by
      unfold Opening.ofWindow
      cases exceeds with
      | endless none exceeds => simp only [none, if_pos exceeds]
      | head cut exceeds => simp only [cut, if_pos exceeds]
      | @body head rest request length cut parsed sized exceeds =>
        by_cases large : config.maxRequestSize < head.length
        · simp only [cut, if_pos large]
        · simp only [cut, if_neg large, limit, parsed, sized, if_pos exceeds]
    rw [opening, List.drop_length, ofOpening]

theorem Opens.size_le {max : Nat} (h : element.Opens max bytes size) : size ≤ bytes.length := by
  have whole {head body rest : Bytes} {request : Request}
      (framed : Request.Framed bytes head body rest request) :
      head.length + body.length ≤ bytes.length := by
    have sizes := (length_cutHead? framed.cut).2
    rw [List.length_append] at sizes
    omega
  cases h with
  | request parsed fits =>
    obtain ⟨head, body, rest, request, framed, -, rfl, -⟩ := Request.parse_eq_some_iff.1 parsed
    exact whole framed
  | badHead cut fits rejected =>
    have sizes := (length_cutHead? cut).2
    omega
  | badBody framed fits rejected => exact whole framed
  | unframed cut fits parsed doubt => exact Nat.le_refl _
  | tooLarge exceeds => exact Nat.le_refl _

theorem Opens.size_pos {max : Nat} (h : element.Opens max bytes size) : 0 < size := by
  cases h with
  | request parsed fits =>
    obtain ⟨head, body, rest, request, framed, -, rfl, -⟩ := Request.parse_eq_some_iff.1 parsed
    have := (length_cutHead? framed.cut).1
    omega
  | badHead cut fits rejected =>
    have := (length_cutHead? cut).1
    omega
  | badBody framed fits rejected =>
    have := (length_cutHead? framed.cut).1
    omega
  | unframed cut fits parsed doubt =>
    have := length_cutHead? cut
    omega
  | tooLarge exceeds =>
    cases exceeds with
    | endless none exceeds => omega
    | head cut exceeds =>
      have := length_cutHead? cut
      omega
    | body cut parsed sized exceeds =>
      have := length_cutHead? cut
      omega

/-- At most one element stands at the beginning of a stream. -/
theorem Opens.unique {max : Nat} {element' : Element} {size' : Nat}
    (h : element.Opens max bytes size) (h' : element'.Opens max bytes size') :
    element = element' ∧ size = size' := by
  let config : Config := { maxRequestSize := max }
  have found : ofOpening (Opening.ofWindow config bytes) = some (element, bytes.drop size) :=
    Opens.ofOpening_eq rfl h
  have found' : ofOpening (Opening.ofWindow config bytes) = some (element', bytes.drop size') :=
    Opens.ofOpening_eq rfl h'
  obtain ⟨same, behind⟩ := Prod.mk.inj (Option.some.inj (found.symm.trans found'))
  have lengths := congrArg List.length behind
  simp only [List.length_drop] at lengths
  have within := h.size_le
  have within' := h'.size_le
  exact ⟨same, by omega⟩

end Element
end WebServer

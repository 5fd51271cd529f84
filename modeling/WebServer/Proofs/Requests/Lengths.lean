import Mathlib.Data.Nat.Digits.Defs
import Mathlib.Tactic.Ring
import WebServer.Proofs.Requests.PartHeaders
import WebServer.Proofs.Requests.Rendering

/-!
# Lengths of bodies

Where the next request begins is told by the Content-Length fields of a head. All of them have to
write the same number, wherever they stand among the other fields, and there is no length if one of
them does not (`lengths_agree`). Numbers are written in digits; the reader lets a plus sign before
them pass as well, although the fields may not have one (`signed_length_accepted`).
-/
namespace WebServer

namespace Text

/-- Digits, at least one, that write a number in base ten. -/
structure Writes (digits : List Char) (n : Nat) : Prop where
  some : digits ≠ []
  digit : ∀ c ∈ digits, c.isDigit = true
  value : Nat.ofDigits 10 (digits.reverse.map fun c => c.toNat - 48) = n

theorem decimal?.foldlM_eq_some_iff {digits : List Char} {start n : Nat} :
    digits.foldlM step start = some n ↔
      (∀ c ∈ digits, c.isDigit = true) ∧ start * 10 ^ digits.length +
        Nat.ofDigits 10 (digits.reverse.map fun c => c.toNat - 48) = n := by
  induction digits generalizing start with
  | nil => simp [pure]
  | cons c digits ih =>
    rw [List.foldlM_cons, step]
    by_cases digit : c.isDigit = true
    · have shifted : start * 10 ^ (digits.length + 1) +
          (Nat.ofDigits 10 (digits.reverse.map fun c => c.toNat - 48) +
            10 ^ digits.length * (c.toNat - 48)) =
          (10 * start + (c.toNat - 48)) * 10 ^ digits.length +
            Nat.ofDigits 10 (digits.reverse.map fun c => c.toNat - 48) := by ring
      rw [if_pos digit, Option.bind_eq_bind, Option.bind_some, ih, List.reverse_cons,
        List.map_append, Nat.ofDigits_append, List.length_cons, List.forall_mem_cons]
      simp only [List.map_cons, List.map_nil, Nat.ofDigits_singleton, List.length_map,
        List.length_reverse, shifted, digit, true_and]
    · rw [if_neg digit]
      simp [digit]

theorem decimal?_eq_some_iff {digits : List Char} {n : Nat} :
    decimal? digits = some n ↔ Writes digits n := by
  unfold decimal?
  split
  · rename_i empty
    exact ⟨nofun, fun writes => absurd (List.isEmpty_iff.1 empty) writes.some⟩
  · rename_i some
    rw [decimal?.foldlM_eq_some_iff, Nat.zero_mul, Nat.zero_add]
    exact ⟨fun h => ⟨fun empty => some (List.isEmpty_iff.2 empty), h.1, h.2⟩,
      fun writes => ⟨writes.digit, writes.value⟩⟩

/-- A numeral that does not begin with a sign is all digits. -/
theorem states_iff_writes {numeral : String} {n : Nat} (plain : numeral.toList.head? ≠ some '+') :
    States numeral n ↔ Writes numeral.toList n := by
  constructor
  · rintro ⟨digits, value, same | signed⟩
    · rw [same]
      exact decimal?_eq_some_iff.1 value
    · rw [signed] at plain
      exact absurd rfl plain
  · exact fun writes => ⟨numeral.toList, decimal?_eq_some_iff.2 writes, .inl rfl⟩

theorem unsigned?_eq_some_iff {greatest n : Nat} {numeral : String} :
    unsigned? greatest numeral.toList = some n ↔ States numeral n ∧ n ≤ greatest := by
  refine ⟨fun h => ?_, fun h => unsigned?_of_states h.1 h.2⟩
  obtain ⟨value, fits⟩ := Option.filter_eq_some_iff.1 h
  refine ⟨⟨_, value, ?_⟩, by simpa using fits⟩
  split
  · rename_i digits signed
    exact .inr signed
  · exact .inl rfl

/-- A numeral states one number. -/
theorem States.unique {numeral : String} {n m : Nat} (h : States numeral n)
    (other : States numeral m) : n = m := by
  have reads {k : Nat} (states : States numeral k) (fits : k ≤ max n m) :=
    unsigned?_of_states states fits
  exact Option.some.inj
    ((reads h (Nat.le_max_left n m)).symm.trans (reads other (Nat.le_max_right n m)))

end Text

namespace Http

/-- The Content-Length fields agree on a length, each of them writing it in the given way. Without
any of them there is no body. -/
structure Headers.AgreeOn (h : Headers) (writes : String → Nat → Prop) (n : Nat) : Prop where
  fits : n ≤ Request.greatestLength
  all : ∀ value ∈ h.getAll "content-length", writes value n
  absent : h.getAll "content-length" = [] → n = 0

theorem Headers.AgreeOn.congr {h other : Headers} {writes writes' : String → Nat → Prop} {n : Nat}
    (same : ∀ value, value ∈ h.getAll "content-length" ↔ value ∈ other.getAll "content-length")
    (alike : ∀ value ∈ h.getAll "content-length", writes value n ↔ writes' value n) :
    h.AgreeOn writes n ↔ other.AgreeOn writes' n := by
  have none : h.getAll "content-length" = [] ↔ other.getAll "content-length" = [] := by
    rw [List.eq_nil_iff_forall_not_mem, List.eq_nil_iff_forall_not_mem]
    exact forall_congr' fun value => not_congr (same value)
  constructor
  · exact fun agree => ⟨agree.fits,
      fun value member =>
        (alike value ((same value).2 member)).1 (agree.all value ((same value).2 member)),
      fun absent => agree.absent (none.2 absent)⟩
  · exact fun agree => ⟨agree.fits,
      fun value member => (alike value member).2 (agree.all value ((same value).1 member)),
      fun absent => agree.absent (none.1 absent)⟩

namespace Request

variable {request : Request} {values : List String} {agreed : Option Nat}

/-- A length is found exactly if all values state it, and those before did. -/
theorem agreedLength_eq_ok_iff {result : Option Nat} :
    agreedLength agreed values = .ok result ↔
      (values = [] ∧ result = agreed) ∨
        ∃ n, result = some n ∧ values ≠ [] ∧ (∀ m ∈ agreed, m = n) ∧ n ≤ greatestLength ∧
          ∀ value ∈ values, Text.States value n := by
  induction values generalizing agreed with
  | nil => simp [agreedLength, eq_comm]
  | cons value values ih =>
    have some : value :: values ≠ [] := List.cons_ne_nil _ _
    simp only [some, false_and, false_or, ne_eq, not_false_eq_true, true_and,
      List.forall_mem_cons]
    rw [agreedLength]
    cases read : Text.unsigned? greatestLength value.toList with
    | none =>
      constructor
      · intro h
        cases h
      · rintro ⟨n, -, -, fits, states, -⟩
        rw [Text.unsigned?_of_states states fits] at read
        cases read
    | some length =>
      obtain ⟨states, fits⟩ := Text.unsigned?_eq_some_iff.1 read
      simp only
      split
      · rename_i differs
        constructor
        · intro h
          cases h
        · rintro ⟨n, -, before, -, states', -⟩
          obtain ⟨m, earlier, other⟩ := (Option.any_eq_true _ _).1 differs
          rw [before m earlier, states.unique states'] at other
          simp at other
      · rename_i same
        have before : ∀ m ∈ agreed, m = length := by
          rintro m rfl
          simpa using same
        rw [ih]
        constructor
        · rintro (⟨rfl, rfl⟩ | ⟨n, rfl, -, only, -, others⟩)
          · exact ⟨length, rfl, before, fits, states, List.forall_mem_nil _⟩
          · obtain rfl := only length rfl
            exact ⟨length, rfl, before, fits, states, others⟩
        · rintro ⟨n, rfl, -, -, states', others⟩
          obtain rfl := states.unique states'
          cases values with
          | nil => exact .inl ⟨rfl, rfl⟩
          | cons next values =>
            exact .inr ⟨length, rfl, List.cons_ne_nil _ _,
              fun m same => (Option.some.inj same).symm, fits, others⟩

/-- Without a length, a value states none, or two of them state different ones. -/
theorem agreedLength_eq_error {fault : RequestFault}
    (h : agreedLength agreed values = .error fault) :
    (∃ value ∈ values, fault = .badLength value ∧ ∀ n ≤ greatestLength, ¬ Text.States value n) ∨
      fault = .conflictingLengths ∧ ∃ n m, n ≠ m ∧ (∃ value ∈ values, Text.States value m) ∧
        (n ∈ agreed ∨ ∃ value ∈ values, Text.States value n) := by
  induction values generalizing agreed with
  | nil => cases h
  | cons value values ih =>
    rw [agreedLength] at h
    split at h
    · rename_i unread
      obtain rfl := Except.error.inj h
      refine .inl ⟨value, List.mem_cons_self, rfl, fun n fits states => ?_⟩
      rw [Text.unsigned?_of_states states fits] at unread
      cases unread
    · rename_i length read
      have states := (Text.unsigned?_eq_some_iff.1 read).1
      have here : ∃ value' ∈ value :: values, Text.States value' length :=
        ⟨value, List.mem_cons_self, states⟩
      split at h
      · rename_i differs
        obtain ⟨m, earlier, other⟩ := (Option.any_eq_true _ _).1 differs
        obtain rfl := Except.error.inj h
        exact .inr ⟨rfl, m, length, by simpa using other, here, .inl earlier⟩
      · have later {n : Nat} (stated : ∃ value' ∈ values, Text.States value' n) :
            ∃ value' ∈ value :: values, Text.States value' n := by
          obtain ⟨value', member, states⟩ := stated
          exact ⟨value', .tail _ member, states⟩
        rcases ih h with ⟨value', member, told⟩ | ⟨told, n, m, differ, second, first⟩
        · exact .inl ⟨value', .tail _ member, told⟩
        · refine .inr ⟨told, n, m, differ, later second, .inr ?_⟩
          rcases first with before | among
          · obtain rfl := Option.some.inj before
            exact here
          · exact later among

/-- Without codings the length is what the Content-Length fields agree on. -/
theorem bodyLength_eq_ok_iff {n : Nat} (uncoded : request.headers.getAll "transfer-encoding" = []) :
    request.bodyLength = .ok n ↔ request.headers.AgreeOn Text.States n := by
  rw [bodyLength_of_uncoded uncoded, bind_eq_ok_iff]
  constructor
  · rintro ⟨found, agreed, length⟩
    obtain rfl := Except.ok.inj length
    rcases agreedLength_eq_ok_iff.1 agreed with ⟨absent, rfl⟩ | ⟨n, rfl, some, -, fits, states⟩
    · exact ⟨Nat.zero_le _, by simp [absent], fun _ => rfl⟩
    · exact ⟨fits, states, fun absent => absurd absent some⟩
  · intro agree
    by_cases absent : request.headers.getAll "content-length" = []
    · obtain rfl := agree.absent absent
      exact ⟨none, agreedLength_eq_ok_iff.2 (.inl ⟨absent, rfl⟩), rfl⟩
    · exact ⟨some n, agreedLength_eq_ok_iff.2
        (.inr ⟨n, rfl, absent, nofun, agree.fits, agree.all⟩), rfl⟩

/-- What is received as a field, and what the request has as one: the name without its escapes, and
the value without the blanks around it. -/
structure Received (raw : String × Bytes) (field : String × String) : Prop where
  name : Text.StandsFor false raw.1 field.1
  value : field.2 = String.ofList (Text.trim (Text.decodeLossy raw.2).toList)

theorem readHeaders_eq_ok_iff {raw : List (String × Bytes)} {headers : Headers} :
    readHeaders raw = .ok headers ↔ List.Forall₂ Received raw headers.fields := by
  have each (raw : String × Bytes) (field : String × String) :
      (do
        let name ← Text.unescape raw.1 false
        return (name, String.ofList (Text.trim (Text.decodeLossy raw.2).toList))) =
        Except.ok (ε := Text.EscapeFault) field ↔ Received raw field := by
    rw [bind_eq_ok_iff]
    constructor
    · rintro ⟨name, unescaped, same⟩
      obtain rfl := Except.ok.inj same
      exact ⟨Text.unescape_eq_ok_iff.1 unescaped, rfl⟩
    · rintro ⟨name, value⟩
      exact ⟨field.1, Text.unescape_eq_ok_iff.2 name, congrArg Except.ok (Prod.ext rfl value.symm)⟩
  unfold readHeaders
  rw [bind_eq_ok_iff]
  constructor
  · rintro ⟨fields, read, same⟩
    obtain rfl := Except.ok.inj same
    exact (mapM_eq_ok_iff.1 read).imp fun _ _ => (each _ _).1
  · intro received
    exact ⟨headers.fields, mapM_eq_ok_iff.2 (received.imp fun _ _ => (each _ _).2), rfl⟩

theorem readHeaders_of_parseHead {head : Bytes} {limit : Nat}
    (parsed : parseHead head limit = .ok request) :
    ∃ read rest, Head.read limit head = .ok (read, rest) ∧
      readHeaders read.fields = .ok request.headers := by
  obtain ⟨⟨read, rest⟩, found, meant⟩ := bind_eq_ok_iff.1 parsed
  refine ⟨read, rest, mapError_eq_ok_iff.1 found, ?_⟩
  change ofHead read = .ok request at meant
  unfold ofHead at meant
  split at meant
  all_goals
    simp only at meant
    split at meant
    · cases meant
    · obtain ⟨path, -, meant⟩ := bind_eq_ok_iff.1 meant
      obtain ⟨headers, fields, meant⟩ := bind_eq_ok_iff.1 meant
      obtain ⟨args, -, meant⟩ := bind_eq_ok_iff.1 meant
      obtain ⟨cookies, -, meant⟩ := bind_eq_ok_iff.1 meant
      obtain rfl := Except.ok.inj meant
      exact mapError_eq_ok_iff.1 fields

/-- The fields of a request that was read are those that were received. -/
theorem received_of_parseHead {head : Bytes} {limit : Nat}
    (parsed : parseHead head limit = .ok request) :
    ∃ read rest, Head.read limit head = .ok (read, rest) ∧
      List.Forall₂ Received read.fields request.headers.fields := by
  obtain ⟨read, rest, found, fields⟩ := readHeaders_of_parseHead parsed
  exact ⟨read, rest, found, readHeaders_eq_ok_iff.1 fields⟩

/-- Without codings, what is not agreed on is told by a value that states no length, or by two that
state different ones. -/
theorem bodyLength_eq_error {fault : RequestFault}
    (uncoded : request.headers.getAll "transfer-encoding" = [])
    (failed : request.bodyLength = .error fault) :
    (∃ value ∈ request.headers.getAll "content-length",
        fault = .badLength value ∧ ∀ n ≤ greatestLength, ¬ Text.States value n) ∨
      fault = .conflictingLengths ∧ ∃ n m, n ≠ m ∧
        (∃ value ∈ request.headers.getAll "content-length", Text.States value m) ∧
        ∃ value ∈ request.headers.getAll "content-length", Text.States value n := by
  rw [bodyLength_of_uncoded uncoded] at failed
  rcases bind_eq_error_iff.1 failed with disagreed | ⟨length, -, found⟩
  · rcases agreedLength_eq_error disagreed with unread | ⟨told, n, m, differ, second, first⟩
    · exact .inl unread
    · exact .inr ⟨told, n, m, differ, second, first.resolve_left nofun⟩
  · cases found

end Request

open Request (Received)

/-- For every list of fields without a Transfer-Encoding, the body has a length exactly if all
Content-Length fields state it, in digits that may have a plus sign before them; it is zero if there
are none. If no value has such a sign, all of them have to be digits that write the length. What
they do not agree on is answered with 400, because of a value that states no length or of two that
state different ones. The order of the fields does not matter. What a request has as a field is one
that was received, without the escapes in its name and without the blanks around its value. -/
theorem lengths_agree {request : Request}
    (uncoded : request.headers.getAll "transfer-encoding" = []) :
    (∀ n, request.bodyLength = .ok n ↔ request.headers.AgreeOn Text.States n) ∧
      ((∀ value ∈ request.headers.getAll "content-length", value.toList.head? ≠ some '+') →
        ∀ n, request.bodyLength = .ok n ↔
          request.headers.AgreeOn (fun value => Text.Writes value.toList) n) ∧
      ((∀ n, ¬ request.headers.AgreeOn Text.States n) →
        ∃ fault, request.bodyLength = .error fault ∧ (Failure.request fault).status = 400 ∧
          ((∃ value ∈ request.headers.getAll "content-length", fault = .badLength value ∧
              ∀ n ≤ Request.greatestLength, ¬ Text.States value n) ∨
            fault = .conflictingLengths ∧ ∃ n m, n ≠ m ∧
              (∃ value ∈ request.headers.getAll "content-length", Text.States value m) ∧
              ∃ value ∈ request.headers.getAll "content-length", Text.States value n)) ∧
      (∀ other : Request, other.headers.fields.Perm request.headers.fields →
        ∀ n, other.bodyLength = .ok n ↔ request.bodyLength = .ok n) ∧
      ∀ head limit, Request.parseHead head limit = .ok request →
        ∃ read rest, Head.read limit head = .ok (read, rest) ∧
          List.Forall₂ Received read.fields request.headers.fields := by
  refine ⟨fun n => Request.bodyLength_eq_ok_iff uncoded, ?_, ?_, ?_,
    fun head limit => Request.received_of_parseHead⟩
  · intro unsigned n
    rw [Request.bodyLength_eq_ok_iff uncoded]
    exact Headers.AgreeOn.congr (fun _ => Iff.rfl)
      fun value member => Text.states_iff_writes (unsigned value member)
  · intro disagreed
    cases failed : request.bodyLength with
    | ok n => exact absurd ((Request.bodyLength_eq_ok_iff uncoded).1 failed) (disagreed n)
    | error fault =>
      have told := Request.bodyLength_eq_error uncoded failed
      refine ⟨fault, rfl, ?_, told⟩
      rcases told with ⟨value, -, rfl, -⟩ | ⟨rfl, -⟩ <;> rfl
  · intro other moved n
    have values (name : String) :
        (other.headers.getAll name).Perm (request.headers.getAll name) :=
      (moved.filter _).map _
    have uncoded' : other.headers.getAll "transfer-encoding" = [] :=
      List.perm_nil.1 (uncoded ▸ values "transfer-encoding")
    rw [Request.bodyLength_eq_ok_iff uncoded, Request.bodyLength_eq_ok_iff uncoded']
    exact Headers.AgreeOn.congr (fun value => (values _).mem_iff) fun _ _ => Iff.rfl

/-- The same length twice, in another case, with zeros and blanks around it. -/
theorem repeated_length_read :
    let head := Text.encode
      "POST / HTTP/1.1\r\nContent-Length: 5\r\nHost: a\r\nCONTENT-length:  05 \r\n\r\n"
    ∃ request, Request.parseHead head 64 = .ok request ∧
      request.headers.getAll "content-length" = ["5", "05"] ∧
      request.headers.AgreeOn (fun value => Text.Writes value.toList) 5 ∧
      request.bodyLength = .ok 5 := by
  intro head
  have fields : (Request.parseHead head 64).toOption.map (·.headers.fields) =
      some [("Content-Length", "5"), ("Host", "a"), ("CONTENT-length", "05")] := by decide +kernel
  cases parsed : Request.parseHead head 64 with
  | error fault =>
    rw [parsed] at fields
    cases fields
  | ok request =>
    rw [parsed] at fields
    have fields : request.headers.fields =
      [("Content-Length", "5"), ("Host", "a"), ("CONTENT-length", "05")] := Option.some.inj fields
    have uncoded : request.headers.getAll "transfer-encoding" = [] := by
      rw [Headers.getAll, fields]
      decide
    have lengths : request.headers.getAll "content-length" = ["5", "05"] := by
      rw [Headers.getAll, fields]
      decide
    have agree : request.headers.AgreeOn (fun value => Text.Writes value.toList) 5 := {
      fits := by decide
      all := by
        rw [lengths]
        exact List.forall_mem_cons.2 ⟨Text.decimal?_eq_some_iff.1 (by decide),
          List.forall_mem_singleton.2 (Text.decimal?_eq_some_iff.1 (by decide))⟩
      absent := by simp [lengths] }
    have unsigned : ∀ value ∈ request.headers.getAll "content-length",
        value.toList.head? ≠ some '+' := by
      rw [lengths]
      decide
    exact ⟨request, rfl, lengths, agree, ((lengths_agree uncoded).2.1 unsigned 5).2 agree⟩

/-- A length with a plus sign before it is accepted, although it is not written in digits. -/
theorem signed_length_accepted :
    let head := Text.encode "POST / HTTP/1.1\r\nContent-Length: +5\r\n\r\n"
    ∃ request, Request.parseHead head 64 = .ok request ∧
      request.headers.getAll "transfer-encoding" = [] ∧
      request.headers.getAll "content-length" = ["+5"] ∧
      ¬ request.headers.AgreeOn (fun value => Text.Writes value.toList) 5 ∧
      request.bodyLength = .ok 5 := by
  intro head
  have read : (Request.parseHead head 64).toOption.map
      (fun request => (request.headers.fields, request.bodyLength.toOption)) =
      some ([("Content-Length", "+5")], some 5) := by decide +kernel
  cases parsed : Request.parseHead head 64 with
  | error fault =>
    rw [parsed] at read
    cases read
  | ok request =>
    rw [parsed] at read
    obtain ⟨fields, length⟩ := Prod.mk.inj (Option.some.inj read)
    have lengths : request.headers.getAll "content-length" = ["+5"] := by
      rw [Headers.getAll, fields]
      decide
    refine ⟨request, rfl, ?_, lengths, fun agree => ?_, ?_⟩
    · rw [Headers.getAll, fields]
      decide
    · have writes := agree.all "+5" (by simp [lengths])
      exact absurd (writes.digit '+' (by decide)) (by decide)
    · cases sized : request.bodyLength with
      | error fault =>
        rw [sized] at length
        cases length
      | ok n =>
        rw [sized] at length
        exact congrArg Except.ok (Option.some.inj length)

end Http
end WebServer

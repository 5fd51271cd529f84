import WebServer.Proofs.Requests.Answers
import WebServer.Proofs.Stream.Windows

/-!
# Codings of a body

A body is framed by its length alone. If the first Transfer-Encoding of a head is another one than
`identity`, no length can be trusted: the connection answers so, closes and reads nothing more.
Codings behind the first are not looked at, so that behind `identity` they have no effect
(`first_coding_decides`).
-/
namespace WebServer

open Http (Request RequestFault Failure Headers)

namespace Http.Headers

variable {h : Headers} {name other value : String}

/-- The first field of that name has the value, in whatever case the name is written. -/
def Leads (h : Headers) (name value : String) : Prop :=
  ∃ before written after, h.fields = before ++ (written, value) :: after ∧
    Text.sameIgnoringCase written name = true ∧
    ∀ field ∈ before, Text.sameIgnoringCase field.1 name = false

theorem get?_eq_some_iff : h.get? name = some value ↔ h.Leads name value := by
  unfold get?
  rw [Option.map_eq_some_iff]
  constructor
  · rintro ⟨⟨written, _⟩, found, rfl⟩
    obtain ⟨named, before, after, split, earlier⟩ := List.find?_eq_some_iff_append.1 found
    refine ⟨before, written, after, split, named, ?_⟩
    intro field member
    simpa [names] using earlier field member
  · rintro ⟨before, written, after, split, named, others⟩
    have earlier : ∀ field ∈ before, (!names name field) = true := by
      intro field member
      simpa [names] using others field member
    exact ⟨(written, value),
      List.find?_eq_some_iff_append.2 ⟨named, before, after, split, earlier⟩, rfl⟩

theorem Leads.mem_getAll (leads : h.Leads name value) : value ∈ h.getAll name := by
  obtain ⟨before, written, after, split, named, -⟩ := leads
  refine List.mem_map.2 ⟨(written, value), List.mem_filter.2 ⟨?_, named⟩, rfl⟩
  rw [split]
  exact List.mem_append_right _ List.mem_cons_self

/-- A token stands between commas in some field of that name. -/
theorem hasToken_iff {token : String} :
    h.hasToken name token = true ↔
      ∃ field ∈ h.fields, Text.sameIgnoringCase field.1 name = true ∧
        ∃ item ∈ field.2.toList.splitOn ',',
          Text.sameIgnoringCase (String.ofList (Text.trim item)) token = true := by
  unfold hasToken getAll
  simp only [List.any_eq_true, List.mem_map, List.mem_filter, names]
  constructor
  · rintro ⟨_, ⟨field, ⟨member, named⟩, rfl⟩, item, part, found⟩
    exact ⟨field, member, named, item, part, found⟩
  · rintro ⟨field, member, named, item, part, found⟩
    exact ⟨_, ⟨field, ⟨member, named⟩, rfl⟩, item, part, found⟩

/-- Fields of one name are not lost with those of another. -/
theorem getAll_erase (different : Text.sameIgnoringCase name other = false) :
    (h.erase other).getAll name = h.getAll name := by
  unfold getAll erase
  rw [List.filter_filter]
  congr 1
  apply List.filter_congr
  intro field _
  by_cases named : names name field = true
  · have elsewhere : names other field = false := by
      unfold names Text.sameIgnoringCase at *
      rw [beq_iff_eq] at named
      rwa [named]
    simp [named, elsewhere]
  · simp [named]

end Http.Headers

namespace Http.Request

variable {request : Request} {coding : String}

/-- Lengths that disagree or cannot be read are no codings. -/
theorem agreedLength_ne_unsupportedCoding (agreed : Option Nat) (values : List String) :
    agreedLength agreed values ≠ .error (.unsupportedCoding coding) := by
  induction values generalizing agreed with
  | nil => simp [agreedLength]
  | cons value values ih =>
    unfold agreedLength
    split
    · simp
    · split
      · simp
      · exact ih _

theorem bodyLength_of_foreign (leads : request.headers.Leads "transfer-encoding" coding)
    (foreign : Text.sameIgnoringCase coding "identity" = false) :
    request.bodyLength = .error (.unsupportedCoding coding) := by
  unfold bodyLength
  rw [Headers.get?_eq_some_iff.2 leads]
  simp only [foreign]
  rfl

/-- If the first coding is `identity`, or there is none, only the lengths count. -/
theorem bodyLength_of_plain
    (plain : ∀ coding, request.headers.Leads "transfer-encoding" coding →
      Text.sameIgnoringCase coding "identity" = true) :
    request.bodyLength = (agreedLength none (request.headers.getAll "content-length") >>=
      fun length => .ok (length.getD 0)) := by
  unfold bodyLength
  cases first : request.headers.get? "transfer-encoding" with
  | none => rfl
  | some coding =>
    have identity := plain coding (Headers.get?_eq_some_iff.1 first)
    simp only [identity]
    rfl

/-- So it is for a request without any coding. -/
theorem bodyLength_of_uncoded (uncoded : request.headers.getAll "transfer-encoding" = []) :
    request.bodyLength = (agreedLength none (request.headers.getAll "content-length") >>=
      fun length => .ok (length.getD 0)) := by
  refine bodyLength_of_plain fun coding leads => ?_
  have member := leads.mem_getAll
  rw [uncoded] at member
  cases member

/-- A coding is refused exactly if it is the first and not `identity`. -/
theorem bodyLength_eq_unsupportedCoding_iff :
    request.bodyLength = .error (.unsupportedCoding coding) ↔
      request.headers.Leads "transfer-encoding" coding ∧
        Text.sameIgnoringCase coding "identity" = false := by
  constructor
  · intro refused
    by_cases plain : ∀ coding, request.headers.Leads "transfer-encoding" coding →
        Text.sameIgnoringCase coding "identity" = true
    · rw [bodyLength_of_plain plain] at refused
      rcases bind_eq_error_iff.1 refused with unsized | ⟨length, -, sized⟩
      · exact absurd unsized (agreedLength_ne_unsupportedCoding _ _)
      · cases sized
    · obtain ⟨other, foreign⟩ := Classical.not_forall.1 plain
      obtain ⟨leads, foreign⟩ := Classical.not_imp.1 foreign
      have foreign : Text.sameIgnoringCase other "identity" = false := by simpa using foreign
      have same := (bodyLength_of_foreign leads foreign).symm.trans refused
      obtain rfl : other = coding := by simpa using same
      exact ⟨leads, foreign⟩
  · rintro ⟨leads, foreign⟩
    exact bodyLength_of_foreign leads foreign

/-- The same request without any coding of its body. -/
def withoutCoding (request : Request) : Request :=
  { request with headers := request.headers.erase "transfer-encoding" }

theorem not_leads_withoutCoding :
    ¬ request.withoutCoding.headers.Leads "transfer-encoding" coding := by
  rintro ⟨before, written, after, split, named, -⟩
  have member : (written, coding) ∈ request.withoutCoding.headers.fields := by
    rw [split]
    exact List.mem_append_right _ List.mem_cons_self
  have kept := (List.mem_filter.1 member).2
  simp [Headers.names, named] at kept

/-- A request whose first coding is `identity` has the length that it has without any coding. -/
theorem bodyLength_withoutCoding (leads : request.headers.Leads "transfer-encoding" coding)
    (identity : Text.sameIgnoringCase coding "identity" = true) :
    request.bodyLength = request.withoutCoding.bodyLength := by
  have plain : ∀ other, request.headers.Leads "transfer-encoding" other →
      Text.sameIgnoringCase other "identity" = true := by
    intro other first
    have same := (Headers.get?_eq_some_iff.2 first).symm.trans (Headers.get?_eq_some_iff.2 leads)
    rw [Option.some.inj same]
    exact identity
  have lengths : request.withoutCoding.headers.getAll "content-length" =
      request.headers.getAll "content-length" := Headers.getAll_erase (by decide)
  rw [bodyLength_of_plain plain, ← lengths]
  exact (bodyLength_of_plain fun other first => absurd first not_leads_withoutCoding).symm

end Http.Request

/-- A connection that comes to this window writes one answer to the fault and closes. It takes the
whole window and calls no handler, whatever else is in the window and whatever it served before. -/
def Refuses (config : Config) (window : Bytes) (fault : RequestFault) : Prop :=
  ∀ (app : App) (pending : Pending) (served : Bytes) (host host' : Host app),
    serveWindow config pending served host = (.wait none [], host') →
      let answer := Host.refusal host'.tables (.request fault) true
      (Active.http pending).consume config (served ++ window) host =
          (⟨(served ++ window).length, .http none, .close⟩, host'.write answer) ∧
        host'.channel.Shows (host'.write answer).channel [] [answer]

theorem refuses_of_unframed {config : Config} {window : Bytes} {fault : RequestFault}
    (unframed : Opening.ofWindow config window = .unframed fault) :
    Refuses config window fault := by
  intro app pending served host host' before answer
  have closes : serveWindow config pending (served ++ window) host =
      (.close, host'.write answer) := by
    rw [serveWindow_append, before]
    change serveWindow config none ([] ++ window) host' = _
    rw [List.nil_append, serveWindow_none, unframed]
    rfl
  constructor
  · simp only [Active.consume, closes, Active.ofStop]
  · have answered : Element.Answered config host' (.unreadable fault) answer .close
        (host'.write answer) := .unreadable
    obtain ⟨requests, none, shown⟩ := answered.shows (by intro conversation same; cases same)
    have silent : requests = [] := List.sublist_nil.1 none
    rwa [silent] at shown

/-- A head whose first Transfer-Encoding is not `identity` announces no length, whatever else is in
it, and then only. Such a head is answered with 501, or with 413 if it is too long, and nothing
behind it is read. If the first Transfer-Encoding is `identity`, others behind it are ignored, and
the length is the same as without any. -/
theorem first_coding_decides {config : Config} {window head rest : Bytes} {request : Request}
    (cut : Request.cutHead? window = some (head, rest))
    (parsed : Request.parseHead head config.maxHeaders = .ok request) :
    (∀ coding, request.bodyLength = .error (.unsupportedCoding coding) ↔
        request.headers.Leads "transfer-encoding" coding ∧
          Text.sameIgnoringCase coding "identity" = false) ∧
      ∀ coding, request.headers.Leads "transfer-encoding" coding →
        (Text.sameIgnoringCase coding "identity" = false →
          (Failure.request (.unsupportedCoding coding)).status = 501 ∧
          (head.length ≤ config.maxRequestSize →
            Refuses config window (.unsupportedCoding coding)) ∧
          (config.maxRequestSize < head.length → Refuses config window .tooLarge)) ∧
        (Text.sameIgnoringCase coding "identity" = true →
          request.bodyLength = request.withoutCoding.bodyLength) := by
  refine ⟨fun coding => Request.bodyLength_eq_unsupportedCoding_iff, fun coding leads => ⟨?_, ?_⟩⟩
  · intro foreign
    have fault := Request.bodyLength_of_foreign leads foreign
    refine ⟨rfl, ?_, ?_⟩
    · intro fits
      have small : ¬ config.maxRequestSize < head.length := Nat.not_lt.2 fits
      have opening : Opening.ofWindow config window = .unframed (.unsupportedCoding coding) := by
        unfold Opening.ofWindow
        simp only [cut, if_neg small, parsed, fault]
      exact refuses_of_unframed opening
    · intro exceeds
      have opening : Opening.ofWindow config window = .unframed .tooLarge := by
        unfold Opening.ofWindow
        simp only [cut, if_pos exceeds]
      exact refuses_of_unframed opening
  · intro identity
    exact Request.bodyLength_withoutCoding leads identity

/-- A coding that is not `identity` stands first, behind a length and in another case. -/
theorem chunked_head_refused :
    let head := Text.encode
      "POST / HTTP/1.1\r\nContent-Length: 4\r\nTRANSFER-encoding: chunked\r\n\r\n"
    let rest := Text.encode "GET /b HTTP/1.1\r\n\r\n"
    let config : Config := {}
    Request.cutHead? (head ++ rest) = some (head, rest) ∧
      ∃ request, Request.parseHead head config.maxHeaders = .ok request ∧
        request.headers.Leads "transfer-encoding" "chunked" ∧
        request.bodyLength = .error (.unsupportedCoding "chunked") ∧
        Refuses config (head ++ rest) (.unsupportedCoding "chunked") := by
  intro head rest config
  have cut : Request.cutHead? (head ++ rest) = some (head, rest) := by decide +kernel
  have fields : (Request.parseHead head config.maxHeaders).toOption.map (·.headers.fields) =
      some [("Content-Length", "4"), ("TRANSFER-encoding", "chunked")] := by decide +kernel
  have fits : head.length ≤ config.maxRequestSize := by decide +kernel
  cases parsed : Request.parseHead head config.maxHeaders with
  | error fault =>
    rw [parsed] at fields
    cases fields
  | ok request =>
    rw [parsed] at fields
    have split : request.headers.fields =
        [("Content-Length", "4")] ++ ("TRANSFER-encoding", "chunked") :: [] :=
      Option.some.inj fields
    have leads : request.headers.Leads "transfer-encoding" "chunked" :=
      ⟨_, _, _, split, by decide, by decide⟩
    have foreign : Text.sameIgnoringCase "chunked" "identity" = false := by decide
    have decided := first_coding_decides cut parsed
    have refused := (decided.1 "chunked").2 ⟨leads, foreign⟩
    have answered := ((decided.2 "chunked" leads).1 foreign).2.1 fits
    exact ⟨cut, request, rfl, leads, refused, answered⟩

/-- Behind `identity` stands a coding that is ignored: what follows the head, by that coding a part
of its body, is the next request. -/
theorem later_coding_ignored :
    let first := Text.encode
      "POST / HTTP/1.1\r\nTransfer-Encoding: identity\r\nTransfer-Encoding: chunked\r\n\r\n"
    let second := Text.encode "GET /b HTTP/1.1\r\n\r\n"
    let read (bytes : Bytes) := (Request.parse bytes).toOption.map
      (·.map fun (request, size) =>
        (request.path, request.headers.getAll "transfer-encoding", size))
    ((Request.parseHead first 64).toOption.bind fun request => request.bodyLength.toOption) =
        some 0 ∧
      read (first ++ second) = some (some ("/", ["identity", "chunked"], first.length)) ∧
      read second = some (some ("/b", [], second.length)) := by
  decide +kernel

end WebServer

import WebServer.Proofs.Requests.Codings
import WebServer.Proofs.Requests.Written

/-!
# Requests are read as they were written

A draft is a request as its sender has it. If it is lawful, reading its bytes gives back what is in
it, whatever follows them, and as long as some of them are missing, more are asked for
(`rendering_parsed`). The parts of a head are read in `Written`; here is what they mean, how long
the body is and where it ends.
-/
namespace WebServer

section

variable {ε α β : Type} {l : List α}

theorem mapM_eq_ok {f : α → Except ε β} {g : α → β} (all : ∀ x ∈ l, f x = .ok (g x)) :
    l.mapM f = .ok (l.map g) := by
  induction l with
  | nil => rfl
  | cons x l ih =>
    obtain ⟨first, others⟩ := List.forall_mem_cons.1 all
    rw [List.mapM_cons, first, ih others]
    rfl

theorem exists_mapM_eq_ok {f : α → Except ε β} (all : ∀ x ∈ l, ∃ y, f x = .ok y) :
    ∃ values, l.mapM f = .ok values := by
  induction l with
  | nil => exact ⟨[], rfl⟩
  | cons x l ih =>
    obtain ⟨⟨y, first⟩, others⟩ := List.forall_mem_cons.1 all
    obtain ⟨values, rest⟩ := ih others
    exact ⟨y :: values, by rw [List.mapM_cons, first, rest]; rfl⟩

theorem exists_foldlM_eq_ok {f : β → α → Except ε β} (all : ∀ x ∈ l, ∀ y, ∃ z, f y x = .ok z)
    (y : β) : ∃ z, l.foldlM f y = .ok z := by
  induction l generalizing y with
  | nil => exact ⟨y, rfl⟩
  | cons x l ih =>
    obtain ⟨first, others⟩ := List.forall_mem_cons.1 all
    obtain ⟨z, step⟩ := first y
    obtain ⟨last, rest⟩ := ih others z
    exact ⟨last, by rw [List.foldlM_cons, step]; exact rest⟩

end

namespace Text

/-- A decimal numeral, with or without a plus sign. -/
def States (numeral : String) (n : Nat) : Prop :=
  ∃ digits, decimal? digits = some n ∧
    (numeral.toList = digits ∨ numeral.toList = '+' :: digits)

/-- Digits do not begin with a sign. -/
theorem head?_of_decimal? {digits : List Char} {n : Nat} (h : decimal? digits = some n) :
    digits.head? ≠ some '+' := by
  intro sign
  obtain ⟨rest, rfl⟩ := List.head?_eq_some_iff.1 sign
  simp [decimal?, decimal?.step] at h

theorem unsigned?_of_states {numeral : String} {n greatest : Nat} (h : States numeral n)
    (fits : n ≤ greatest) : unsigned? greatest numeral.toList = some n := by
  obtain ⟨digits, value, plain | signed⟩ := h
  · have noSign := head?_of_decimal? value
    unfold unsigned?
    rw [plain]
    split
    · exact absurd rfl noSign
    · simp [value, fits]
  · simp [signed, unsigned?, value, fits]

theorem Legible.exists_unescape {plusIsSpace : Bool} {raw : List Char}
    (h : Legible plusIsSpace raw) :
    ∃ text, unescape (String.ofList raw) plusIsSpace = .ok text := by
  obtain ⟨text, stands⟩ := h
  exact ⟨text, unescape_eq_ok_iff.2 stands⟩

end Text

namespace Http

theorem Method.name_ofName (name : String) : (Method.ofName name).name = name := by
  unfold Method.ofName
  split <;> rfl

/-- A media type whose top level is `multipart`. -/
def IsMultipart (contentType : String) : Prop :=
  Text.sameIgnoringCase (String.ofList (contentType.toList.take 10)) "multipart/" = true

instance (contentType : String) : Decidable (IsMultipart contentType) :=
  inferInstanceAs (Decidable (_ = _))

theorem headD_splitOn_prefix (mark : Char) (text : List Char) :
    (text.splitOn mark).headD [] <+: text := by
  have whole : [mark].intercalate (text.splitOn mark) = text := List.intercalate_splitOn mark
  generalize text.splitOn mark = pieces at whole ⊢
  rcases pieces with _ | ⟨piece, _ | ⟨next, pieces⟩⟩
  · exact List.nil_prefix
  · rw [List.intercalate_singleton] at whole
    exact ⟨[], (List.append_nil _).trans whole⟩
  · rw [List.intercalate_cons_cons, List.append_assoc] at whole
    exact ⟨_, whole⟩

/-- Only a multipart type has a boundary. -/
theorem Multipart.boundary?_eq_none {contentType : String}
    (trimmed : Text.Trimmed Text.isBlank contentType.toList) (other : ¬ IsMultipart contentType) :
    boundary? contentType = none := by
  have first := headD_splitOn_prefix ';' contentType.toList
  have begins : ∀ c, ((contentType.toList.splitOn ';').headD []).head? = some c →
      Text.isBlank c = false := by
    intro c head
    obtain ⟨more, whole⟩ := first
    refine trimmed.first c ?_
    rw [← whole, List.head?_append, head]
    rfl
  have within : Text.trim ((contentType.toList.splitOn ';').headD []) <+: contentType.toList :=
    (Text.trimBy_prefix begins).trans first
  unfold boundary?
  refine if_neg fun same => other ?_
  have long : 10 ≤ (Text.trim ((contentType.toList.splitOn ';').headD [])).length := by
    have lengths := congrArg List.length (beq_iff_eq.1 same)
    simp only [String.toList_ofList, List.length_map, List.length_take] at lengths
    have ten : "multipart/".toList.length = 10 := by decide
    omega
  obtain ⟨more, whole⟩ := within
  unfold IsMultipart
  rw [← whole, List.take_append_of_le_length long]
  exact same

namespace Cookies

/-- A piece of a cookie header that makes a pair has a name and a value that stand for texts. -/
def Readable (piece : List Char) : Prop :=
  '=' ∈ piece → Text.trim (Text.upTo '=' piece) ≠ [] →
    Text.Legible false (Text.trim (Text.upTo '=' piece)) ∧
      Text.Legible false (Text.trimBy (· == '"') (Text.trim (Text.behind '=' piece)))

instance (piece : List Char) : Decidable (Readable piece) :=
  inferInstanceAs (Decidable (_ → _ → _))

theorem exists_addPair {piece : List Char} (readable : Readable piece) (c : Cookies) :
    ∃ more, c.addPair piece = .ok more := by
  unfold addPair
  by_cases mark : '=' ∈ piece
  · rw [Text.cutOnce?_of_mem mark]
    simp only
    split
    · exact ⟨c, rfl⟩
    · rename_i named
      obtain ⟨name, value⟩ := readable mark (by simpa using named)
      obtain ⟨name, readsName⟩ := name.exists_unescape
      obtain ⟨value, readsValue⟩ := value.exists_unescape
      exact ⟨c.insert name value,
        bind_eq_ok_iff.2 ⟨name, readsName, bind_eq_ok_iff.2 ⟨value, readsValue, rfl⟩⟩⟩
  · rw [Text.cutOnce?_eq_none mark]
    exact ⟨c, rfl⟩

theorem exists_ofFields {values : List String}
    (readable : ∀ value ∈ values,
      ∀ piece ∈ value.toList.splitOnP (fun c => c == ';' || c == ','), Readable piece) :
    ∃ cookies, ofFields values = .ok cookies := by
  refine exists_foldlM_eq_ok (fun piece member => ?_) _
  obtain ⟨value, among, within⟩ := List.mem_flatMap.1 member
  exact exists_addPair (readable value among piece within)

end Cookies

namespace Arguments

/-- The name and the value of a pair of a query stand for texts. -/
def Readable (pair : List Char) : Prop :=
  Text.Legible true (Text.upTo '=' pair) ∧ Text.Legible true (Text.behind '=' pair)

instance (pair : List Char) : Decidable (Readable pair) := inferInstanceAs (Decidable (_ ∧ _))

theorem exists_readPair {pair : List Char} (readable : Readable pair) :
    ∃ argument, readPair pair = .ok argument := by
  obtain ⟨name, readsName⟩ := readable.1.exists_unescape
  obtain ⟨value, readsValue⟩ := readable.2.exists_unescape
  unfold readPair
  rw [Text.cutOnce?_getD]
  exact ⟨(name, value),
    bind_eq_ok_iff.2 ⟨name, readsName, bind_eq_ok_iff.2 ⟨value, readsValue, rfl⟩⟩⟩

theorem exists_ofQuery {query : String}
    (readable : ∀ pair ∈ query.toList.splitOn '&', Readable pair) :
    ∃ args, ofQuery query = .ok args := by
  obtain ⟨pairs, reads⟩ := exists_mapM_eq_ok
    (l := (query.toList.splitOn '&').filter (!·.isEmpty)) (f := readPair)
    fun pair member => exists_readPair (readable pair (List.mem_of_mem_filter member))
  exact ⟨⟨pairs⟩, bind_eq_ok_iff.2 ⟨pairs, reads, rfl⟩⟩

end Arguments

namespace Request

/-- Fields are read back from a head as they were written. -/
theorem readHeaders_written {fields : List (String × String)}
    (lawful : ∀ field ∈ fields, Head.LawfulField field) :
    readHeaders (fields.map fun field => (field.1, Text.encode field.2)) = .ok ⟨fields⟩ := by
  have read : ∀ field ∈ fields.map fun field => (field.1, Text.encode field.2),
      (do
        let name ← Text.unescape field.1 false
        return (name, String.ofList (Text.trim (Text.decodeLossy field.2).toList))) =
        Except.ok (field.1, Text.decodeLossy field.2) := by
    intro field member
    obtain ⟨field, among, rfl⟩ := List.mem_map.1 member
    have trimmed : Text.trim field.2.toList = field.2.toList :=
      (lawful field among).trimmed.trimBy_eq
    have name : Text.unescape field.1 false = .ok field.1 :=
      Text.unescape_eq_ok_iff.2 (Text.standsFor_self (lawful field among).percent)
    simp only [name, Text.decodeLossy_encode, trimmed, String.ofList_toList]
    rfl
  refine bind_eq_ok_iff.2 ⟨fields, (mapM_eq_ok read).trans ?_, rfl⟩
  rw [List.map_map]
  simp [Function.comp_def, Text.decodeLossy_encode]

/-- The part of a target before its query. -/
def rawPath (target : String) : List Char := Text.upTo '?' target.toList

/-- What stands behind the first question mark of a target, if there is one. -/
def rawQuery (target : String) : Option String :=
  if '?' ∈ target.toList then some (String.ofList (Text.behind '?' target.toList)) else none

theorem isTarget_rawPath {target : String} (origin : target.toList.head? = some '/') :
    isTarget (rawPath target) = true := by
  obtain ⟨rest, chars⟩ := List.head?_eq_some_iff.1 origin
  simp [isTarget, rawPath, chars, Text.upTo]

/-- What a head means, as its parts tell. -/
theorem ofHead_eq_ok {head : Head} {path : String} {headers : Headers} {args : Arguments}
    {cookies : Cookies} (target : isTarget (rawPath head.target) = true)
    (unescaped : Text.unescape (String.ofList (rawPath head.target)) false = .ok path)
    (fields : readHeaders head.fields = .ok headers)
    (pairs : ((rawQuery head.target).map Arguments.ofQuery).getD (.ok {}) = .ok args)
    (crumbs : Cookies.ofFields (headers.getAll "cookie") = .ok cookies) :
    ofHead head = .ok {
      method := .ofName head.method, url := head.target, path, query := rawQuery head.target
      version := head.version, headers, args, cookies } := by
  unfold rawPath at target unescaped
  unfold rawQuery at pairs ⊢
  unfold ofHead
  by_cases mark : '?' ∈ head.target.toList
  case' pos =>
    rw [if_pos mark] at pairs ⊢
    rw [Text.cutOnce?_of_mem mark]
  case' neg =>
    rw [if_neg mark] at pairs ⊢
    rw [(Text.upTo_of_not_mem mark).1] at target unescaped
    rw [Text.cutOnce?_eq_none mark]
  -- With a query and without one, the same steps are made.
  all_goals
    exact (if_neg (by simp [target])).trans <|
      bind_eq_ok_iff.2 ⟨path, mapError_eq_ok_iff.2 unescaped,
      bind_eq_ok_iff.2 ⟨headers, mapError_eq_ok_iff.2 fields,
      bind_eq_ok_iff.2 ⟨args, mapError_eq_ok_iff.2 pairs,
      bind_eq_ok_iff.2 ⟨cookies, mapError_eq_ok_iff.2 crumbs, rfl⟩⟩⟩⟩

/-- A request without any coding is as long as it states, once, or empty. -/
theorem bodyLength_of_stated {request : Request} {length : Nat}
    (uncoded : request.headers.getAll "transfer-encoding" = [])
    (fits : length ≤ greatestLength)
    (stated : (length = 0 ∧ request.headers.getAll "content-length" = []) ∨
      ∃ value, request.headers.getAll "content-length" = [value] ∧ Text.States value length) :
    request.bodyLength = .ok length := by
  rw [bodyLength_of_uncoded uncoded]
  obtain ⟨rfl, none⟩ | ⟨value, one, states⟩ := stated
  · rw [none]
    rfl
  · have agreed : agreedLength none [value] = .ok (some length) := by
      rw [agreedLength]
      simp only [Text.unsigned?_of_states states fits]
      rfl
    rw [one, agreed]
    rfl

/-- Without a boundary a body is left as it is. -/
theorem attachBody_of_plain {request : Request} (body : Bytes)
    (plain : ∀ value ∈ request.headers.getAll "content-type", Multipart.boundary? value = none) :
    request.attachBody body = .ok { request with body } := by
  have none : (request.headers.get? "content-type").bind Multipart.boundary? = none := by
    cases first : request.headers.get? "content-type" with
    | none => rfl
    | some value =>
      rw [Option.bind_some]
      exact plain value (Headers.get?_eq_some_iff.1 first).mem_getAll
  unfold attachBody
  rw [none]
  rfl

/-- A request that takes up all of some bytes is not found in fewer of them, and nothing else. -/
theorem parse_prefix_eq_none {bytes part : Bytes} {request : Request}
    (whole : parse bytes = .ok (some (request, bytes.length))) (begins : part <+: bytes)
    (fewer : part ≠ bytes) : parse part = .ok none := by
  obtain ⟨more, rfl⟩ := begins
  obtain ⟨head, body, rest, announced, framed, -, size, within⟩ := parse_eq_some_iff.1 whole
  cases cut : cutHead? part with
  | none =>
    unfold parse
    rw [cut]
  | some found =>
    obtain ⟨head', rest'⟩ := found
    have same := (cutHead?_append cut more).symm.trans framed.cut
    obtain ⟨rfl, behind⟩ := Prod.mk.inj (Option.some.inj same)
    have short : rest'.length < body.length := by
      have missing : 0 < more.length := by
        rw [List.length_pos_iff]
        rintro rfl
        exact fewer (List.append_nil _).symm
      have all := append_of_cutHead? cut
      have lengths := congrArg List.length all
      simp only [List.length_append] at lengths size
      omega
    have unsplit : Bytes.splitExactly? body.length rest' = none := by
      rw [← Option.not_isSome_iff_eq_none, Bytes.splitExactly?_isSome]
      omega
    unfold parse
    rw [cut]
    refine bind_eq_ok_iff.2 ⟨announced, framed.parsed, bind_eq_ok_iff.2 ⟨_, framed.sized, ?_⟩⟩
    simp only
    rw [if_neg (Nat.not_lt.2 (size ▸ within)), unsplit]
    rfl

end Request

/-- A request to be sent. -/
structure Draft where
  method : String
  target : String
  version : Version
  fields : List (String × String) := []
  body : Bytes := []

namespace Draft

/-- The request line, a line for each field, and an empty line. -/
def head (d : Draft) : Bytes :=
  ((Head.requestLine d.method d.target d.version :: d.fields.map writeField).flatMap fun line =>
    line ++ crlf) ++ crlf

def render (d : Draft) : Bytes := d.head ++ d.body

/-- The values of the fields of that name. -/
def values (d : Draft) (name : String) : List String :=
  (d.fields.filter (Headers.names name)).map (·.2)

/-- A draft that can be told from its bytes. Its target is an absolute path, maybe with a query, its
fields keep to their lines, and the body is as long as the only Content-Length says. -/
structure Lawful (d : Draft) : Prop where
  method : Head.IsToken d.method
  target : Head.IsVisible d.target
  origin : d.target.toList.head? = some '/'
  path : Text.Legible false (Request.rawPath d.target)
  query : ∀ query, Request.rawQuery d.target = some query →
    ∀ pair ∈ query.toList.splitOn '&', Arguments.Readable pair
  room : d.fields.length ≤ Request.defaultFieldLimit
  fields : ∀ field ∈ d.fields, Head.LawfulField field
  coding : d.values "transfer-encoding" = []
  multipart : ∀ value ∈ d.values "content-type", ¬ IsMultipart value
  cookies : ∀ value ∈ d.values "cookie",
    ∀ piece ∈ value.toList.splitOnP (fun c => c == ';' || c == ','), Cookies.Readable piece
  length : (d.body = [] ∧ d.values "content-length" = []) ∨
    ∃ value, d.values "content-length" = [value] ∧ Text.States value d.body.length
  fits : d.render.length ≤ Request.greatestLength

/-- The request says what is in the draft. -/
structure Conveys (d : Draft) (r : Request) : Prop where
  method : r.method = .ofName d.method ∧ r.method.name = d.method
  url : r.url = d.target
  path : Text.StandsFor false (String.ofList (Request.rawPath d.target)) r.path
  query : r.query = Request.rawQuery d.target
  version : r.version = d.version
  fields : r.headers.fields = d.fields
  args : (r.query.map Arguments.ofQuery).getD (.ok {}) = .ok r.args
  cookies : Cookies.ofFields (d.values "cookie") = .ok r.cookies
  parts : r.parts = []
  body : r.body = d.body

namespace Lawful

variable {d : Draft}

/-- The head ends where it is to end, whatever stands in the body and behind it. -/
theorem cutHead?_render (h : d.Lawful) (rest : Bytes) :
    Request.cutHead? (d.render ++ rest) = some (d.head, d.body ++ rest) := by
  have twice : crlfcrlf = crlf ++ crlf := rfl
  have lines : d.head = joinLines (Head.requestLine d.method d.target d.version)
      (d.fields.map writeField) ++ crlfcrlf := by
    rw [twice, ← List.append_assoc, joinLines_append_crlf]
    rfl
  have line := Head.no_cr_requestLine h.method h.target d.version
  have fields : ∀ line ∈ d.fields.map writeField, line ≠ [] ∧ (13 : UInt8) ∉ line :=
    List.forall_mem_map.2 fun field member => (h.fields field member).line
  have found := cut?_joinLines line fields (d.body ++ rest)
  rw [Request.cutHead?, render, lines, List.append_assoc, List.append_assoc, found]
  rfl

theorem exists_parseHead (h : d.Lawful) :
    ∃ r, Request.parseHead d.head Request.defaultFieldLimit = .ok r ∧
      d.Conveys { r with body := d.body } := by
  let head : Head := {
    method := d.method, target := d.target, version := d.version
    fields := d.fields.map fun field => (field.1, Text.encode field.2) }
  have read : Head.read Request.defaultFieldLimit d.head = .ok (head, []) := by
    have read := Head.reads_head h.method h.target d.version h.fields h.room []
    rwa [List.append_nil] at read
  obtain ⟨path, unescaped⟩ := h.path.exists_unescape
  have fields : Request.readHeaders head.fields = .ok ⟨d.fields⟩ :=
    Request.readHeaders_written h.fields
  obtain ⟨args, pairs⟩ : ∃ args,
      ((Request.rawQuery d.target).map Arguments.ofQuery).getD (.ok {}) = .ok args := by
    cases raw : Request.rawQuery d.target with
    | none => exact ⟨{}, rfl⟩
    | some query => exact Arguments.exists_ofQuery (h.query query raw)
  obtain ⟨cookies, crumbs⟩ := Cookies.exists_ofFields h.cookies
  have target : Request.isTarget (Request.rawPath head.target) = true :=
    Request.isTarget_rawPath h.origin
  have meaning := @Request.ofHead_eq_ok head _ _ _ _ target unescaped fields pairs crumbs
  refine ⟨_, bind_eq_ok_iff.2 ⟨(head, []), mapError_eq_ok_iff.2 read, meaning⟩, ?_⟩
  exact {
    method := ⟨rfl, Method.name_ofName _⟩
    url := rfl
    path := Text.unescape_eq_ok_iff.1 unescaped
    query := rfl
    version := rfl
    fields := rfl
    args := pairs
    cookies := crumbs
    parts := rfl
    body := rfl }

end Lawful

end Draft

/-- A lawful draft is read as it was written, whatever follows its bytes, and takes up all of them.
If some of them are missing, nothing is read and nothing is rejected. -/
theorem rendering_parsed {d : Draft} (lawful : d.Lawful) :
    (∃ r, d.Conveys r ∧
      ∀ rest, Request.parse (d.render ++ rest) = .ok (some (r, d.render.length))) ∧
    ∀ part, part <+: d.render → part ≠ d.render → Request.parse part = .ok none := by
  obtain ⟨announced, parsed, conveys⟩ := lawful.exists_parseHead
  have values (name : String) : announced.headers.getAll name = d.values name := by
    rw [Headers.getAll, conveys.fields]
    rfl
  have sized : announced.bodyLength = .ok d.body.length := by
    have short : d.body.length ≤ d.render.length := (List.suffix_append _ _).length_le
    refine Request.bodyLength_of_stated ((values _).trans lawful.coding)
      (short.trans lawful.fits) ?_
    rw [values, List.length_eq_zero_iff]
    exact lawful.length
  have added : announced.attachBody d.body = .ok { announced with body := d.body } := by
    refine Request.attachBody_of_plain _ fun value member => ?_
    rw [values] at member
    obtain ⟨field, among, rfl⟩ := List.mem_map.1 member
    exact Multipart.boundary?_eq_none (lawful.fields field (List.mem_of_mem_filter among)).trimmed
      (lawful.multipart _ member)
  have reads (rest : Bytes) : Request.parse (d.render ++ rest) =
      .ok (some ({ announced with body := d.body }, d.render.length)) :=
    Request.parse_eq_some_iff.2 ⟨d.head, d.body, rest, announced,
      ⟨lawful.cutHead?_render rest, parsed, sized⟩, added, List.length_append, lawful.fits⟩
  refine ⟨⟨_, conveys, reads⟩, fun part begins fewer => ?_⟩
  have whole := reads []
  rw [List.append_nil] at whole
  exact Request.parse_prefix_eq_none whole begins fewer

/-- A path and a query with escapes, a cookie, a value beyond ASCII, and a body that looks like the
end of a head. -/
theorem post_parsed :
    let d : Draft := {
      method := "POST", target := "/a%20b?q=c%2B%2B&x+y=1", version := .http11
      fields := [("Host", "example.com"), ("Cookie", "id=%41; seen"), ("X-Note", "gr\u00fc\u00df"),
        ("content-length", "05")]
      body := [13, 10, 13, 10, 71] }
    d.Lawful ∧
      (∃ r, d.Conveys r ∧ r.path = "/a b" ∧ r.args.pairs = [("q", "c++"), ("x y", "1")] ∧
        ∀ rest, Request.parse (d.render ++ rest) = .ok (some (r, d.render.length))) ∧
      ∀ part, part <+: d.render → part ≠ d.render → Request.parse part = .ok none := by
  intro d
  have lawful : d.Lawful := {
    method := by decide +kernel
    target := by decide +kernel
    origin := by decide
    path := by decide +kernel
    query := by
      show ∀ query ∈ Request.rawQuery d.target,
        ∀ pair ∈ query.toList.splitOn '&', Arguments.Readable pair
      decide +kernel
    room := by decide
    fields := by decide +kernel
    coding := by decide
    multipart := by decide +kernel
    cookies := by decide +kernel
    length := .inr ⟨"05", by decide +kernel, "05".toList, by decide +kernel, .inl rfl⟩
    fits := by decide +kernel }
  obtain ⟨⟨r, conveys, reads⟩, partly⟩ := rendering_parsed lawful
  refine ⟨lawful, ⟨r, conveys, ?_, ?_, reads⟩, partly⟩
  · have path : (Text.unescape (String.ofList (Request.rawPath d.target)) false).toOption =
        some "/a b" := by decide +kernel
    rw [Text.unescape_eq_ok_iff.2 conveys.path] at path
    exact Option.some.inj path
  · have args : (((Request.rawQuery d.target).map Arguments.ofQuery).getD (.ok {})).toOption.map
        (·.pairs) = some [("q", "c++"), ("x y", "1")] := by decide +kernel
    rw [← conveys.query, conveys.args] at args
    exact Option.some.inj args

end Http
end WebServer

import WebServer.Http.Response
import WebServer.Proofs.Stream.Lines
import WebServer.Proofs.Text.Utf8

/-!
# Responses tell where they end

A reader of responses knows nothing but the bytes. It takes the head up to the first CRLFCRLF, and
behind it as many bytes as the head says. Responses that are written one behind another are found
again in this way, each with its status line, its fields and its body (`responses_delimited`),
whatever lengths were set by hand and whatever the bodies look like.
-/
namespace WebServer

namespace Text

/-- The value of digits is what they are read as. -/
theorem foldlM_step {digits : List Char} (all : ∀ c ∈ digits, c.isDigit = true) (n : Nat) :
    digits.foldlM decimal?.step n = some (Nat.ofDigitChars 10 digits n) := by
  induction digits generalizing n with
  | nil => rfl
  | cons c digits ih =>
    have step : decimal?.step n c = some (10 * n + (c.toNat - 48)) := by
      rw [decimal?.step, if_pos (all c List.mem_cons_self)]
    rw [List.foldlM_cons, step]
    exact ih (fun c member => all c (List.mem_cons_of_mem _ member)) _

theorem isDigit_of_mem_toString {n : Nat} {c : Char} (member : c ∈ (toString n).toList) :
    c.isDigit = true := by
  rw [Nat.toString_eq_repr, Nat.toList_repr] at member
  exact Nat.isDigit_of_mem_toDigits (by decide) (by decide) member

theorem not_mem_toString {c : Char} (other : c.isDigit = false) (n : Nat) :
    c ∉ (toString n).toList := by
  intro member
  rw [isDigit_of_mem_toString member] at other
  cases other

/-- A number is read back from its digits. -/
theorem decimal?_toString (n : Nat) : decimal? (toString n).toList = some n := by
  have all : ∀ c ∈ (toString n).toList, c.isDigit = true := fun _ => isDigit_of_mem_toString
  rw [Nat.toString_eq_repr, Nat.toList_repr] at all ⊢
  have some : (Nat.toDigits 10 n).isEmpty = false := by simp [Nat.toDigits_ne_nil]
  rw [decimal?, some, foldlM_step all, Nat.ofDigitChars_ten_toDigits]
  rfl

end Text

namespace Http

/-- A response as its reader finds it. -/
structure Piece where
  version : String
  status : Nat
  reason : String
  fields : List (String × String)
  body : Bytes
  deriving DecidableEq, Repr

namespace Piece

/-- The lines that CRLF separates. -/
def splitLines (text : Bytes) : List Bytes :=
  match _h : Bytes.cut? crlf text with
  | none => [text]
  | some (line, rest) => line :: splitLines rest
termination_by text.length
decreasing_by
  have := Bytes.cut?_length _h
  simp only [crlf, List.length_cons] at this
  omega

/-- The version, the status and the reason, with a space between them. -/
def readStatusLine (line : Bytes) : Option (String × Nat × String) := do
  let (version, rest) ← Bytes.cut? [Bytes.space] line
  let (status, reason) ← Bytes.cut? [Bytes.space] rest
  let status ← Text.decimal? (← Text.decode? status).toList
  return (← Text.decode? version, status, ← Text.decode? reason)

/-- A name, a colon and a space, and a value. -/
def readField (line : Bytes) : Option (String × String) := do
  let (name, value) ← Bytes.cut? [Bytes.colon, Bytes.space] line
  return (← Text.decode? name, ← Text.decode? value)

/-- The length that the head states, if it states one. -/
def statedLength? (fields : List (String × String)) : Option Nat :=
  match Headers.getAll ⟨fields⟩ "content-length" with
  | [length] => Text.decimal? length.toList
  | _ => none

/-- The response at the beginning of some bytes, and the bytes behind it. The head goes through the
first CRLFCRLF, and the body has as many bytes as the head says. -/
def read? (bytes : Bytes) : Option (Piece × Bytes) := do
  let (head, rest) ← Bytes.cut? crlfcrlf bytes
  let (version, status, reason) ← readStatusLine ((splitLines head).headD [])
  let fields ← (splitLines head).tail.mapM readField
  let (body, rest) ← Bytes.splitExactly? (← statedLength? fields) rest
  return (⟨version, status, reason, fields, body⟩, rest)

theorem length_lt_of_read? {bytes rest : Bytes} {piece : Piece}
    (h : read? bytes = some (piece, rest)) : rest.length < bytes.length := by
  simp only [read?, Option.bind_eq_bind, Option.bind_eq_some_iff] at h
  obtain ⟨⟨head, behind⟩, cut, _, -, _, -, _, -, ⟨body, left⟩, split, same⟩ := h
  obtain rfl : left = rest := (Prod.mk.inj (Option.some.inj same)).2
  have whole : head.length + 4 + behind.length = bytes.length := Bytes.cut?_length cut
  have parts : body.length + left.length = behind.length := (Bytes.splitExactly?_length split).2
  omega

/-- All responses that stand one behind another; `none` if something else stands among them. -/
def readAll? (bytes : Bytes) : Option (List Piece) :=
  match bytes with
  | [] => some []
  | b :: bs =>
    match _h : read? (b :: bs) with
    | none => none
    | some (piece, rest) => (readAll? rest).map (piece :: ·)
termination_by bytes.length
decreasing_by exact length_lt_of_read? _h

theorem readAll?_cons {bytes rest : Bytes} {piece : Piece} (h : read? bytes = some (piece, rest)) :
    readAll? bytes = (readAll? rest).map (piece :: ·) := by
  cases bytes with
  | nil => exact absurd (length_lt_of_read? h) (Nat.not_lt_zero _)
  | cons b bs =>
    rw [readAll?]
    split
    · rename_i none
      rw [none] at h
      cases h
    · rename_i found
      obtain ⟨rfl, rfl⟩ := Prod.mk.inj (Option.some.inj (found.symm.trans h))
      rfl

theorem splitLines_joinLines {first : Bytes} {lines : List Bytes} (inside : (13 : UInt8) ∉ first)
    (all : ∀ line ∈ lines, (13 : UInt8) ∉ line) :
    splitLines (joinLines first lines) = first :: lines := by
  induction lines generalizing first with
  | nil =>
    have none : Bytes.cut? crlf first = none := Bytes.cut?_eq_none inside [10]
    rw [joinLines, List.flatMap_nil, List.append_nil, splitLines, none]
  | cons line lines ih =>
    obtain ⟨within, others⟩ := List.forall_mem_cons.1 all
    have cut : Bytes.cut? crlf (first ++ (crlf ++ joinLines line lines)) =
        some (first, joinLines line lines) := Bytes.cut?_first inside [10] _
    rw [joinLines_cons, splitLines, cut]
    exact congrArg (first :: ·) (ih within others)

end Piece

/-- A text without line ends. -/
def OneLine (text : String) : Prop := '\r' ∉ text.toList ∧ '\n' ∉ text.toList

theorem OneLine.no_cr {text : String} (h : OneLine text) : (13 : UInt8) ∉ Text.encode text :=
  Text.not_mem_encode (by decide) h.1

theorem Piece.readField_writeField {field : String × String} (plain : ':' ∉ field.1.toList) :
    Piece.readField (writeField field) = some field := by
  have noColon : (58 : UInt8) ∉ Text.encode field.1 := Text.not_mem_encode (by decide) plain
  have cut : Bytes.cut? [Bytes.colon, Bytes.space] (writeField field) =
      some (Text.encode field.1, Text.encode field.2) :=
    Bytes.cut?_first noColon [32] (Text.encode field.2)
  simp [Piece.readField, cut, Text.decode?_encode]

/-- A field that keeps to its line, with no colon but the one behind its name. -/
structure PlainField (field : String × String) : Prop where
  name : OneLine field.1
  colon : ':' ∉ field.1.toList
  value : OneLine field.2

theorem PlainField.line {field : String × String} (h : PlainField field) :
    writeField field ≠ [] ∧ (13 : UInt8) ∉ writeField field := by
  have mark : Text.encode ": " = [58, 32] := by decide
  simp [writeField, mark, h.name.no_cr, h.value.no_cr]

theorem Piece.mapM_readField {fields : List (String × String)}
    (plain : ∀ field ∈ fields, PlainField field) :
    (fields.map writeField).mapM readField = some fields := by
  induction fields with
  | nil => rfl
  | cons field fields ih =>
    obtain ⟨first, others⟩ := List.forall_mem_cons.1 plain
    rw [List.map_cons, List.mapM_cons, readField_writeField first.colon, ih others]
    rfl

namespace Response

/-- A final response that keeps to its lines: what stands in the head has no line ends, the version
no spaces and the names no colons. -/
structure Plain (r : Response) : Prop where
  final : r.status < 100 ∨ 199 < r.status
  version : OneLine r.version ∧ ' ' ∉ r.version.toList
  reason : ∀ reason, r.reason = some reason → OneLine reason
  fields : ∀ field ∈ r.headers.fields, PlainField field

/-- The fields that were set, but for those that state a length. -/
def otherFields (r : Response) : List (String × String) :=
  r.headers.fields.filter fun field => !Headers.names "content-length" field

/-- The content type of a body for which none was set. -/
def defaultType (r : Response) : List (String × String) :=
  if r.body ≠ [] ∧ ∀ field ∈ r.headers.fields, Headers.names "content-type" field = false then
    [("Content-Type", "text/plain; charset=utf-8")]
  else []

/-- What a reader is to find of a response. -/
def piece (r : Response) : Piece where
  version := r.version
  status := r.status
  reason := r.reasonPhrase
  fields := r.otherFields ++ r.defaultType ++ [("Content-Length", toString r.body.length)]
  body := r.body

/-- Of the phrases in the table each is a single line. -/
theorem oneLine_of_reasonPhrase? {status : Nat} {phrase : String}
    (h : reasonPhrase? status = some phrase) : OneLine phrase := by
  unfold reasonPhrase? at h
  split at h
  all_goals cases h
  all_goals exact ⟨by decide, by decide⟩

namespace Plain

variable {r : Response}

theorem reasonPhrase (plain : r.Plain) : OneLine r.reasonPhrase := by
  unfold Response.reasonPhrase
  cases own : r.reason with
  | some reason => exact plain.reason reason own
  | none =>
    cases known : reasonPhrase? r.status with
    | some phrase => exact oneLine_of_reasonPhrase? known
    | none => exact ⟨by decide, by decide⟩

end Plain

theorem fields_writtenHeaders (r : Response) :
    r.writtenHeaders.fields = r.otherFields ++ r.defaultType := by
  have typed : (!r.body.isEmpty && !r.headers.contains "content-type") = true ↔
      r.body ≠ [] ∧ ∀ field ∈ r.headers.fields, Headers.names "content-type" field = false := by
    simp [Headers.contains]
  unfold writtenHeaders defaultType otherFields
  by_cases set : (!r.body.isEmpty && !r.headers.contains "content-type") = true
  · rw [if_pos set, if_pos (typed.1 set)]
    simp only [Headers.erase, Headers.insert, List.filter_append]
    rfl
  · rw [if_neg set, if_neg (fun same => set (typed.2 same)), List.append_nil]
    rfl

/-- No field that is written before the last one states a length. -/
theorem names_otherFields {r : Response} {field : String × String}
    (member : field ∈ r.otherFields ++ r.defaultType) :
    Headers.names "content-length" field = false := by
  rcases List.mem_append.1 member with other | default
  · simpa using (List.mem_filter.1 other).2
  · unfold defaultType at default
    split at default
    · rw [List.mem_singleton.1 default]
      decide
    · cases default

theorem statedLength?_piece (r : Response) :
    Piece.statedLength? r.piece.fields = some r.body.length := by
  have none : (r.otherFields ++ r.defaultType).filter (Headers.names "content-length") = [] :=
    List.filter_eq_nil_iff.2 fun field member => by simp [names_otherFields member]
  have last : Headers.names "content-length" ("Content-Length", toString r.body.length) = true := by
    change Text.sameIgnoringCase "Content-Length" "content-length" = true
    decide
  have all : Headers.getAll ⟨r.piece.fields⟩ "content-length" = [toString r.body.length] := by
    simp only [Headers.getAll, piece]
    rw [List.filter_append, none, List.nil_append, List.filter_cons_of_pos last]
    rfl
  rw [Piece.statedLength?, all]
  exact Text.decimal?_toString _

/-- The status line without its end. -/
def statusText (r : Response) : Bytes :=
  Text.encode r.version ++ (Text.encode " " ++ (Text.encode (toString r.status) ++
    (Text.encode " " ++ Text.encode r.reasonPhrase)))

theorem encode_fieldLine (field : String × String) :
    Text.encode (fieldLine field) = writeField field ++ crlf := by
  have mark : Text.encode "\r\n" = crlf := by decide
  simp only [fieldLine, writeField, toString, Text.encode_append, mark, List.append_assoc]

theorem encode_join_fieldLine (fields : List (String × String)) :
    Text.encode (String.join (fields.map fieldLine)) =
      (fields.map writeField).flatMap fun line => line ++ crlf := by
  induction fields with
  | nil => decide
  | cons field fields ih =>
    rw [List.map_cons, String.join_cons, Text.encode_append, encode_fieldLine, ih]
    rfl

theorem encode_statusLine (r : Response) : Text.encode r.statusLine = r.statusText ++ crlf := by
  have mark : Text.encode "\r\n" = crlf := by decide
  simp only [statusLine, statusText, toString, Text.encode_append, mark, List.append_assoc]

namespace Plain

variable {r : Response}

theorem lengthLine_eq (plain : r.Plain) :
    r.lengthLine = fieldLine ("Content-Length", toString r.body.length) := by
  have final : isInformational r.status = false := by
    have := plain.final
    simp only [isInformational, Bool.and_eq_false_iff, decide_eq_false_iff_not]
    omega
  rw [lengthLine, final]
  rfl

/-- The head of a final response is made of lines. -/
theorem encode_head (plain : r.Plain) :
    Text.encode r.head = joinLines r.statusText (r.piece.fields.map writeField) ++ crlfcrlf := by
  have mark : Text.encode "\r\n" = crlf := by decide
  have twice : crlfcrlf = crlf ++ crlf := rfl
  rw [head, plain.lengthLine_eq, Text.encode_append, Text.encode_append, Text.encode_append,
    encode_statusLine, encode_join_fieldLine, encode_fieldLine, mark, fields_writtenHeaders, twice,
    ← List.append_assoc _ crlf crlf, joinLines_append_crlf]
  simp [piece]

/-- Nothing in the status line ends it early. -/
theorem readStatusLine_eq (plain : r.Plain) :
    Piece.readStatusLine r.statusText = some (r.version, r.status, r.reasonPhrase) := by
  have space : Text.encode " " = [Bytes.space] := by decide
  have noSpace : (32 : UInt8) ∉ Text.encode r.version :=
    Text.not_mem_encode (by decide) plain.version.2
  have digits : (32 : UInt8) ∉ Text.encode (toString r.status) :=
    Text.not_mem_encode (by decide) (Text.not_mem_toString rfl _)
  have first : Bytes.cut? [Bytes.space] r.statusText = some (Text.encode r.version,
      Text.encode (toString r.status) ++ (Text.encode " " ++ Text.encode r.reasonPhrase)) :=
    Bytes.cut?_first noSpace [] _
  have second : Bytes.cut? [Bytes.space] (Text.encode (toString r.status) ++
      (Text.encode " " ++ Text.encode r.reasonPhrase)) =
        some (Text.encode (toString r.status), Text.encode r.reasonPhrase) :=
    Bytes.cut?_first digits [] _
  simp only [Piece.readStatusLine, first, second, Option.bind_eq_bind, Option.bind_some,
    Text.decode?_encode, Text.decimal?_toString]
  rfl

theorem fields_piece (plain : r.Plain) : ∀ field ∈ r.piece.fields, PlainField field := by
  intro field member
  rcases List.mem_append.1 member with written | last
  · rcases List.mem_append.1 written with other | default
    · exact plain.fields field (List.mem_of_mem_filter other)
    · unfold defaultType at default
      split at default
      · rw [List.mem_singleton.1 default]
        exact ⟨⟨by decide, by decide⟩, by decide, ⟨by decide, by decide⟩⟩
      · cases default
  · rw [List.mem_singleton.1 last]
    have name : OneLine "Content-Length" ∧ ':' ∉ "Content-Length".toList :=
      ⟨⟨by decide, by decide⟩, by decide⟩
    exact ⟨name.1, name.2, ⟨Text.not_mem_toString rfl _, Text.not_mem_toString rfl _⟩⟩

theorem statusText_no_cr (plain : r.Plain) : (13 : UInt8) ∉ r.statusText := by
  have space : Text.encode " " = [Bytes.space] := by decide
  have digits : (13 : UInt8) ∉ Text.encode (toString r.status) :=
    Text.not_mem_encode (by decide) (Text.not_mem_toString rfl _)
  have phrase := plain.reasonPhrase.no_cr
  simp only [statusText, space, List.mem_append, not_or]
  exact ⟨plain.version.1.no_cr, by decide, digits, by decide, phrase⟩

/-- A response is found at the beginning of its bytes, whatever follows them. -/
theorem read?_toBytes (plain : r.Plain) (rest : Bytes) :
    Piece.read? (r.toBytes ++ rest) = some (r.piece, rest) := by
  have fields := plain.fields_piece
  have lines : ∀ line ∈ r.piece.fields.map writeField, line ≠ [] ∧ (13 : UInt8) ∉ line := by
    intro line member
    obtain ⟨field, among, rfl⟩ := List.mem_map.1 member
    exact (fields field among).line
  have cut : Bytes.cut? crlfcrlf (r.toBytes ++ rest) =
      some (joinLines r.statusText (r.piece.fields.map writeField), r.body ++ rest) := by
    rw [toBytes, plain.encode_head, List.append_assoc, List.append_assoc]
    exact cut?_joinLines plain.statusText_no_cr lines _
  have split := Piece.splitLines_joinLines plain.statusText_no_cr fun line member =>
    (lines line member).2
  have body : Bytes.splitExactly? r.body.length (r.body ++ rest) = some (r.body, rest) :=
    Bytes.splitExactly?_eq_some_iff.2 ⟨rfl, rfl⟩
  simp only [Piece.read?, cut, split, Option.bind_eq_bind, Option.bind_some, List.headD_cons,
    List.tail_cons, plain.readStatusLine_eq, Piece.mapM_readField fields, statedLength?_piece, body]
  rfl

end Plain

end Response

/-- Responses that are written one behind another are found again, each with its status line, its
fields and its body. Whatever lengths were set by hand, the only one that is written is that of the
body, behind all other fields. -/
theorem responses_delimited {responses : List Response} (plain : ∀ r ∈ responses, r.Plain) :
    Piece.readAll? (responses.flatMap Response.toBytes) = some (responses.map Response.piece) ∧
      ∀ r ∈ responses, ∀ field ∈ r.otherFields ++ r.defaultType,
        Headers.names "content-length" field = false := by
  refine ⟨?_, fun r _ field member => Response.names_otherFields member⟩
  induction responses with
  | nil => rw [List.flatMap_nil, Piece.readAll?, List.map_nil]
  | cons r responses ih =>
    obtain ⟨first, others⟩ := List.forall_mem_cons.1 plain
    rw [List.flatMap_cons, Piece.readAll?_cons (first.read?_toBytes _), ih others]
    rfl

/-- A body that looks like a response, behind a length that somebody set, and an empty body behind
a reason of its own. -/
theorem imitated_head_delimited :
    let first : Response :=
      { status := 200, headers := ⟨[("CONTENT-length", "3"), ("Server", "a: b")]⟩
        body := Text.encode "x\r\n\r\nHTTP/1.1 204 No Content\r\n\r\n" }
    let second : Response := { status := 299, version := "HTTP/1.0", reason := some "So it is" }
    Piece.readAll? ([first, second].flatMap Response.toBytes) =
      some [⟨"HTTP/1.1", 200, "OK", [("Server", "a: b"),
          ("Content-Type", "text/plain; charset=utf-8"), ("Content-Length", "32")], first.body⟩,
        ⟨"HTTP/1.0", 299, "So it is", [("Content-Length", "0")], []⟩] := by
  intro first second
  have fields : ∀ field ∈ first.headers.fields, PlainField field := by
    rintro field (_ | ⟨_, _ | ⟨_, ⟨⟩⟩⟩)
    · exact ⟨⟨by decide, by decide⟩, by decide, ⟨by decide, by decide⟩⟩
    · exact ⟨⟨by decide, by decide⟩, by decide, ⟨by decide, by decide⟩⟩
  have plain : ∀ r ∈ [first, second], r.Plain := by
    rintro r (_ | ⟨_, _ | ⟨_, ⟨⟩⟩⟩)
    · exact ⟨.inr (by decide), ⟨⟨by decide, by decide⟩, by decide⟩, nofun, fields⟩
    · refine ⟨.inr (by decide), ⟨⟨by decide, by decide⟩, by decide⟩, ?_, nofun⟩
      rintro _ ⟨⟩
      exact ⟨by decide, by decide⟩
  exact (responses_delimited plain).1.trans (by decide +kernel)

end Http
end WebServer

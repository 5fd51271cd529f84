import Mathlib.Data.List.Infix
import WebServer.Proofs.Requests.Parameters
import WebServer.Proofs.Requests.Positions

/-!
# The grammar of a multipart body

`write` renders parts to a body, and parts that can be written are read back from it, whatever their
contents are (`read_write`). Apart from such bodies just those are read that parts tile. All others
are answered with status 400, and no reading accesses what is not there
(`reads_exactly_grammar`).
-/
namespace WebServer.Http.Multipart

/-- A part as it stands behind a delimiter, with the next delimiter at its end. -/
def writePart (delimiter : Bytes) (entry : String × Part) : Bytes :=
  crlf ++ (crlf.intercalate (entry.2.headers.fields.map writeField) ++
    (crlfcrlf ++ (entry.2.content ++ (crlf ++ delimiter))))

/-- A body of parts, with a text behind its end. -/
def write (boundary : String) (parts : List (String × Part)) (epilogue : Bytes) : Bytes :=
  let delimiter := Text.encode ("--" ++ boundary)
  delimiter ++ (parts.flatMap (writePart delimiter) ++ ([45, 45] ++ epilogue))

/-- A part that can be written with this boundary: its fields are lines, the first disposition among
them gives its name, and its content does not look like the end of a part. -/
structure Writable (boundary : String) (entry : String × Part) : Prop where
  fields : ∀ field ∈ entry.2.headers.fields, PartField field
  disposition : entry.2.headers.get? "content-disposition" =
    some (withParameters "form-data" [("name", entry.1)])
  name : ';' ∉ entry.1.toList ∧ '"' ∉ entry.1.toList
  content : ¬ (crlf ++ Text.encode ("--" ++ boundary)) <:+: entry.2.content

instance (boundary : String) (entry : String × Part) : Decidable (Writable boundary entry) :=
  decidable_of_iff ((∀ field ∈ entry.2.headers.fields, PartField field) ∧
      entry.2.headers.get? "content-disposition" =
        some (withParameters "form-data" [("name", entry.1)]) ∧
      (';' ∉ entry.1.toList ∧ '"' ∉ entry.1.toList) ∧
      ¬ (crlf ++ Text.encode ("--" ++ boundary)) <:+: entry.2.content)
    ⟨fun h => ⟨h.1, h.2.1, h.2.2.1, h.2.2.2⟩,
      fun h => ⟨h.fields, h.disposition, h.name, h.content⟩⟩

section Written

variable {boundary : String} {entry : String × Part} {parts : List (String × Part)}

theorem intercalate_crlf (first : Bytes) (lines : List Bytes) :
    crlf.intercalate (first :: lines) = joinLines first lines := by
  induction lines generalizing first with
  | nil => simp [joinLines]
  | cons line lines ih =>
    rw [List.intercalate_cons_cons, ih, joinLines_cons, List.append_assoc]

theorem Writable.fields_ne_nil (writable : Writable boundary entry) :
    entry.2.headers.fields ≠ [] := by
  intro empty
  have disposition := writable.disposition
  rw [Headers.get?, empty] at disposition
  cases disposition

/-- The first CRLFCRLF is behind the fields, and they are the header block. -/
theorem Writable.head (writable : Writable boundary entry) (rest : Bytes) :
    let block := crlf.intercalate (entry.2.headers.fields.map writeField)
    Bytes.First crlfcrlf (block ++ (crlfcrlf ++ rest)) block rest ∧
      HeaderBlock block entry.2.headers := by
  obtain ⟨name, ⟨fields⟩, content⟩ := entry
  obtain ⟨field, others, rfl⟩ := List.exists_cons_of_ne_nil writable.fields_ne_nil
  have plain := writable.fields
  have lines : ∀ line ∈ others.map writeField, line ≠ [] ∧ (13 : UInt8) ∉ line := by
    intro line member
    obtain ⟨f, among, rfl⟩ := List.mem_map.1 member
    exact (plain f (List.mem_cons_of_mem _ among)).line
  rw [List.map_cons, intercalate_crlf]
  exact ⟨Bytes.cut?_eq_some_iff.1
      (cut?_joinLines (plain field List.mem_cons_self).line.2 lines rest),
    headerBlock_joinLines plain⟩

theorem Writable.named (writable : Writable boundary entry) :
    (entry.2.headers.get? "content-disposition").bind (parameter? · "name") = some entry.1 := by
  have token : Head.IsToken "name" := by decide
  have same : Text.sameIgnoringCase "name" "name" = true := by decide
  have written : ∀ p ∈ [("name", entry.1)], Quotable p :=
    List.forall_mem_singleton.2 ⟨token, writable.name.2⟩
  have plain : ∀ p ∈ [("name", entry.1)], ';' ∉ p.2.toList :=
    List.forall_mem_singleton.2 writable.name.1
  have first : [("name", entry.1)].find? (Headers.names "name") = some ("name", entry.1) :=
    List.find?_cons_of_pos same
  rw [writable.disposition, Option.bind_some,
    parameter?_of_plain (by decide) written plain, valueOf?, first, Option.map_some]

/-- A part that was written stands there. -/
theorem Writable.partOn (writable : Writable boundary entry) (noCr : '\r' ∉ boundary.toList)
    (behind : Bytes) :
    let delimiter := Text.encode ("--" ++ boundary)
    PartOn (crlf ++ delimiter) (writePart delimiter entry ++ behind) entry behind := by
  intro delimiter
  have once : (13 : UInt8) ∉ 10 :: delimiter := by
    have within : (13 : UInt8) ∉ delimiter :=
      Text.not_mem_encode (by decide) (by simpa using noCr)
    simpa using within
  have ends : Bytes.First (crlf ++ delimiter) (entry.2.content ++ (crlf ++ delimiter ++ behind))
      entry.2.content behind := Bytes.first_of_not_infix once writable.content behind
  obtain ⟨head, held⟩ := writable.head (entry.2.content ++ (crlf ++ delimiter ++ behind))
  have whole : writePart delimiter entry ++ behind =
      crlf ++ (crlf.intercalate (entry.2.headers.fields.map writeField) ++
        (crlfcrlf ++ (entry.2.content ++ (crlf ++ delimiter ++ behind)))) := by
    simp only [writePart, List.append_assoc]
  rw [whole]
  exact .of head held ends writable.named

theorem tiles_of_writable (noCr : '\r' ∉ boundary.toList)
    (writable : ∀ entry ∈ parts, Writable boundary entry) (epilogue : Bytes) :
    let delimiter := Text.encode ("--" ++ boundary)
    Tiles (crlf ++ delimiter) (parts.flatMap (writePart delimiter) ++ ([45, 45] ++ epilogue))
      parts := by
  intro delimiter
  induction parts with
  | nil => exact .closed epilogue
  | cons entry parts ih =>
    obtain ⟨first, others⟩ := List.forall_mem_cons.1 writable
    rw [List.flatMap_cons, List.append_assoc]
    exact .part (first.partOn noCr _) (ih others)

/-- Parts that can be written are read back. -/
theorem read_write (noCr : '\r' ∉ boundary.toList)
    (writable : ∀ entry ∈ parts, Writable boundary entry) (epilogue : Bytes) :
    read (write boundary parts epilogue) boundary = .ok parts :=
  read_eq_ok_iff.2 ⟨[], _, Bytes.cut?_eq_some_iff.1 (Bytes.cut?_here _ _),
    tiles_of_writable noCr writable epilogue⟩

end Written

/-- Parts that can be written with a boundary are read back from their body. Of any body just those
parts are read that tile it, without an access out of its range, and if none do, then the answer
has status 400. -/
theorem reads_exactly_grammar (boundary : String) :
    ('\r' ∉ boundary.toList → ∀ parts, (∀ entry ∈ parts, Writable boundary entry) →
      ∀ epilogue, read (write boundary parts epilogue) boundary = .ok parts) ∧
    ∀ body, readAt? body boundary = some (read body boundary) ∧
      ((∃ parts, read body boundary = .ok parts ∧ Tiled boundary body parts) ∨
        ∃ fault, read body boundary = .error fault ∧ (RequestFault.multipart fault).status = 400 ∧
          ∀ parts, ¬ Tiled boundary body parts) := by
  refine ⟨fun noCr parts writable => read_write noCr writable, fun body => ?_⟩
  refine ⟨readAt?_eq body boundary, ?_⟩
  cases result : read body boundary with
  | ok parts => exact .inl ⟨parts, rfl, read_eq_ok_iff.1 result⟩
  | error fault =>
    refine .inr ⟨fault, rfl, rfl, fun parts tiled => ?_⟩
    cases result.symm.trans (read_eq_ok_iff.2 tiled)

/-- One content is empty, the other begins with the delimiter, holds an empty line and ends with the
beginning of a separator. -/
theorem delimiter_in_content_read_back :
    let first : Part := ⟨⟨[("Content-Disposition", "form-data; name=\"a b\"")]⟩, []⟩
    let second : Part := ⟨⟨[("X-Kind", ""), ("content-disposition", "form-data; name=\"\"")]⟩,
      Text.encode "--b-\r\n\r\nx\r\n--"⟩
    read (write "b-" [("a b", first), ("", second)] (Text.encode "\r\n--b-")) "b-" =
      .ok [("a b", first), ("", second)] := by
  intro first second
  have writable : ∀ entry ∈ [("a b", first), ("", second)], Writable "b-" entry := by
    decide +kernel
  exact (reads_exactly_grammar "b-").1 (by decide) _ writable _

end WebServer.Http.Multipart

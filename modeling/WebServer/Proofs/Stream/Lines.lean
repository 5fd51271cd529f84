import WebServer.Proofs.Stream.Prefixes
import WebServer.Text.Utf8

/-!
# Lines that end in CRLF

The head of a message is a list of lines. As long as there is no CR within them, and none of them is
empty, the first CRLFCRLF is where the lines end.
-/
namespace WebServer

namespace Bytes

theorem cut?_here (mark rest : Bytes) : cut? mark (mark ++ rest) = some ([], rest) := by
  have found : mark.isPrefixOf (mark ++ rest) = true :=
    List.isPrefixOf_iff_prefix.2 (List.prefix_append _ _)
  unfold cut? cut?.go
  rw [if_pos found, List.drop_left]
  rfl

/-- A mark is not found before its first byte is. -/
theorem cut?_behind {m : UInt8} {a : Bytes} (none : m ∉ a) (mark text : Bytes) :
    cut? (m :: mark) (a ++ text) =
      (cut? (m :: mark) text).map fun found => (a ++ found.1, found.2) := by
  induction a with
  | nil => simp
  | cons x a ih =>
    have other : ¬ (m :: mark).isPrefixOf (x :: (a ++ text)) = true := by
      intro starts
      obtain ⟨rfl, -⟩ := List.cons_prefix_cons.1 (List.isPrefixOf_iff_prefix.1 starts)
      exact none List.mem_cons_self
    rw [List.cons_append, cut?_cons, if_neg other, ih fun member => none (.tail _ member),
      Option.map_map]
    rfl

/-- A cut is made at the first mark. -/
theorem cut?_first {m : UInt8} {a : Bytes} (none : m ∉ a) (mark rest : Bytes) :
    cut? (m :: mark) (a ++ (m :: mark ++ rest)) = some (a, rest) := by
  rw [cut?_behind none, cut?_here, Option.map_some, List.append_nil]

/-- Without its first byte there is no mark. -/
theorem cut?_eq_none {m : UInt8} {a : Bytes} (none : m ∉ a) (mark : Bytes) :
    cut? (m :: mark) a = .none := by
  rw [← List.append_nil a, cut?_behind none, cut?_nil]
  rfl

end Bytes

namespace Http

/-- A field as it stands in a line. -/
def writeField (field : String × String) : Bytes :=
  Text.encode field.1 ++ (Text.encode ": " ++ Text.encode field.2)

/-- Lines one behind another, with CRLF between them. -/
def joinLines (first : Bytes) (lines : List Bytes) : Bytes :=
  first ++ lines.flatMap fun line => crlf ++ line

theorem joinLines_cons (first line : Bytes) (lines : List Bytes) :
    joinLines first (line :: lines) = first ++ (crlf ++ joinLines line lines) := by
  simp [joinLines]

/-- Lines of which each has its own end. -/
theorem joinLines_append_crlf (first : Bytes) (lines : List Bytes) :
    joinLines first lines ++ crlf = (first :: lines).flatMap fun line => line ++ crlf := by
  induction lines generalizing first with
  | nil => simp [joinLines]
  | cons line lines ih =>
    rw [joinLines_cons, List.append_assoc, List.append_assoc, ih line, ← List.append_assoc]
    rfl

/-- The first CRLFCRLF is behind the last line. -/
theorem cut?_joinLines {first : Bytes} {lines : List Bytes} (inside : (13 : UInt8) ∉ first)
    (all : ∀ line ∈ lines, line ≠ [] ∧ (13 : UInt8) ∉ line) (rest : Bytes) :
    Bytes.cut? crlfcrlf (joinLines first lines ++ (crlfcrlf ++ rest)) =
      some (joinLines first lines, rest) := by
  induction lines generalizing first with
  | nil =>
    rw [joinLines, List.flatMap_nil, List.append_nil]
    exact Bytes.cut?_first inside [10, 13, 10] rest
  | cons line lines ih =>
    obtain ⟨⟨some, within⟩, others⟩ := List.forall_mem_cons.1 all
    have found := ih within others
    obtain ⟨b, more, rfl⟩ := List.exists_cons_of_ne_nil some
    have notCr : b ≠ 13 := by
      rintro rfl
      exact within List.mem_cons_self
    -- The line between keeps the marks apart.
    let text := joinLines more lines ++ (crlfcrlf ++ rest)
    have behindCr : ¬ crlfcrlf.isPrefixOf (13 :: 10 :: b :: text) = true := by
      simp [crlfcrlf, List.isPrefixOf, Ne.symm notCr]
    have behindLf : ¬ crlfcrlf.isPrefixOf (10 :: b :: text) = true := by
      simp [crlfcrlf, List.isPrefixOf]
    have step : Bytes.cut? crlfcrlf (13 :: 10 :: b :: text) =
        Option.some (crlf ++ joinLines (b :: more) lines, rest) := by
      rw [Bytes.cut?_cons, if_neg behindCr, Bytes.cut?_cons, if_neg behindLf]
      exact congrArg (Option.map _) (congrArg (Option.map _) found)
    rw [joinLines_cons, List.append_assoc]
    exact (Bytes.cut?_behind inside [10, 13, 10] _).trans (congrArg (Option.map _) step)

end Http
end WebServer

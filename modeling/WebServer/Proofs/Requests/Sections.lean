import Mathlib.Data.List.Basic
import Mathlib.Data.List.TakeDrop
import Mathlib.Data.List.TakeWhile
import WebServer.Proofs.Requests.Elements

/-!
# Sections of a head

Where a head ends is decided twice. A window is cut behind its first CRLFCRLF. What is cut off is
then read line by line, up to the first empty line behind the request line, and there LF alone ends
a line as well. So reading may stop before the cut, and what lies between is lost: `head_section`
says when. If every line ends in CRLF, nothing is.
-/
namespace WebServer

namespace Http.Head

/-- An empty line ends in CRLF or in LF alone. -/
def EmptyLine (line : Bytes) : Prop := line = [10] ∨ line = [13, 10]

/-- Text within a line. -/
def Inline (text : Bytes) : Prop := (10 : UInt8) ∉ text ∧ (13 : UInt8) ∉ text

/-- A line with text before its end. -/
def FullLine (line : Bytes) : Prop :=
  ∃ text stop, text ≠ [] ∧ Inline text ∧ EmptyLine stop ∧ line = text ++ stop

/-- What one head takes up: empty lines that are skipped, at least one full line, and the empty line
that ends it. -/
inductive Section : Bytes → Prop where
  | of {blank lines : List Bytes} {first last : Bytes} (skipped : ∀ line ∈ blank, EmptyLine line)
    (begins : FullLine first) (fields : ∀ line ∈ lines, FullLine line) (ends : EmptyLine last) :
    Section (blank.flatten ++ (first ++ (lines.flatten ++ last)))

/-- Every line ends in CRLF. -/
def CrlfOnly (bytes : Bytes) : Prop :=
  ∀ before after, bytes = before ++ 10 :: after → ∃ text, before = text ++ [13]

/-- These bytes are read as that value, whatever follows them. -/
def Reads {α : Type} (reader : Bytes → Except HeadFault (α × Bytes)) (taken : Bytes) (value : α) :
    Prop :=
  ∀ other, reader (taken ++ other) = .ok (value, other)

/-- A reader takes what it reads from within a line, and does not look behind it. -/
def ReadsInline {α : Type} (reader : Bytes → Except HeadFault (α × Bytes)) : Prop :=
  ∀ bytes value rest, reader bytes = .ok (value, rest) →
    ∃ taken, taken ≠ [] ∧ Inline taken ∧ bytes = taken ++ rest ∧ Reads reader taken value

section

variable {α : Type} {p : α → Bool} {l a b : List α} {x : α}

theorem append_of_span (h : l.span p = (a, b)) : l = a ++ b ∧ ∀ x ∈ a, p x = true := by
  rw [List.span_eq_takeWhile_dropWhile] at h
  obtain ⟨rfl, rfl⟩ := Prod.mk.inj h
  exact ⟨List.takeWhile_append_dropWhile.symm, fun x member => List.mem_takeWhile_imp member⟩

theorem span_append (all : ∀ x ∈ a, p x = true) (stops : p x = false) :
    (a ++ x :: b).span p = (a, x :: b) := by
  rw [List.span_eq_takeWhile_dropWhile, List.takeWhile_append_of_pos all,
    List.dropWhile_append_of_pos all, List.takeWhile_cons_of_neg (by simp [stops]),
    List.dropWhile_cons_of_neg (by simp [stops]), List.append_nil]

end

theorem Inline.append {a b : Bytes} (ha : Inline a) (hb : Inline b) : Inline (a ++ b) := by
  constructor
  · intro member
    exact (List.mem_append.1 member).elim ha.1 hb.1
  · intro member
    exact (List.mem_append.1 member).elim ha.2 hb.2

theorem Inline.head_ne {b : UInt8} {text : Bytes} (h : Inline (b :: text)) : b ≠ 10 ∧ b ≠ 13 := by
  constructor
  · rintro rfl
    exact h.1 List.mem_cons_self
  · rintro rfl
    exact h.2 List.mem_cons_self

theorem inline_of_class {p : UInt8 → Bool} {text : Bytes} (all : ∀ b ∈ text, p b = true)
    (lf : p 10 = false) (cr : p 13 = false) : Inline text := by
  constructor
  · intro member
    rw [all 10 member] at lf
    cases lf
  · intro member
    rw [all 13 member] at cr
    cases cr

/-- An empty line begins with a byte that stands in no text. -/
theorem EmptyLine.cons {line : Bytes} (h : EmptyLine line) :
    ∃ first more, line = first :: more ∧ (first = 10 ∨ first = 13) := by
  rcases h with rfl | rfl
  · exact ⟨10, [], rfl, .inl rfl⟩
  · exact ⟨13, [10], rfl, .inr rfl⟩

theorem lineEnd_eq_ok_iff {fault : HeadFault} {bytes rest : Bytes} :
    lineEnd fault bytes = .ok rest ↔ ∃ stop, EmptyLine stop ∧ bytes = stop ++ rest := by
  constructor
  · intro h
    unfold lineEnd at h
    split at h
    · obtain rfl := Except.ok.inj h
      exact ⟨[13, 10], .inr rfl, rfl⟩
    · obtain rfl := Except.ok.inj h
      exact ⟨[10], .inl rfl, rfl⟩
    · cases h
    · cases h
    · cases h
  · rintro ⟨stop, rfl | rfl, rfl⟩ <;> rfl

/-- Skipping takes empty lines and nothing else. -/
theorem append_of_skipEmptyLines {bytes rest : Bytes} (h : skipEmptyLines bytes = .ok rest) :
    ∃ blank : List Bytes, (∀ line ∈ blank, EmptyLine line) ∧ bytes = blank.flatten ++ rest := by
  have step {line more : Bytes} (empty : EmptyLine line)
      (ih : ∃ blank : List Bytes, (∀ line ∈ blank, EmptyLine line) ∧ more = blank.flatten ++ rest) :
      ∃ blank : List Bytes, (∀ line ∈ blank, EmptyLine line) ∧
        line ++ more = blank.flatten ++ rest := by
    obtain ⟨blank, all, rfl⟩ := ih
    refine ⟨line :: blank, ?_, ?_⟩
    · intro other member
      rcases List.mem_cons.1 member with rfl | member
      · exact empty
      · exact all other member
    · rw [List.flatten_cons, List.append_assoc]
  induction bytes using skipEmptyLines.induct with
  | case1 more ih => exact step (.inr rfl) (ih (by simpa [skipEmptyLines] using h))
  | case2 more ih => exact step (.inl rfl) (ih (by simpa [skipEmptyLines] using h))
  | case3 | case4 => cases h
  | case5 => simp [skipEmptyLines] at h
  | case6 bytes =>
    have same : bytes = rest := by simpa [skipEmptyLines] using h
    exact ⟨[], nofun, same⟩

/-- Empty lines are skipped up to a byte that begins none. -/
theorem skipEmptyLines_append {blank : List Bytes} (all : ∀ line ∈ blank, EmptyLine line)
    {b : UInt8} (lf : b ≠ 10) (cr : b ≠ 13) (more : Bytes) :
    skipEmptyLines (blank.flatten ++ b :: more) = .ok (b :: more) := by
  induction blank with
  | nil => simp [skipEmptyLines, lf, cr]
  | cons line blank ih =>
    have rest := ih fun line member => all line (List.mem_cons_of_mem _ member)
    rw [List.flatten_cons, List.append_assoc]
    rcases all line List.mem_cons_self with rfl | rfl
    · simpa [skipEmptyLines] using rest
    · simpa [skipEmptyLines] using rest

/-- A word is a run of its bytes with a space behind it. -/
theorem append_of_word {p : UInt8 → Bool} {bytes text rest : Bytes}
    (h : word p bytes = .ok (text, rest)) :
    text ≠ [] ∧ (∀ b ∈ text, p b = true) ∧ bytes = text ++ 32 :: rest := by
  unfold word at h
  split at h
  · cases h
  · cases h
  · rename_i _ _ _ empty split
    obtain ⟨rfl, rfl⟩ := Prod.mk.inj (Except.ok.inj h)
    obtain ⟨whole, all⟩ := append_of_span split
    exact ⟨empty, all, whole⟩
  · cases h

theorem reads_word {p : UInt8 → Bool} (space : p 32 = false) {text : Bytes} (some : text ≠ [])
    (all : ∀ b ∈ text, p b = true) : Reads (word p) (text ++ [32]) text := by
  intro other
  unfold word
  rw [List.append_assoc, List.singleton_append, span_append all space]
  cases text with
  | nil => exact absurd rfl some
  | cons b text => rfl

theorem readsInline_word {p : UInt8 → Bool} (space : p 32 = false) (lf : p 10 = false)
    (cr : p 13 = false) : ReadsInline (word p) := by
  intro bytes text rest h
  obtain ⟨some, all, rfl⟩ := append_of_word h
  have inline : Inline (text ++ [32]) := (inline_of_class all lf cr).append (by simp [Inline])
  exact ⟨text ++ [32], by simp, inline, by simp, reads_word space some all⟩

theorem readsInline_readMethod : ReadsInline readMethod := by
  intro bytes method rest h
  obtain ⟨⟨token, behind⟩, found, made⟩ := bind_eq_ok_iff.1 h
  obtain ⟨rfl, rfl⟩ := Prod.mk.inj (Except.ok.inj made)
  obtain ⟨taken, some, inline, whole, reads⟩ :=
    readsInline_word (by decide) (by decide) (by decide) _ _ _ found
  exact ⟨taken, some, inline, whole, fun other => bind_eq_ok_iff.2 ⟨_, reads other, rfl⟩⟩

theorem readsInline_readTarget : ReadsInline readTarget := by
  intro bytes target rest h
  obtain ⟨⟨text, behind⟩, found, made⟩ := bind_eq_ok_iff.1 h
  obtain ⟨taken, some, inline, whole, reads⟩ :=
    readsInline_word (by decide) (by decide) (by decide) _ _ _ found
  simp only at made
  split at made
  · cases made
  · rename_i decoded
    obtain ⟨rfl, rfl⟩ := Prod.mk.inj (Except.ok.inj made)
    refine ⟨taken, some, inline, whole, fun other => bind_eq_ok_iff.2 ⟨_, reads other, ?_⟩⟩
    simp only [decoded]

theorem readsInline_readVersion : ReadsInline readVersion := by
  intro bytes version rest h
  unfold readVersion at h
  split at h
  · rename_i name behind split
    obtain ⟨length, rfl⟩ := Bytes.splitExactly?_eq_some_iff.1 split
    have again (other : Bytes) : Bytes.splitExactly? 8 (name ++ other) = some (name, other) :=
      Bytes.splitExactly?_eq_some_iff.2 ⟨length, rfl⟩
    have reads : Reads readVersion name version ∧ behind = rest ∧
        ∃ version : Version, name = Text.encode version.name := by
      split at h
      · rename_i known
        obtain ⟨rfl, rfl⟩ := Prod.mk.inj (Except.ok.inj h)
        refine ⟨fun other => ?_, rfl, .http10, known⟩
        simp only [readVersion, again, if_pos known]
      · rename_i other10
        split at h
        · rename_i known
          obtain ⟨rfl, rfl⟩ := Prod.mk.inj (Except.ok.inj h)
          refine ⟨fun other => ?_, rfl, .http11, known⟩
          simp only [readVersion, again, if_neg other10, if_pos known]
        · cases h
    obtain ⟨reads, rfl, version, rfl⟩ := reads
    have inline : Inline (Text.encode version.name) := by
      cases version <;> exact ⟨by decide, by decide⟩
    refine ⟨_, ?_, inline, rfl, reads⟩
    rintro empty
    rw [empty] at length
    cases length
  · split at h <;> cases h

theorem readsInline_readFieldName : ReadsInline readFieldName := by
  intro bytes name rest h
  unfold readFieldName at h
  split at h
  · cases h
  · cases h
  · rename_i token behind some split
    obtain ⟨rfl, rfl⟩ := Prod.mk.inj (Except.ok.inj h)
    obtain ⟨rfl, all⟩ := append_of_span split
    have inline : Inline (token ++ [58]) :=
      (inline_of_class all (by decide) (by decide)).append (by simp [Inline])
    refine ⟨token ++ [58], by simp, inline, by simp, fun other => ?_⟩
    unfold readFieldName
    rw [List.append_assoc, List.singleton_append, span_append all (by decide)]
    cases token with
    | nil => exact absurd rfl some
    | cons b token => rfl
  · cases h

/-- A field value takes the rest of its line. -/
theorem append_of_readFieldValue {bytes value rest : Bytes}
    (h : readFieldValue bytes = .ok (value, rest)) :
    ∃ text stop, Inline text ∧ EmptyLine stop ∧ bytes = text ++ (stop ++ rest) ∧
      Reads readFieldValue (text ++ stop) value := by
  obtain ⟨⟨inner, tail⟩, spanned⟩ : ∃ parts, (bytes.dropWhile isPadding).span isValueByte = parts :=
    ⟨_, rfl⟩
  unfold readFieldValue at h
  rw [spanned] at h
  obtain ⟨behind, ended, made⟩ := bind_eq_ok_iff.1 h
  obtain ⟨rfl, rfl⟩ := Prod.mk.inj (Except.ok.inj made)
  obtain ⟨stop, empty, rfl⟩ := lineEnd_eq_ok_iff.1 ended
  obtain ⟨c, more, rfl, control⟩ := empty.cons
  obtain ⟨unpadded, all⟩ := append_of_span spanned
  have padding : ∀ b ∈ bytes.takeWhile isPadding, isPadding b = true :=
    fun b member => List.mem_takeWhile_imp member
  -- What follows the padding begins with none, so the same padding is taken away again.
  have starts (other : Bytes) :
      (inner ++ (c :: more ++ other)).dropWhile isPadding = inner ++ (c :: more ++ other) := by
    cases inner with
    | nil =>
      have noPadding : isPadding c = false := by
        rcases control with rfl | rfl <;> decide
      exact List.dropWhile_cons_of_neg (by simp [noPadding])
    | cons b inner =>
      have some : bytes.dropWhile isPadding ≠ [] := by simp [unpadded]
      have noPadding := List.head_dropWhile_not isPadding some
      simp only [unpadded, List.cons_append, List.head_cons] at noPadding
      exact List.dropWhile_cons_of_neg (by simp [noPadding])
  have noValue : isValueByte c = false := by
    rcases control with rfl | rfl <;> decide
  refine ⟨bytes.takeWhile isPadding ++ inner, c :: more, ?_, empty, ?_, fun other => ?_⟩
  · exact (inline_of_class padding (by decide) (by decide)).append
      (inline_of_class all (by decide) (by decide))
  · rw [List.append_assoc, ← unpadded, List.takeWhile_append_dropWhile]
  · have again : ((bytes.takeWhile isPadding ++ inner ++ c :: more ++ other).dropWhile
        isPadding).span isValueByte = (inner, c :: more ++ other) := by
      rw [List.append_assoc, List.append_assoc, List.dropWhile_append_of_pos padding, starts other,
        List.cons_append, span_append all noValue]
    unfold readFieldValue
    rw [again]
    exact bind_eq_ok_iff.2 ⟨other, lineEnd_eq_ok_iff.2 ⟨c :: more, empty, rfl⟩, rfl⟩

/-- A field is read where the bytes begin with text. -/
theorem readFields_cons {b : UInt8} (lf : b ≠ 10) (cr : b ≠ 13) (limit room : Nat)
    (done : List (String × Bytes)) (bytes : Bytes) :
    readFields limit room done (b :: bytes) = (do
      let (name, rest) ← readFieldName (b :: bytes)
      let (value, rest) ← readFieldValue rest
      match room with
      | 0 => .error (.tooManyFields limit)
      | room + 1 => readFields limit room ((name, value) :: done) rest) := by
  cases room <;> simp [readFields, lf, cr]

/-- Reading fields ends at an empty line, or a field is read and there is room for it. -/
theorem readFields_cases {limit room : Nat} {done fields : List (String × Bytes)}
    {bytes left : Bytes} (h : readFields limit room done bytes = .ok (fields, left)) :
    (∃ last, EmptyLine last ∧ bytes = last ++ left ∧ fields = done.reverse) ∨
      ∃ name value rest behind fewer, readFieldName bytes = .ok (name, rest) ∧
        readFieldValue rest = .ok (value, behind) ∧ room = fewer + 1 ∧
        readFields limit fewer ((name, value) :: done) behind = .ok (fields, left) := by
  unfold readFields at h
  split at h
  · obtain ⟨rfl, rfl⟩ := Prod.mk.inj (Except.ok.inj h)
    exact .inl ⟨[13, 10], .inr rfl, rfl, rfl⟩
  · obtain ⟨rfl, rfl⟩ := Prod.mk.inj (Except.ok.inj h)
    exact .inl ⟨[10], .inl rfl, rfl, rfl⟩
  · cases h
  · cases h
  · cases h
  · obtain ⟨⟨name, rest⟩, named, h⟩ := bind_eq_ok_iff.1 h
    obtain ⟨⟨value, behind⟩, valued, h⟩ := bind_eq_ok_iff.1 h
    cases room with
    | zero => cases h
    | succ fewer => exact .inr ⟨name, value, rest, behind, fewer, named, valued, rfl, h⟩

theorem reads_last {last : Bytes} (empty : EmptyLine last) (limit room : Nat)
    (done : List (String × Bytes)) : Reads (readFields limit room done) last done.reverse := by
  intro other
  rcases empty with rfl | rfl <;> simp [readFields]

/-- The fields take full lines and the empty line behind them. -/
theorem append_of_readFields {limit room : Nat} {done fields : List (String × Bytes)}
    {bytes left : Bytes} (h : readFields limit room done bytes = .ok (fields, left)) :
    ∃ (lines : List Bytes) (last : Bytes), (∀ line ∈ lines, FullLine line) ∧ EmptyLine last ∧
      bytes = lines.flatten ++ (last ++ left) ∧
      Reads (readFields limit room done) (lines.flatten ++ last) fields := by
  induction room generalizing done bytes with
  | zero =>
    rcases readFields_cases h with ⟨last, empty, rfl, rfl⟩ | ⟨_, _, _, _, _, _, _, none, _⟩
    · exact ⟨[], last, nofun, empty, rfl, reads_last empty limit 0 done⟩
    · cases none
  | succ room ih =>
    rcases readFields_cases h with ⟨last, empty, rfl, rfl⟩ |
      ⟨name, value, rest, behind, fewer, named, valued, more, further⟩
    · exact ⟨[], last, nofun, empty, rfl, reads_last empty limit _ done⟩
    · obtain rfl := Nat.succ.inj more
      obtain ⟨token, some, inline, rfl, readsName⟩ := readsInline_readFieldName _ _ _ named
      obtain ⟨text, stop, inline', stops, rfl, readsValue⟩ := append_of_readFieldValue valued
      obtain ⟨lines, last, all, empty, rfl, readsFields⟩ := ih further
      have full : FullLine (token ++ (text ++ stop)) :=
        ⟨token ++ text, stop, by simp [some], inline.append inline', stops, by simp⟩
      refine ⟨(token ++ (text ++ stop)) :: lines, last, ?_, empty, by simp, fun other => ?_⟩
      · intro line member
        rcases List.mem_cons.1 member with rfl | member
        · exact full
        · exact all line member
      · cases token with
        | nil => exact absurd rfl some
        | cons b token =>
          obtain ⟨lf, cr⟩ := inline.head_ne
          have again := readsName (text ++ stop ++ (lines.flatten ++ last ++ other))
          have whole : ((b :: token ++ (text ++ stop)) :: lines).flatten ++ last ++ other =
              b :: (token ++ (text ++ stop ++ (lines.flatten ++ last ++ other))) := by
            simp
          rw [whole, readFields_cons lf cr, ← List.cons_append, again]
          exact bind_eq_ok_iff.2 ⟨_, rfl, bind_eq_ok_iff.2 ⟨_, readsValue _, readsFields other⟩⟩

/-- Reading a head takes its section. -/
theorem append_of_read {limit : Nat} {bytes left : Bytes} {head : Head}
    (h : read limit bytes = .ok (head, left)) :
    ∃ taken, Section taken ∧ bytes = taken ++ left ∧ Reads (read limit) taken head := by
  obtain ⟨afterBlank, skipped, h⟩ := bind_eq_ok_iff.1 h
  obtain ⟨⟨method, afterMethod⟩, readMethod, h⟩ := bind_eq_ok_iff.1 h
  obtain ⟨⟨target, afterTarget⟩, readTarget, h⟩ := bind_eq_ok_iff.1 h
  obtain ⟨⟨version, afterVersion⟩, readVersion, h⟩ := bind_eq_ok_iff.1 h
  obtain ⟨afterLine, ended, h⟩ := bind_eq_ok_iff.1 h
  obtain ⟨⟨fields, behind⟩, readFields, h⟩ := bind_eq_ok_iff.1 h
  obtain ⟨rfl, rfl⟩ := Prod.mk.inj (Except.ok.inj h)
  obtain ⟨blank, allEmpty, rfl⟩ := append_of_skipEmptyLines skipped
  obtain ⟨first, some, inline, rfl, readsMethod⟩ := readsInline_readMethod _ _ _ readMethod
  obtain ⟨second, -, inline', rfl, readsTarget⟩ := readsInline_readTarget _ _ _ readTarget
  obtain ⟨third, -, inline'', rfl, readsVersion⟩ := readsInline_readVersion _ _ _ readVersion
  obtain ⟨stop, stops, rfl⟩ := lineEnd_eq_ok_iff.1 ended
  obtain ⟨lines, last, full, empty, rfl, readsFields⟩ := append_of_readFields readFields
  have line : FullLine (first ++ (second ++ (third ++ stop))) :=
    ⟨first ++ (second ++ third), stop, by simp [some], inline.append (inline'.append inline''),
      stops, by simp⟩
  refine ⟨_, .of allEmpty line full empty, by simp, fun other => ?_⟩
  have whole : blank.flatten ++ (first ++ (second ++ (third ++ stop)) ++ (lines.flatten ++ last)) ++
      other = blank.flatten ++ (first ++ (second ++ (third ++ (stop ++
        (lines.flatten ++ last ++ other))))) := by
    simp
  rw [whole]
  cases first with
  | nil => exact absurd rfl some
  | cons b first =>
    obtain ⟨lf, cr⟩ := inline.head_ne
    exact bind_eq_ok_iff.2 ⟨_, skipEmptyLines_append allEmpty lf cr _,
      bind_eq_ok_iff.2 ⟨_, readsMethod _,
      bind_eq_ok_iff.2 ⟨_, readsTarget _,
      bind_eq_ok_iff.2 ⟨_, readsVersion _,
      bind_eq_ok_iff.2 ⟨_, lineEnd_eq_ok_iff.2 ⟨stop, stops, rfl⟩,
      bind_eq_ok_iff.2 ⟨_, readsFields other, rfl⟩⟩⟩⟩⟩⟩

/-- The first line of some bytes is certain. -/
theorem first_line_unique {text text' rest rest' : Bytes} (h : (10 : UInt8) ∉ text)
    (h' : (10 : UInt8) ∉ text') (same : text ++ 10 :: rest = text' ++ 10 :: rest') :
    text = text' ∧ rest = rest' := by
  induction text generalizing text' with
  | nil =>
    cases text' with
    | nil => exact ⟨rfl, (List.cons.inj same).2⟩
    | cons b text' =>
      obtain ⟨rfl, -⟩ := List.cons.inj same
      exact absurd List.mem_cons_self h'
  | cons b text ih =>
    cases text' with
    | nil =>
      obtain ⟨rfl, -⟩ := List.cons.inj same
      exact absurd List.mem_cons_self h
    | cons b' text' =>
      obtain ⟨rfl, behind⟩ := List.cons.inj same
      obtain ⟨rfl, rfl⟩ := ih (fun member => h (List.mem_cons_of_mem _ member))
        (fun member => h' (List.mem_cons_of_mem _ member)) behind
      exact ⟨rfl, rfl⟩

/-- Bytes that end with their only LF. -/
def Line (line : Bytes) : Prop := ∃ text, (10 : UInt8) ∉ text ∧ line = text ++ [10]

theorem Line.unique {line line' rest rest' : Bytes} (h : Line line) (h' : Line line')
    (same : line ++ rest = line' ++ rest') : line = line' ∧ rest = rest' := by
  obtain ⟨text, inside, rfl⟩ := h
  obtain ⟨text', inside', rfl⟩ := h'
  rw [List.append_assoc, List.append_assoc] at same
  obtain ⟨rfl, rfl⟩ := first_line_unique inside inside' same
  exact ⟨rfl, rfl⟩

theorem EmptyLine.line {line : Bytes} (h : EmptyLine line) : Line line := by
  rcases h with rfl | rfl
  · exact ⟨[], by simp, rfl⟩
  · exact ⟨[13], by simp, rfl⟩

theorem FullLine.line {line : Bytes} (h : FullLine line) : Line line := by
  obtain ⟨text, stop, -, inline, rfl | rfl, rfl⟩ := h
  · exact ⟨text, inline.1, rfl⟩
  · refine ⟨text ++ [13], ?_, by simp⟩
    simpa using inline.1

theorem FullLine.not_empty {line : Bytes} (h : FullLine line) : ¬ EmptyLine line := by
  obtain ⟨text, stop, some, inline, -, rfl⟩ := h
  cases text with
  | nil => exact absurd rfl some
  | cons b text =>
    obtain ⟨lf, cr⟩ := inline.head_ne
    rintro (same | same)
    · exact lf (List.cons.inj same).1
    · exact cr (List.cons.inj same).1

/-- Lines of one kind and the first line that is not of it are certain. -/
theorem lines_unique {P : Bytes → Prop} (kind : ∀ line, P line → Line line)
    {lines lines' : List Bytes} {next next' rest rest' : Bytes} (all : ∀ line ∈ lines, P line)
    (all' : ∀ line ∈ lines', P line) (line : Line next) (line' : Line next') (other : ¬ P next)
    (other' : ¬ P next')
    (same : lines.flatten ++ (next ++ rest) = lines'.flatten ++ (next' ++ rest')) :
    lines = lines' ∧ next = next' ∧ rest = rest' := by
  induction lines generalizing lines' with
  | nil =>
    cases lines' with
    | nil =>
      obtain ⟨rfl, rfl⟩ := line.unique line' same
      exact ⟨rfl, rfl, rfl⟩
    | cons first lines' =>
      have known := all' first List.mem_cons_self
      rw [List.flatten_cons, List.append_assoc] at same
      obtain ⟨rfl, -⟩ := line.unique (kind _ known) same
      exact absurd known other
  | cons first lines ih =>
    have known := all first List.mem_cons_self
    rw [List.flatten_cons, List.append_assoc] at same
    cases lines' with
    | nil =>
      obtain ⟨rfl, -⟩ := (kind _ known).unique line' same
      exact absurd known other'
    | cons first' lines' =>
      have known' := all' first' List.mem_cons_self
      rw [List.flatten_cons, List.append_assoc] at same
      obtain ⟨rfl, behind⟩ := (kind _ known).unique (kind _ known') same
      obtain ⟨rfl, rfl, rfl⟩ := ih (fun line member => all line (List.mem_cons_of_mem _ member))
        (fun line member => all' line (List.mem_cons_of_mem _ member)) behind
      exact ⟨rfl, rfl, rfl⟩

/-- At most one section stands at the beginning of some bytes. -/
theorem Section.unique {taken taken' left left' : Bytes} (h : Section taken) (h' : Section taken')
    (same : taken ++ left = taken' ++ left') : taken = taken' ∧ left = left' := by
  cases h with
  | @of blank lines first last skipped begins fields ends =>
    cases h' with
    | @of blank' lines' first' last' skipped' begins' fields' ends' =>
      simp only [List.append_assoc] at same
      obtain ⟨rfl, rfl, behind⟩ := lines_unique (fun _ => EmptyLine.line) skipped skipped'
        begins.line begins'.line begins.not_empty begins'.not_empty same
      have notFull {last : Bytes} (ends : EmptyLine last) : ¬ FullLine last :=
        fun full => full.not_empty ends
      obtain ⟨rfl, rfl, rfl⟩ := lines_unique (fun _ => FullLine.line) fields fields'
        ends.line ends'.line (notFull ends) (notFull ends') behind
      exact ⟨rfl, rfl⟩

/-- The last of some full lines is one. -/
theorem exists_last_line {first : Bytes} {lines : List Bytes} (begins : FullLine first)
    (all : ∀ line ∈ lines, FullLine line) :
    ∃ before line, FullLine line ∧ first ++ lines.flatten = before ++ line := by
  rcases List.eq_nil_or_concat lines with rfl | ⟨front, line, rfl⟩
  · exact ⟨[], first, begins, by simp⟩
  · exact ⟨first ++ front.flatten, line, all line (by simp), by simp⟩

/-- A line end is CRLF, if LF comes behind CR only and the text before it does not end in CR. -/
theorem CrlfOnly.eq_crlf {before stop after : Bytes} (crlf : CrlfOnly (before ++ (stop ++ after)))
    (ends : EmptyLine stop) (noCr : before.getLast? ≠ some 13) : stop = [13, 10] := by
  rcases ends with rfl | same
  · obtain ⟨text, rfl⟩ := crlf before after rfl
    exact absurd (by simp) noCr
  · exact same

/-- A section whose lines end in CRLF ends in CRLFCRLF. -/
theorem Section.append_crlfcrlf {taken left : Bytes} (h : Section taken)
    (crlf : CrlfOnly (taken ++ left)) : ∃ before, taken = before ++ crlfcrlf := by
  cases h with
  | @of blank lines first last skipped begins fields ends =>
    obtain ⟨front, line, full, same⟩ := exists_last_line begins fields
    obtain ⟨text, stop, some, inline, stops, rfl⟩ := full
    have whole : blank.flatten ++ (first ++ (lines.flatten ++ last)) =
        (blank.flatten ++ front ++ text) ++ (stop ++ last) := by
      rw [← List.append_assoc first, same]
      simp
    have textEnd : (blank.flatten ++ front ++ text).getLast? ≠ Option.some 13 := by
      intro final
      rw [List.getLast?_append_of_ne_nil _ some] at final
      exact inline.2 (List.mem_of_getLast? final)
    have lineStop : stop = [13, 10] := by
      rw [whole, List.append_assoc, List.append_assoc stop] at crlf
      exact crlf.eq_crlf stops textEnd
    have stopEnd : (blank.flatten ++ front ++ text ++ stop).getLast? ≠ Option.some 13 := by
      simp [lineStop]
    have lastStop : last = [13, 10] := by
      rw [whole, ← List.append_assoc, List.append_assoc] at crlf
      exact crlf.eq_crlf ends stopEnd
    exact ⟨blank.flatten ++ front ++ text, by rw [whole, lineStop, lastStop]; rfl⟩

end Http.Head

open Http (Request)

/-- The head of a request is cut behind the first CRLFCRLF, but only the first section in it is
read: the empty line behind the request line may end in LF alone and come earlier. What is behind it
does not count, whatever it is. Nothing is behind it exactly if the head is a single section, and so
if every line of it ends in CRLF. -/
theorem head_section {buffer head rest : Bytes} {limit : Nat} {request : Request}
    (cut : Request.cutHead? buffer = some (head, rest))
    (parsed : Request.parseHead head limit = .ok request) :
    ∃ taken left, head = taken ++ left ∧ Http.Head.Section taken ∧
      (∃ lines, Http.Head.read limit head = .ok (lines, left) ∧
        Request.ofHead lines = .ok request) ∧
      (∀ other, Request.parseHead (taken ++ other) limit = .ok request) ∧
      (left = [] ↔ Http.Head.Section head) ∧ (Http.Head.CrlfOnly head → left = []) := by
  obtain ⟨⟨lines, left⟩, read, meant⟩ := bind_eq_ok_iff.1 parsed
  have found : Http.Head.read limit head = .ok (lines, left) := by
    cases result : Http.Head.read limit head with
    | error fault =>
      rw [result] at read
      cases read
    | ok value =>
      rw [result] at read
      exact congrArg Except.ok (Except.ok.inj read)
  obtain ⟨taken, sectioned, rfl, reads⟩ := Http.Head.append_of_read found
  refine ⟨taken, left, rfl, sectioned, ⟨lines, found, meant⟩, fun other => ?_, ⟨?_, ?_⟩, ?_⟩
  · refine bind_eq_ok_iff.2 ⟨(lines, other), ?_, meant⟩
    rw [reads other]
    rfl
  · rintro rfl
    rw [List.append_nil]
    exact sectioned
  · intro whole
    have same : (taken ++ left) ++ [] = taken ++ left := List.append_nil _
    exact (whole.unique sectioned same).2.symm
  · intro crlf
    obtain ⟨before, rfl⟩ := sectioned.append_crlfcrlf crlf
    -- The mark at the end of the section cannot come before the first mark.
    have buffered : buffer = before ++ Http.crlfcrlf ++ (left ++ rest) := by
      rw [Request.append_of_cutHead? cut, List.append_assoc]
    obtain ⟨head', rest', cut', early⟩ := Request.exists_cutHead? before (left ++ rest)
    rw [← buffered, cut] at cut'
    obtain ⟨rfl, -⟩ := Prod.mk.inj (Option.some.inj cut')
    rw [List.length_append] at early
    exact List.length_eq_zero_iff.1 (by omega)

/-- In a head with both kinds of line ends, of which only the last is followed by an empty line,
nothing is lost. -/
theorem mixed_head_section :
    let head := Text.encode "GET / HTTP/1.1\nHost: a\r\n\r\n"
    let body := Text.encode "rest"
    ∃ request, Request.cutHead? (head ++ body) = some (head, body) ∧
      Request.parseHead head 64 = .ok request ∧
      ∃ taken left, head = taken ++ left ∧ Http.Head.Section taken ∧
        (left = [] ↔ Http.Head.Section head) := by
  intro head body
  have cut : Request.cutHead? (head ++ body) = some (head, body) := by decide +kernel
  have accepted : (Request.parseHead head 64).toOption.isSome = true := by decide +kernel
  cases parsed : Request.parseHead head 64 with
  | error fault =>
    rw [parsed] at accepted
    cases accepted
  | ok request =>
    obtain ⟨taken, left, whole, sectioned, -, -, single, -⟩ := head_section cut parsed
    exact ⟨request, cut, rfl, taken, left, whole, sectioned, single⟩

/-- Of two requests in one window, of which the first ends in LF LF and the second in CRLFCRLF, the
first is read, and both are taken for it. -/
theorem second_request_lost :
    let first := Text.encode "GET /a HTTP/1.1\n\n"
    let second := Text.encode "GET /b HTTP/1.1\r\n\r\n"
    let read (bytes : Bytes) := (Request.parse bytes).toOption.map
      (·.map fun (request, size) => (request.path, size))
    Request.cutHead? (first ++ second) = some (first ++ second, []) ∧
      (Http.Head.read 64 (first ++ second)).toOption =
        some (⟨"GET", "/a", .http11, []⟩, second) ∧
      read (first ++ second) = some (some ("/a", first.length + second.length)) ∧
      read second = some (some ("/b", second.length)) := by
  decide +kernel

end WebServer

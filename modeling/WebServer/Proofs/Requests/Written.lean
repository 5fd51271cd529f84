import WebServer.Proofs.Requests.Sections
import WebServer.Proofs.Stream.Lines
import WebServer.Proofs.Text.Raw

/-!
# Reading a head that was written

Every reader of a part of a head takes what was written for that part, and nothing of what follows
it. Put together, they take the head of a request as it was written (`reads_head`).
-/
namespace WebServer.Http.Head

/-- A token: what may be a method or the name of a field. -/
def IsToken (text : String) : Prop :=
  text ≠ "" ∧ ∀ b ∈ Text.encode text, Text.isTokenByte b = true

instance (text : String) : Decidable (IsToken text) :=
  decidable_of_iff (text ≠ "" ∧ (Text.encode text).all Text.isTokenByte = true) <| by
    simp only [List.all_eq_true, IsToken]

/-- A field whose name is a token without escapes, and whose value has no controls in it and no
white space around it. -/
structure LawfulField (field : String × String) : Prop where
  name : IsToken field.1
  percent : '%' ∉ field.1.toList
  value : ∀ c ∈ field.2.toList, 0x20 ≤ c.toNat ∧ c.toNat ≠ 0x7F
  trimmed : Text.Trimmed Text.isBlank field.2.toList

instance (field : String × String) : Decidable (LawfulField field) :=
  decidable_of_iff (IsToken field.1 ∧ '%' ∉ field.1.toList ∧
      field.2.toList.all (fun c => 0x20 ≤ c.toNat && c.toNat ≠ 0x7F) = true ∧
      Text.Trimmed Text.isBlank field.2.toList) <| by
    simp only [List.all_eq_true, Bool.and_eq_true, decide_eq_true_eq]
    exact ⟨fun h => ⟨h.1, h.2.1, h.2.2.1, h.2.2.2⟩,
      fun h => ⟨h.name, h.percent, h.value, h.trimmed⟩⟩

/-- A target of visible ASCII characters. -/
def IsVisible (text : String) : Prop :=
  text ≠ "" ∧ ∀ c ∈ text.toList, 0x21 ≤ c.toNat ∧ c.toNat ≤ 0x7E

instance (text : String) : Decidable (IsVisible text) :=
  decidable_of_iff (text ≠ "" ∧
      text.toList.all (fun c => 0x21 ≤ c.toNat && c.toNat ≤ 0x7E) = true) <| by
    simp only [List.all_eq_true, Bool.and_eq_true, decide_eq_true_eq, IsVisible]

theorem encode_ne_nil {text : String} (some : text ≠ "") : Text.encode text ≠ [] :=
  fun empty => some (Text.encode_injective (b := "") empty)

theorem toNat_lt_of_isTokenByte {b : UInt8} (h : Text.isTokenByte b = true) : b.toNat < 0x80 := by
  simp only [Text.isTokenByte, Bytes.isDigit, Bytes.isLetter, Bool.or_eq_true, Bool.and_eq_true,
    decide_eq_true_eq, UInt8.le_iff_toNat_le, UInt8.reduceToNat, List.contains_eq_mem,
    List.mem_cons, List.not_mem_nil, or_false] at h
  rcases h with (digit | letter) | other
  · omega
  · omega
  · rcases other with rfl | rfl | rfl | rfl | rfl | rfl | rfl | rfl | rfl | rfl | rfl | rfl | rfl |
      rfl | rfl <;> decide

/-- A token begins no empty line. -/
theorem IsToken.begins {text : String} (token : IsToken text) :
    ∃ b more, Text.encode text = b :: more ∧ b ≠ 10 ∧ b ≠ 13 := by
  obtain ⟨b, more, bytes⟩ := List.exists_cons_of_ne_nil (encode_ne_nil token.1)
  have first : Text.isTokenByte b = true := token.2 b (by rw [bytes]; exact List.mem_cons_self)
  refine ⟨b, more, bytes, ?_, ?_⟩
  · rintro rfl
    cases first
  · rintro rfl
    cases first

theorem asciiText_encode {text : String} (token : IsToken text) :
    asciiText (Text.encode text) = text := by
  have ascii := Text.ascii_of_encode fun b member => toNat_lt_of_isTokenByte (token.2 b member)
  rw [asciiText, Text.encode_of_ascii ascii, String.ofList_toList]

theorem reads_readMethod {method : String} (token : IsToken method) :
    Reads readMethod (Text.encode method ++ [32]) method := by
  intro other
  have word := reads_word (by decide) (encode_ne_nil token.1) token.2 other
  refine bind_eq_ok_iff.2 ⟨_, word, ?_⟩
  show Except.ok (asciiText (Text.encode method), other) = _
  rw [asciiText_encode token]

theorem reads_readTarget {target : String} (visible : IsVisible target) :
    Reads readTarget (Text.encode target ++ [32]) target := by
  intro other
  have all : ∀ b ∈ Text.encode target, isTargetByte b = true := by
    intro b member
    simp only [isTargetByte, Bool.or_eq_true, Bool.and_eq_true, decide_eq_true_eq,
      UInt8.le_iff_toNat_le, UInt8.reduceToNat]
    rcases Nat.lt_or_ge b.toNat 0x80 with ascii | beyond
    · obtain ⟨c, among, same⟩ := Text.exists_of_mem_encode ascii member
      have := visible.2 c among
      omega
    · exact .inr beyond
  have word := reads_word (by decide) (encode_ne_nil visible.1) all other
  refine bind_eq_ok_iff.2 ⟨_, word, ?_⟩
  simp only [Text.decode?_encode]

theorem reads_readVersion (version : Version) :
    Reads readVersion (Text.encode version.name) version := by
  intro other
  have split : Bytes.splitExactly? 8 (Text.encode version.name ++ other) =
      some (Text.encode version.name, other) := by
    refine Bytes.splitExactly?_eq_some_iff.2 ⟨?_, rfl⟩
    cases version <;> decide
  simp only [readVersion, split]
  cases version with
  | http10 => rfl
  | http11 => rfl

theorem reads_readFieldName {name : String} (token : IsToken name) :
    Reads readFieldName (Text.encode name ++ [58]) name := by
  intro other
  unfold readFieldName
  rw [List.append_assoc, List.singleton_append, span_append token.2 (by decide)]
  have text := asciiText_encode token
  have some := encode_ne_nil token.1
  generalize Text.encode name = bytes at text some ⊢
  cases bytes with
  | nil => exact absurd rfl some
  | cons b bytes =>
    rw [← text]
    rfl

theorem isValueByte_of_lawful {field : String × String} (lawful : LawfulField field) {b : UInt8}
    (member : b ∈ Text.encode field.2) : isValueByte b = true := by
  simp only [isValueByte, Bool.or_eq_true, Bool.and_eq_true, decide_eq_true_eq,
    UInt8.le_iff_toNat_le, UInt8.reduceToNat]
  rcases Nat.lt_or_ge b.toNat 0x80 with ascii | beyond
  · obtain ⟨c, among, same⟩ := Text.exists_of_mem_encode ascii member
    have := lawful.value c among
    omega
  · exact .inr beyond

/-- Padding is white space. -/
theorem isBlank_of_isPadding {b : UInt8} (padding : isPadding b = true) :
    b.toNat < 0x80 ∧ Text.isBlank (Char.ofNat b.toNat) = true := by
  simp only [isPadding, Bool.or_eq_true, decide_eq_true_eq] at padding
  rcases padding with rfl | rfl
  · exact ⟨by decide, by decide⟩
  · exact ⟨by decide, by decide⟩

theorem reads_readFieldValue {field : String × String} (lawful : LawfulField field) :
    Reads readFieldValue (Text.encode " " ++ (Text.encode field.2 ++ crlf))
      (Text.encode field.2) := by
  intro other
  have value : ∀ b ∈ Text.encode field.2, isValueByte b = true :=
    fun b member => isValueByte_of_lawful lawful member
  have first : ∀ b, (Text.encode field.2).head? = some b → isPadding b = false := by
    intro b first
    by_contra padding
    obtain ⟨ascii, blank⟩ := isBlank_of_isPadding (Bool.of_not_eq_false padding)
    rw [lawful.trimmed.first _ (Text.head?_of_encode ascii first)] at blank
    cases blank
  have last : ∀ b, (Text.encode field.2).reverse.head? = some b → isPadding b = false := by
    intro b last
    rw [List.head?_reverse] at last
    by_contra padding
    obtain ⟨ascii, blank⟩ := isBlank_of_isPadding (Bool.of_not_eq_false padding)
    rw [lawful.trimmed.last _ (Text.getLast?_of_encode ascii last)] at blank
    cases blank
  generalize Text.encode field.2 = bytes at value first last ⊢
  have line : Text.encode " " ++ (bytes ++ crlf) ++ other = 32 :: (bytes ++ 13 :: 10 :: other) := by
    have space : Text.encode " " = [32] := by decide
    simp [space, crlf]
  have starts : (bytes ++ 13 :: 10 :: other).dropWhile isPadding = bytes ++ 13 :: 10 :: other := by
    cases bytes with
    | nil => exact List.dropWhile_cons_of_neg (by decide)
    | cons b bytes => exact List.dropWhile_cons_of_neg (by simp [first b rfl])
  have ends : (bytes.reverse.dropWhile isPadding).reverse = bytes := by
    rw [Text.dropWhile_eq_self last, List.reverse_reverse]
  unfold readFieldValue
  rw [line, List.dropWhile_cons_of_pos (by decide), starts, span_append value (by decide)]
  refine bind_eq_ok_iff.2 ⟨other, rfl, ?_⟩
  simp only [ends]
  rfl

/-- A line of a field is read as the field. -/
theorem readFields_line {field : String × String} (lawful : LawfulField field) (limit room : Nat)
    (done : List (String × Bytes)) (rest : Bytes) :
    readFields limit (room + 1) done (writeField field ++ crlf ++ rest) =
      readFields limit room ((field.1, Text.encode field.2) :: done) rest := by
  have mark : Text.encode ": " = [58] ++ Text.encode " " := by decide
  have line : writeField field ++ crlf ++ rest = (Text.encode field.1 ++ [58]) ++
      (Text.encode " " ++ (Text.encode field.2 ++ crlf) ++ rest) := by
    simp [writeField, mark]
  have named := reads_readFieldName lawful.name
    (Text.encode " " ++ (Text.encode field.2 ++ crlf) ++ rest)
  have valued := reads_readFieldValue lawful rest
  obtain ⟨b, more, bytes, lf, cr⟩ := lawful.name.begins
  rw [line]
  rw [bytes] at named ⊢
  rw [List.append_assoc, List.cons_append, readFields_cons lf cr, ← List.cons_append,
    ← List.append_assoc, named]
  show (do
    let found ← readFieldValue (Text.encode " " ++ (Text.encode field.2 ++ crlf) ++ rest)
    readFields limit room ((field.1, found.1) :: done) found.2) = _
  rw [valued]
  rfl

/-- The lines of fields are read as the fields, up to the empty line. -/
theorem reads_readFields {fields : List (String × String)}
    (lawful : ∀ field ∈ fields, LawfulField field) {limit room : Nat} (fits : fields.length ≤ room)
    (done : List (String × Bytes)) :
    Reads (readFields limit room done)
      ((fields.map writeField).flatMap (fun line => line ++ crlf) ++ crlf)
      (done.reverse ++ fields.map fun field => (field.1, Text.encode field.2)) := by
  intro other
  induction fields generalizing room done with
  | nil =>
    simpa [crlf] using reads_last (.inr rfl) limit room done other
  | cons field fields ih =>
    obtain ⟨first, others⟩ := List.forall_mem_cons.1 lawful
    obtain ⟨fewer, rfl⟩ := Nat.exists_eq_succ_of_ne_zero (n := room) (by
      rintro rfl
      exact absurd fits (Nat.not_succ_le_zero _))
    rw [List.map_cons, List.flatMap_cons, List.append_assoc, List.append_assoc,
      readFields_line first, ← List.append_assoc,
      ih others (Nat.le_of_succ_le_succ fits) ((field.1, Text.encode field.2) :: done)]
    simp

/-- The request line without its end. -/
def requestLine (method target : String) (version : Version) : Bytes :=
  Text.encode method ++ (Text.encode " " ++ (Text.encode target ++
    (Text.encode " " ++ Text.encode version.name)))

theorem no_cr_of_printable {text : String} (printable : ∀ c ∈ text.toList, 0x20 ≤ c.toNat) :
    (13 : UInt8) ∉ Text.encode text := by
  refine Text.not_mem_encode (by decide) fun member => ?_
  have low : 0x20 ≤ 13 := printable _ member
  exact absurd low (by decide)

theorem IsToken.no_cr {text : String} (token : IsToken text) : (13 : UInt8) ∉ Text.encode text :=
  fun member => by cases token.2 13 member

theorem no_cr_requestLine {method target : String} (token : IsToken method)
    (visible : IsVisible target) (version : Version) :
    (13 : UInt8) ∉ requestLine method target version := by
  have target : (13 : UInt8) ∉ Text.encode target :=
    no_cr_of_printable fun c member => Nat.le_of_succ_le (visible.2 c member).1
  have space : Text.encode " " = [32] := by decide
  have version : (13 : UInt8) ∉ Text.encode version.name := by
    cases version <;> decide
  simp [requestLine, space, token.no_cr, target, version]

theorem LawfulField.line {field : String × String} (lawful : LawfulField field) :
    writeField field ≠ [] ∧ (13 : UInt8) ∉ writeField field := by
  have value : (13 : UInt8) ∉ Text.encode field.2 :=
    no_cr_of_printable fun c member => (lawful.value c member).1
  have mark : Text.encode ": " = [58, 32] := by decide
  simp [writeField, mark, lawful.name.no_cr, value]

/-- A head is read as it was written. -/
theorem reads_head {method target : String} (token : IsToken method) (visible : IsVisible target)
    (version : Version) {fields : List (String × String)}
    (lawful : ∀ field ∈ fields, LawfulField field) {limit : Nat} (fits : fields.length ≤ limit) :
    Reads (read limit)
      ((requestLine method target version :: fields.map writeField).flatMap
        (fun line => line ++ crlf) ++ crlf)
      ⟨method, target, version, fields.map fun field => (field.1, Text.encode field.2)⟩ := by
  intro other
  have space : Text.encode " " = [32] := by decide
  let lines := (fields.map writeField).flatMap fun line => line ++ crlf
  have whole : (requestLine method target version :: fields.map writeField).flatMap
      (fun line => line ++ crlf) ++ crlf ++ other =
        (Text.encode method ++ [32]) ++ ((Text.encode target ++ [32]) ++
          (Text.encode version.name ++ (crlf ++ (lines ++ crlf ++ other)))) := by
    simp [requestLine, space, lines]
  have readsMethod := reads_readMethod token ((Text.encode target ++ [32]) ++
    (Text.encode version.name ++ (crlf ++ (lines ++ crlf ++ other))))
  have readsFields : readFields limit limit [] (lines ++ crlf ++ other) = _ :=
    reads_readFields lawful fits [] other
  obtain ⟨b, more, bytes, lf, cr⟩ := token.begins
  rw [whole]
  rw [bytes] at readsMethod ⊢
  exact bind_eq_ok_iff.2 ⟨_, @skipEmptyLines_append [] nofun b lf cr _,
    bind_eq_ok_iff.2 ⟨_, readsMethod,
    bind_eq_ok_iff.2 ⟨_, reads_readTarget visible _,
    bind_eq_ok_iff.2 ⟨_, reads_readVersion version _,
    bind_eq_ok_iff.2 ⟨_, lineEnd_eq_ok_iff.2 ⟨crlf, .inr rfl, rfl⟩,
    bind_eq_ok_iff.2 ⟨_, readsFields, rfl⟩⟩⟩⟩⟩⟩

end WebServer.Http.Head

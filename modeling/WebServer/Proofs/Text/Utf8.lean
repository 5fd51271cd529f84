import Mathlib.Data.List.Basic
import WebServer.Text.Utf8

/-!
# UTF-8

A text is written character by character. An ASCII character is one byte, and in the bytes of any
other there is no ASCII byte, so a mark of ASCII bytes stands among the bytes of a text only where
it stands in the text. Both readers give a text back from its bytes.
-/
namespace WebServer.Text

theorem encode_eq_flatMap (text : String) :
    encode text = text.toList.flatMap String.utf8EncodeChar := by
  rw [encode, ← String.utf8Encode_toList, List.utf8Encode, List.data_toByteArray,
    List.toList_toArray]

theorem encode_append (a b : String) : encode (a ++ b) = encode a ++ encode b := by
  simp [encode]

/-- A text is read back from its bytes. -/
theorem decode?_encode (text : String) : decode? (encode text) = some text := by
  have bytes : ByteArray.mk (encode text).toArray = text.toByteArray := by
    rw [encode, Array.toArray_toList]
  rw [decode?, bytes, String.fromUTF8?, dif_pos text.isValidUTF8]
  rfl

/-- Bytes that are read as a text are its bytes. -/
theorem encode_of_decode? {bytes : Bytes} {text : String} (h : decode? bytes = some text) :
    encode text = bytes := by
  unfold decode? String.fromUTF8? at h
  split at h
  · obtain rfl := Option.some.inj h
    rfl
  · cases h

theorem encode_injective {a b : String} (same : encode a = encode b) : a = b := by
  have read := congrArg decode? same
  rw [decode?_encode, decode?_encode] at read
  exact Option.some.inj read

/-- Bytes that are those of no text are not read as one. -/
theorem decode?_eq_none {bytes : Bytes} (noText : ∀ text, encode text ≠ bytes) :
    decode? bytes = none := by
  cases read : decode? bytes with
  | none => rfl
  | some text => exact absurd (encode_of_decode? read) (noText text)

/-- The bytes of the character with a number. -/
inductive Sequence (number : Nat) : Bytes → Prop
  | one {lead : UInt8} (small : number < 0x80) (lead_eq : lead.toNat = number) :
    Sequence number [lead]
  | two {lead b : UInt8} (large : 0x80 ≤ number) (small : number < 0x800)
    (lead_eq : lead.toNat = 0xC0 + number / 64) (b_eq : b.toNat = 0x80 + number % 64) :
    Sequence number [lead, b]
  | three {lead b b' : UInt8} (large : 0x800 ≤ number) (small : number < 0x10000)
    (lead_eq : lead.toNat = 0xE0 + number / 4096) (b_eq : b.toNat = 0x80 + number / 64 % 64)
    (b_eq' : b'.toNat = 0x80 + number % 64) : Sequence number [lead, b, b']
  | four {lead b b' b'' : UInt8} (large : 0x10000 ≤ number) (small : number < 0x110000)
    (lead_eq : lead.toNat = 0xF0 + number / 262144) (b_eq : b.toNat = 0x80 + number / 4096 % 64)
    (b_eq' : b'.toNat = 0x80 + number / 64 % 64) (b_eq'' : b''.toNat = 0x80 + number % 64) :
    Sequence number [lead, b, b', b'']

/-- The numbers of characters end there, and leave a gap for surrogates. -/
theorem toNat_valid (c : Char) : c.toNat < 0xD800 ∨ 0xDFFF < c.toNat ∧ c.toNat < 0x110000 :=
  c.valid

theorem sequence_utf8EncodeChar (c : Char) : Sequence c.toNat (String.utf8EncodeChar c) := by
  have valid := toNat_valid c
  have byte {n : Nat} (fits : n < 256) : (UInt8.ofNat n).toNat = n := by
    rw [UInt8.toNat_ofNat', Nat.mod_eq_of_lt fits]
  unfold String.utf8EncodeChar
  simp only [show c.val.toNat = c.toNat from rfl]
  split
  · exact .one (by omega) (byte (by omega))
  · split
    · refine .two (by omega) (by omega) ?_ ?_ <;> rw [byte (by omega)] <;> omega
    · split
      · refine .three (by omega) (by omega) ?_ ?_ ?_ <;> rw [byte (by omega)] <;> omega
      · refine .four (by omega) (by omega) ?_ ?_ ?_ ?_ <;> rw [byte (by omega)] <;> omega

/-- An ASCII byte among those of a character is the character. -/
theorem Sequence.eq_of_ascii {number : Nat} {bytes : Bytes} (h : Sequence number bytes) {b : UInt8}
    (ascii : b.toNat < 0x80) (member : b ∈ bytes) : b.toNat = number := by
  cases h with
  | one small lead_eq => rwa [List.mem_singleton.1 member]
  | two | three | four =>
    simp only [List.mem_cons, List.not_mem_nil, or_false] at member
    rcases member with rfl | rfl | rfl | rfl <;> omega

/-- An ASCII byte among those of a text is one of its characters. -/
theorem exists_of_mem_encode {text : String} {b : UInt8} (ascii : b.toNat < 0x80)
    (member : b ∈ encode text) : ∃ c ∈ text.toList, c.toNat = b.toNat := by
  rw [encode_eq_flatMap] at member
  obtain ⟨c, within, among⟩ := List.mem_flatMap.1 member
  exact ⟨c, within, ((sequence_utf8EncodeChar c).eq_of_ascii ascii among).symm⟩

/-- An ASCII byte is missing from the bytes of a text that lacks the character. -/
theorem not_mem_encode {text : String} {b : UInt8} (ascii : b.toNat < 0x80)
    (none : Char.ofNat b.toNat ∉ text.toList) : b ∉ encode text := by
  intro member
  obtain ⟨c, within, same⟩ := exists_of_mem_encode ascii member
  rw [← same, Char.ofNat_toNat] at none
  exact none within

/-- An ASCII character is one byte. -/
theorem utf8EncodeChar_of_ascii {c : Char} (ascii : c.toNat < 0x80) :
    ∃ b : UInt8, String.utf8EncodeChar c = [b] ∧ b.toNat = c.toNat := by
  have sequence := sequence_utf8EncodeChar c
  generalize String.utf8EncodeChar c = bytes at sequence
  cases sequence with
  | one small lead_eq => exact ⟨_, rfl, lead_eq⟩
  | two large | three large | four large => omega

/-- The bytes of a text of ASCII characters are their numbers. -/
theorem encode_of_ascii {text : String} (ascii : ∀ c ∈ text.toList, c.toNat < 0x80) :
    (encode text).map (fun b => Char.ofNat b.toNat) = text.toList := by
  rw [encode_eq_flatMap]
  generalize text.toList = chars at ascii
  induction chars with
  | nil => rfl
  | cons c chars ih =>
    obtain ⟨b, one, same⟩ := utf8EncodeChar_of_ascii (ascii c List.mem_cons_self)
    rw [List.flatMap_cons, one, List.singleton_append, List.map_cons, same, Char.ofNat_toNat,
      ih fun c member => ascii c (List.mem_cons_of_mem _ member)]

theorem ascii_of_encode {text : String} (ascii : ∀ b ∈ encode text, b.toNat < 0x80) :
    ∀ c ∈ text.toList, c.toNat < 0x80 := by
  intro c member
  rw [encode_eq_flatMap] at ascii
  have bytes (b : UInt8) (among : b ∈ String.utf8EncodeChar c) : b.toNat < 0x80 :=
    ascii b (List.mem_flatMap.2 ⟨c, member, among⟩)
  have sequence := sequence_utf8EncodeChar c
  generalize String.utf8EncodeChar c = encoded at bytes sequence
  cases sequence with
  | one small => exact small
  | two _ _ lead_eq | three _ _ lead_eq | four _ _ lead_eq =>
    have := bytes _ List.mem_cons_self
    omega

/-- A text begins with an ASCII character if its bytes do. -/
theorem head?_of_encode {text : String} {b : UInt8} (ascii : b.toNat < 0x80)
    (first : (encode text).head? = some b) : text.toList.head? = some (Char.ofNat b.toNat) := by
  rw [encode_eq_flatMap] at first
  cases chars : text.toList with
  | nil => simp [chars] at first
  | cons c rest =>
    have lead : (String.utf8EncodeChar c).head? = some b := by
      rw [chars, List.flatMap_cons, List.head?_append_of_ne_nil _ String.utf8EncodeChar_ne_nil]
        at first
      exact first
    have same := (sequence_utf8EncodeChar c).eq_of_ascii ascii (List.mem_of_head? lead)
    rw [same, Char.ofNat_toNat]
    rfl

/-- So does it end. -/
theorem getLast?_of_encode {text : String} {b : UInt8} (ascii : b.toNat < 0x80)
    (last : (encode text).getLast? = some b) :
    text.toList.getLast? = some (Char.ofNat b.toNat) := by
  rw [encode_eq_flatMap] at last
  rcases List.eq_nil_or_concat text.toList with chars | ⟨rest, c, chars⟩
  · simp [chars] at last
  · rw [List.concat_eq_append] at chars
    have final : (String.utf8EncodeChar c).getLast? = some b := by
      rw [chars, List.flatMap_append, List.flatMap_singleton,
        List.getLast?_append_of_ne_nil _ String.utf8EncodeChar_ne_nil] at last
      exact last
    have same := (sequence_utf8EncodeChar c).eq_of_ascii ascii (List.mem_of_getLast? final)
    rw [chars, List.getLast?_append_of_ne_nil _ (List.cons_ne_nil _ _), same, Char.ofNat_toNat]
    rfl

theorem continuation_cons {bounds : UInt8 × UInt8} {b : UInt8}
    (low : bounds.1.toNat ≤ b.toNat) (high : b.toNat ≤ bounds.2.toNat) (number count : Nat)
    (rest : Bytes) :
    continuation bounds number (count + 1) (b :: rest) =
      ((continuation (0x80, 0xBF) (number * 64 + (b.toNat - 0x80)) count rest).1 + 1,
        (continuation (0x80, 0xBF) (number * 64 + (b.toNat - 0x80)) count rest).2) := by
  have within : (bounds.1 ≤ b && b ≤ bounds.2) = true := by
    simp only [UInt8.le_iff_toNat_le, Bool.and_eq_true, decide_eq_true_eq]
    exact ⟨low, high⟩
  rw [continuation, if_pos within]

/-- The bounds of the second byte are narrower behind four of the first bytes. -/
theorem within_secondBounds {lead b : UInt8} (low : 0x80 ≤ b.toNat) (high : b.toNat ≤ 0xBF)
    (overlong : lead.toNat = 0xE0 → 0xA0 ≤ b.toNat) (surrogate : lead.toNat = 0xED → b.toNat ≤ 0x9F)
    (overlong' : lead.toNat = 0xF0 → 0x90 ≤ b.toNat) (beyond : lead.toNat = 0xF4 → b.toNat ≤ 0x8F) :
    (secondBounds lead).1.toNat ≤ b.toNat ∧ b.toNat ≤ (secondBounds lead).2.toNat := by
  have same (n : UInt8) : (lead == n) = decide (lead.toNat = n.toNat) := by
    rw [Bool.eq_iff_iff, beq_iff_eq, decide_eq_true_iff, UInt8.toNat_inj]
  simp only [secondBounds, same, decide_eq_true_eq, UInt8.reduceToNat]
  split_ifs with e0 ed f0 f4
  · exact ⟨overlong e0, high⟩
  · exact ⟨low, surrogate ed⟩
  · exact ⟨overlong' f0, high⟩
  · exact ⟨low, beyond f4⟩
  · exact ⟨low, high⟩

theorem following?_eq (lead : UInt8) :
    following? lead =
      if lead.toNat < 0x80 then some 0
      else if 0xC2 ≤ lead.toNat ∧ lead.toNat ≤ 0xDF then some 1
      else if 0xE0 ≤ lead.toNat ∧ lead.toNat ≤ 0xEF then some 2
      else if 0xF0 ≤ lead.toNat ∧ lead.toNat ≤ 0xF4 then some 3
      else none := by
  simp only [following?, UInt8.lt_iff_toNat_lt, UInt8.le_iff_toNat_le, Bool.and_eq_true,
    decide_eq_true_eq, UInt8.reduceToNat]

/-- A sequence is read as its character, whatever follows it. -/
theorem headChar_of_sequence {c : Char} {bytes : Bytes} (h : Sequence c.toNat bytes) :
    ∃ lead tail, bytes = lead :: tail ∧
      ∀ rest, headChar lead (tail ++ rest) = (c, tail.length) := by
  have valid := toNat_valid c
  have third {b : UInt8} {n : Nat} (b_eq : b.toNat = 0x80 + n % 64) :
      ((0x80, 0xBF) : UInt8 × UInt8).1.toNat ≤ b.toNat ∧
        b.toNat ≤ ((0x80, 0xBF) : UInt8 × UInt8).2.toNat := by
    simp only [UInt8.reduceToNat]
    omega
  cases h with
  | @one lead small lead_eq =>
    have starts : following? lead = some 0 := by rw [following?_eq, if_pos (by omega)]
    refine ⟨lead, [], rfl, fun rest => ?_⟩
    simp [headChar, starts, continuation, leadBits, lead_eq]
  | @two lead b large small lead_eq b_eq =>
    have starts : following? lead = some 1 := by
      rw [following?_eq, if_neg (by omega), if_pos (by omega)]
    have second : (secondBounds lead).1.toNat ≤ b.toNat ∧ b.toNat ≤ (secondBounds lead).2.toNat :=
      within_secondBounds (by omega) (by omega) (by omega) (by omega) (by omega) (by omega)
    have number : leadBits lead 1 * 64 + (b.toNat - 0x80) = c.toNat := by
      simp only [leadBits]
      omega
    refine ⟨lead, [b], rfl, fun rest => ?_⟩
    have read : continuation (secondBounds lead) (leadBits lead 1) 1 (b :: rest) =
        (1, c.toNat) := by
      rw [continuation_cons second.1 second.2, number]
      rfl
    simp [headChar, starts, read]
  | @three lead b b' large small lead_eq b_eq b_eq' =>
    have starts : following? lead = some 2 := by
      rw [following?_eq, if_neg (by omega), if_neg (by omega), if_pos (by omega)]
    have second : (secondBounds lead).1.toNat ≤ b.toNat ∧ b.toNat ≤ (secondBounds lead).2.toNat :=
      within_secondBounds (by omega) (by omega) (by omega) (by omega) (by omega) (by omega)
    have number : (leadBits lead 2 * 64 + (b.toNat - 0x80)) * 64 + (b'.toNat - 0x80) = c.toNat := by
      simp only [leadBits]
      omega
    refine ⟨lead, [b, b'], rfl, fun rest => ?_⟩
    have read : continuation (secondBounds lead) (leadBits lead 2) 2 (b :: b' :: rest) =
        (2, c.toNat) := by
      rw [continuation_cons second.1 second.2, continuation_cons (third b_eq').1 (third b_eq').2,
        number]
      rfl
    simp [headChar, starts, read]
  | @four lead b b' b'' large small lead_eq b_eq b_eq' b_eq'' =>
    have starts : following? lead = some 3 := by
      rw [following?_eq, if_neg (by omega), if_neg (by omega), if_neg (by omega),
        if_pos (by omega)]
    have second : (secondBounds lead).1.toNat ≤ b.toNat ∧ b.toNat ≤ (secondBounds lead).2.toNat :=
      within_secondBounds (by omega) (by omega) (by omega) (by omega) (by omega) (by omega)
    have number : ((leadBits lead 3 * 64 + (b.toNat - 0x80)) * 64 + (b'.toNat - 0x80)) * 64 +
        (b''.toNat - 0x80) = c.toNat := by
      simp only [leadBits]
      omega
    refine ⟨lead, [b, b', b''], rfl, fun rest => ?_⟩
    have read : continuation (secondBounds lead) (leadBits lead 3) 3 (b :: b' :: b'' :: rest) =
        (3, c.toNat) := by
      rw [continuation_cons second.1 second.2, continuation_cons (third b_eq').1 (third b_eq').2,
        continuation_cons (third b_eq'').1 (third b_eq'').2, number]
      rfl
    simp [headChar, starts, read]

theorem go_flatMap (done chars : List Char) :
    decodeLossy.go done (chars.flatMap String.utf8EncodeChar) = done.reverse ++ chars := by
  induction chars generalizing done with
  | nil => simp [decodeLossy.go]
  | cons c chars ih =>
    obtain ⟨lead, tail, bytes, reads⟩ := headChar_of_sequence (sequence_utf8EncodeChar c)
    rw [List.flatMap_cons, bytes, List.cons_append, decodeLossy.go]
    simp only [reads, List.drop_left]
    rw [ih, List.reverse_cons, List.append_assoc, List.singleton_append]

/-- A text is what its bytes are read as without any check. -/
theorem decodeLossy_encode (text : String) : decodeLossy (encode text) = text := by
  rw [decodeLossy, encode_eq_flatMap, go_flatMap, List.reverse_nil, List.nil_append,
    String.ofList_toList]

end WebServer.Text

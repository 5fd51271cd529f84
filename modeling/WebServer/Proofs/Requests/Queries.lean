import WebServer.Proofs.Requests.PartHeaders
import WebServer.Proofs.Requests.Rendering

/-!
# Escapes and queries

A text with escapes is read in one pass. That is the same as to look at every percent sign first,
to put spaces in place of the plus signs, and to decode what is left then; the escapes do not move
in between. However a text is written with escapes, it is found again, and so are the names and the
values of a query, even if they have the marks of a query in them (`escapes_undone`).
-/
namespace WebServer

namespace Text

/-- Behind every percent sign there are two hexadecimal digits. -/
def WholeEscapes (raw : Bytes) : Prop :=
  ∀ before rest, raw = before ++ 0x25 :: rest →
    ∃ high low more, rest = high :: low :: more ∧
      (Bytes.hexValue? high).isSome = true ∧ (Bytes.hexValue? low).isSome = true

/-- Decodes every whole escape and copies all other bytes. -/
def percentDecode : Bytes → Bytes
  | [] => []
  | b :: rest =>
    if b = 0x25 then
      match rest with
      | high :: low :: more =>
        match Bytes.hexValue? high, Bytes.hexValue? low with
        | some h, some l => (h * 16 + l) :: percentDecode more
        | _, _ => b :: percentDecode (high :: low :: more)
      | short => b :: percentDecode short
    else b :: percentDecode rest

/-- Puts spaces in place of the plus signs, if those stand for spaces. -/
def spaced (plusIsSpace : Bool) (raw : String) : String :=
  if plusIsSpace then String.ofList (raw.toList.map fun c => if c = '+' then ' ' else c) else raw

/-- The same for bytes. -/
def spacedBytes (plusIsSpace : Bool) (raw : Bytes) : Bytes :=
  if plusIsSpace then raw.map fun b => if b = 0x2B then Bytes.space else b else raw

section Passes

variable {plusIsSpace : Bool} {raw bytes : Bytes} {b high low : UInt8}

theorem ne_percent_of_hexValue? (digit : (Bytes.hexValue? b).isSome = true) : b ≠ 0x25 := by
  rintro rfl
  cases digit

theorem ne_plus_of_hexValue? (digit : (Bytes.hexValue? b).isSome = true) : b ≠ 0x2B := by
  rintro rfl
  cases digit

theorem wholeEscapes_nil : WholeEscapes [] := by
  intro before rest split
  simp at split

theorem wholeEscapes_cons (plain : b ≠ 0x25) : WholeEscapes (b :: raw) ↔ WholeEscapes raw := by
  constructor
  · rintro h before rest rfl
    exact h (b :: before) rest rfl
  · intro h before rest split
    cases before with
    | nil => exact absurd (List.cons.inj split).1 plain
    | cons c before => exact h before rest (List.cons.inj split).2

theorem wholeEscapes_escape :
    WholeEscapes (0x25 :: raw) ↔
      ∃ high low more, raw = high :: low :: more ∧ (Bytes.hexValue? high).isSome = true ∧
        (Bytes.hexValue? low).isSome = true ∧ WholeEscapes more := by
  constructor
  · intro h
    obtain ⟨high, low, more, rfl, first, second⟩ := h [] raw rfl
    refine ⟨high, low, more, rfl, first, second, ?_⟩
    rintro before rest rfl
    exact h (0x25 :: high :: low :: before) rest rfl
  · rintro ⟨high, low, more, rfl, first, second, whole⟩ before rest split
    match before with
    | [] =>
      obtain rfl := (List.cons.inj split).2
      exact ⟨high, low, more, rfl, first, second⟩
    | [_] => exact absurd (List.cons.inj (List.cons.inj split).2).1 (ne_percent_of_hexValue? first)
    | [_, _] =>
      have behind := (List.cons.inj (List.cons.inj split).2).2
      exact absurd (List.cons.inj behind).1 (ne_percent_of_hexValue? second)
    | _ :: _ :: _ :: before =>
      have behind := (List.cons.inj (List.cons.inj split).2).2
      exact whole before rest (List.cons.inj behind).2

theorem Escaped.wholeEscapes (h : Escaped plusIsSpace raw bytes) : WholeEscapes raw := by
  induction h with
  | nil => exact wholeEscapes_nil
  | plain percent _ _ ih => exact (wholeEscapes_cons percent).2 ih
  | plus _ _ ih => exact (wholeEscapes_cons (by decide)).2 ih
  | escape first second _ ih =>
    exact wholeEscapes_escape.2 ⟨_, _, _, rfl, by rw [first]; rfl, by rw [second]; rfl, ih⟩

theorem exists_escaped (plusIsSpace : Bool) (whole : WholeEscapes raw) :
    ∃ bytes, Escaped plusIsSpace raw bytes := by
  induction hl : raw.length using Nat.strongRecOn generalizing raw with
  | ind length ih =>
    subst hl
    match raw with
    | [] => exact ⟨[], .nil⟩
    | b :: rest =>
      by_cases percent : b = 0x25
      · subst percent
        obtain ⟨high, low, more, rfl, first, second, whole⟩ := wholeEscapes_escape.1 whole
        obtain ⟨h, first⟩ := Option.isSome_iff_exists.1 first
        obtain ⟨l, second⟩ := Option.isSome_iff_exists.1 second
        have shorter : more.length < (0x25 :: high :: low :: more).length := by
          simp only [List.length_cons]
          omega
        obtain ⟨bytes, escaped⟩ := ih more.length shorter whole rfl
        exact ⟨_, .escape first second escaped⟩
      · obtain ⟨bytes, escaped⟩ :=
          ih rest.length (Nat.lt_succ_self _) ((wholeEscapes_cons percent).1 whole) rfl
        by_cases plus : plusIsSpace = true ∧ b = 0x2B
        · obtain ⟨isSpace, rfl⟩ := plus
          exact ⟨_, .plus isSpace escaped⟩
        · exact ⟨_, .plain percent (fun isSpace same => plus ⟨isSpace, same⟩) escaped⟩

theorem percentDecode_cons (plain : b ≠ 0x25) :
    percentDecode (b :: raw) = b :: percentDecode raw := by
  rw [percentDecode.eq_def]
  simp only [if_neg plain]

theorem percentDecode_escape {h l : UInt8} (first : Bytes.hexValue? high = some h)
    (second : Bytes.hexValue? low = some l) :
    percentDecode (0x25 :: high :: low :: raw) = (h * 16 + l) :: percentDecode raw := by
  rw [percentDecode.eq_def]
  simp only [if_true, first, second]

/-- What a raw text stands for is found by the second pass, when the first one found nothing to
object to. -/
theorem Escaped.percentDecode_eq (h : Escaped plusIsSpace raw bytes) :
    percentDecode (spacedBytes plusIsSpace raw) = bytes := by
  induction h with
  | nil => cases plusIsSpace <;> rfl
  | @plain b raw bytes percent plus _ ih =>
    have kept : spacedBytes plusIsSpace (b :: raw) = b :: spacedBytes plusIsSpace raw := by
      cases plusIsSpace with
      | false => rfl
      | true => simp [spacedBytes, plus rfl]
    rw [kept, percentDecode_cons percent, ih]
  | @plus raw bytes isSpace _ ih =>
    subst isSpace
    have space : spacedBytes true (0x2B :: raw) = Bytes.space :: spacedBytes true raw := rfl
    rw [space, percentDecode_cons (by decide), ih]
  | @escape high low h l raw bytes first second _ ih =>
    have kept : spacedBytes plusIsSpace (0x25 :: high :: low :: raw) =
        0x25 :: high :: low :: spacedBytes plusIsSpace raw := by
      cases plusIsSpace with
      | false => rfl
      | true =>
        have digits : high ≠ 0x2B ∧ low ≠ 0x2B :=
          ⟨ne_plus_of_hexValue? (by rw [first]; rfl), ne_plus_of_hexValue? (by rw [second]; rfl)⟩
        simp [spacedBytes, digits]
    rw [kept, percentDecode_escape first second, ih]

/-- One pass over a raw text comes to the same as two. -/
theorem escaped_iff :
    Escaped plusIsSpace raw bytes ↔
      WholeEscapes raw ∧ bytes = percentDecode (spacedBytes plusIsSpace raw) := by
  constructor
  · exact fun h => ⟨h.wholeEscapes, h.percentDecode_eq.symm⟩
  · rintro ⟨whole, rfl⟩
    obtain ⟨bytes, escaped⟩ := exists_escaped plusIsSpace whole
    rwa [escaped.percentDecode_eq]

end Passes

/-- Plus signs are the same in a text and in its bytes. -/
theorem encode_spaced (plusIsSpace : Bool) (raw : String) :
    encode (spaced plusIsSpace raw) = spacedBytes plusIsSpace (encode raw) := by
  have char (c : Char) : String.utf8EncodeChar (if c = '+' then ' ' else c) =
      (String.utf8EncodeChar c).map fun b => if b = 0x2B then Bytes.space else b := by
    by_cases plus : c = '+'
    · subst plus
      decide
    · have others : ∀ b ∈ String.utf8EncodeChar c, (if b = 0x2B then Bytes.space else b) = b := by
        intro b member
        refine if_neg ?_
        rintro rfl
        have same := (sequence_utf8EncodeChar c).eq_of_ascii (by decide) member
        exact plus (Char.toNat_inj.1 same.symm)
      rw [if_neg plus, List.map_congr_left others, List.map_id']
  cases plusIsSpace with
  | false => rfl
  | true =>
    show encode (String.ofList _) = List.map _ (encode raw)
    rw [encode_eq_flatMap, encode_eq_flatMap, String.toList_ofList, List.flatMap_map,
      List.map_flatMap]
    exact List.flatMap_congr fun c _ => char c

/-- A raw text is read exactly if its escapes are whole and the bytes behind them are those of a
text. -/
theorem standsFor_iff {plusIsSpace : Bool} {raw text : String} :
    StandsFor plusIsSpace raw text ↔
      WholeEscapes (encode raw) ∧
        encode text = percentDecode (encode (spaced plusIsSpace raw)) := by
  rw [encode_spaced]
  exact escaped_iff

/-- What cannot be read has an escape that is not whole, or no text behind its escapes. -/
theorem unescape_eq_error {plusIsSpace : Bool} {raw : String} {fault : EscapeFault}
    (failed : unescape raw plusIsSpace = .error fault) :
    fault = .malformed raw ∧ ¬ WholeEscapes (encode raw) ∨
      fault = .notUtf8 raw ∧ WholeEscapes (encode raw) ∧
        ∀ text, encode text ≠ percentDecode (encode (spaced plusIsSpace raw)) := by
  unfold unescape at failed
  split at failed
  · rename_i unread
    refine .inl ⟨(Except.error.inj failed).symm, fun whole => ?_⟩
    obtain ⟨bytes, escaped⟩ := exists_escaped plusIsSpace whole
    rw [unescapeBytes?_eq_some_iff.2 escaped] at unread
    cases unread
  · rename_i bytes read
    have escaped := unescapeBytes?_eq_some_iff.1 read
    split at failed
    · rename_i noText
      refine .inr ⟨(Except.error.inj failed).symm, escaped.wholeEscapes, fun text same => ?_⟩
      rw [encode_spaced, escaped.percentDecode_eq] at same
      rw [← same, decode?_encode] at noText
      cases noText
    · cases failed

section Writing

variable {keeps : Char → Bool} {plusIsSpace : Bool} {mark : Char}

/-- A byte written as an escape. -/
def escapeByte (b : UInt8) : List Char :=
  ['%', Bytes.hexDigit (b.toNat / 16), Bytes.hexDigit (b.toNat % 16)]

/-- A character that is not kept has an escape for each of its bytes. -/
def escapeChar (keeps : Char → Bool) (c : Char) : List Char :=
  if keeps c then [c] else (String.utf8EncodeChar c).flatMap escapeByte

/-- A text with escapes in place of all characters that are not kept. -/
def escapeBut (keeps : Char → Bool) (text : String) : String :=
  String.ofList (text.toList.flatMap (escapeChar keeps))

/-- An escape stands for its byte. -/
theorem escaped_escapeByte (plusIsSpace : Bool) (b : UInt8) :
    Escaped plusIsSpace ((escapeByte b).flatMap String.utf8EncodeChar) [b] := by
  have digit : ∀ n < 16, ∃ d, String.utf8EncodeChar (Bytes.hexDigit n) = [d] ∧
      Bytes.hexValue? d = some (UInt8.ofNat n) := by
    intro n small
    refine ⟨UInt8.ofNat (Bytes.hexDigit n).toNat, ?_⟩
    revert n
    decide +kernel
  have bound := b.toNat_lt
  obtain ⟨high, first, highValue⟩ := digit (b.toNat / 16) (by omega)
  obtain ⟨low, second, lowValue⟩ := digit (b.toNat % 16) (by omega)
  have value : UInt8.ofNat (b.toNat / 16) * 16 + UInt8.ofNat (b.toNat % 16) = b := by
    apply UInt8.toNat_inj.1
    simp only [UInt8.toNat_add, UInt8.toNat_mul, UInt8.toNat_ofNat']
    simp only [UInt8.reduceToNat]
    omega
  have percent : String.utf8EncodeChar '%' = [0x25] := by decide
  have raw : (escapeByte b).flatMap String.utf8EncodeChar = [0x25, high, low] := by
    simp [escapeByte, percent, first, second]
  rw [raw]
  conv => arg 3; rw [← value]
  exact .escape highValue lowValue .nil

theorem escaped_escapeChar (percent : keeps '%' = false)
    (plus : plusIsSpace = true → keeps '+' = false) (c : Char) :
    Escaped plusIsSpace ((escapeChar keeps c).flatMap String.utf8EncodeChar)
      (String.utf8EncodeChar c) := by
  unfold escapeChar
  split
  · rename_i kept
    have other {b : UInt8} (ascii : b.toNat < 0x80) (dropped : keeps (Char.ofNat b.toNat) = false) :
        b ∉ String.utf8EncodeChar c := fun member => by
      rw [(sequence_utf8EncodeChar c).eq_of_ascii ascii member, Char.ofNat_toNat, kept] at dropped
      cases dropped
    rw [List.flatMap_singleton]
    exact escaped_self (other (by decide) percent) fun isSpace => other (by decide) (plus isSpace)
  · generalize String.utf8EncodeChar c = bytes
    induction bytes with
    | nil => exact .nil
    | cons b bytes ih =>
      rw [List.flatMap_cons, List.flatMap_append]
      exact (escaped_escapeByte plusIsSpace b).append ih

/-- A text is found again behind its escapes, if the marks are not kept. -/
theorem standsFor_escapeBut (percent : keeps '%' = false)
    (plus : plusIsSpace = true → keeps '+' = false) (text : String) :
    StandsFor plusIsSpace (escapeBut keeps text) text := by
  rw [StandsFor, encode_eq_flatMap, encode_eq_flatMap, escapeBut, String.toList_ofList]
  induction text.toList with
  | nil => exact .nil
  | cons c chars ih =>
    rw [List.flatMap_cons, List.flatMap_append, List.flatMap_cons]
    exact (escaped_escapeChar percent plus c).append ih

/-- No other mark gets into a text by its escapes. -/
theorem not_mem_escapeBut (dropped : keeps mark = false) (percent : mark ≠ '%')
    (digit : ∀ n < 16, mark ≠ Bytes.hexDigit n) (text : String) :
    mark ∉ (escapeBut keeps text).toList := by
  rw [escapeBut, String.toList_ofList]
  intro member
  obtain ⟨c, -, among⟩ := List.mem_flatMap.1 member
  unfold escapeChar at among
  split at among
  · rename_i kept
    rw [← List.mem_singleton.1 among, dropped] at kept
    cases kept
  · obtain ⟨b, -, among⟩ := List.mem_flatMap.1 among
    have bound := b.toNat_lt
    simp only [escapeByte, List.mem_cons, List.not_mem_nil, or_false] at among
    rcases among with same | same | same
    · exact percent same
    · exact digit _ (by omega) same
    · exact digit _ (by omega) same

end Writing

end Text

namespace Http.Arguments

open Text (StandsFor escapeBut)

/-- A text for a pair: what stands for its name, `=`, and what stands for its value, without a mark
that would end one of them too early. -/
structure PairText (pair : String × String) (name value : List Char) : Prop where
  nameStands : StandsFor true (String.ofList name) pair.1
  valueStands : StandsFor true (String.ofList value) pair.2
  nameMark : '=' ∉ name
  nameEnd : '&' ∉ name
  valueEnd : '&' ∉ value

/-- A query for pairs: the texts for them, with at least one `&` between two of them. There may be
more before, between and behind them. -/
inductive QueryOf : List (String × String) → List Char → Prop
  | nil : QueryOf [] []
  | gap {pairs : List (String × String)} {query : List Char} (rest : QueryOf pairs query) :
    QueryOf pairs ('&' :: query)
  | last {pair : String × String} {name value : List Char} (text : PairText pair name value) :
    QueryOf [pair] (name ++ '=' :: value)
  | cons {pair : String × String} {name value : List Char} {pairs : List (String × String)}
    {query : List Char} (text : PairText pair name value) (rest : QueryOf pairs query) :
    QueryOf (pair :: pairs) ((name ++ '=' :: value) ++ '&' :: query)

section Reading

variable {pair : String × String} {name value query : List Char} {pairs : List (String × String)}

theorem PairText.readPair_eq (text : PairText pair name value) :
    readPair (name ++ '=' :: value) = .ok pair := by
  rw [readPair, Text.cutOnce?_append text.nameMark]
  exact bind_eq_ok_iff.2 ⟨pair.1, Text.unescape_eq_ok_iff.2 text.nameStands,
    bind_eq_ok_iff.2 ⟨pair.2, Text.unescape_eq_ok_iff.2 text.valueStands, rfl⟩⟩

/-- No `&` is in the text for a pair. -/
theorem PairText.unbroken (text : PairText pair name value) : '&' ∉ name ++ '=' :: value := by
  simp only [List.mem_append, List.mem_cons]
  rintro (inName | mark | inValue)
  · exact text.nameEnd inName
  · cases mark
  · exact text.valueEnd inValue

/-- The pieces of a query that are not empty are read as its pairs, one by one. -/
theorem QueryOf.readPairs (h : QueryOf pairs query) :
    ((query.splitOn '&').filter (!·.isEmpty)).mapM readPair = .ok pairs := by
  rw [mapM_eq_ok_iff]
  induction h with
  | nil => exact .nil
  | @gap pairs query rest ih =>
    have pieces : ('&' :: query).splitOn '&' = [] :: query.splitOn '&' :=
      List.splitOn_append_cons_self_of_not_mem List.not_mem_nil query
    rwa [pieces, List.filter_cons_of_neg (by simp)]
  | last text =>
    rw [List.splitOn_eq_singleton text.unbroken, List.filter_cons_of_pos (by simp)]
    exact .cons text.readPair_eq .nil
  | cons text rest ih =>
    rw [List.splitOn_append_cons_self_of_not_mem text.unbroken, List.filter_cons_of_pos (by simp)]
    exact .cons text.readPair_eq ih

theorem QueryOf.ofQuery_eq (h : QueryOf pairs query) :
    ofQuery (String.ofList query) = .ok ⟨pairs⟩ := by
  rw [ofQuery, String.toList_ofList]
  exact bind_eq_ok_iff.2 ⟨pairs, h.readPairs, rfl⟩

end Reading

/-- The characters that have a meaning in queries. -/
def marks : List Char := ['%', '+', '&', '=']

section Writing

variable {keeps : Char → Bool}

/-- A pair with escapes in place of the characters that are not kept. -/
def writePair (keeps : Char → Bool) (pair : String × String) : List Char :=
  (escapeBut keeps pair.1).toList ++ '=' :: (escapeBut keeps pair.2).toList

/-- The pairs of a query, with one `&` between two of them. -/
def writeQuery (keeps : Char → Bool) (pairs : List (String × String)) : List Char :=
  ['&'].intercalate (pairs.map (writePair keeps))

theorem pairText_escapeBut (dropped : ∀ mark ∈ marks, keeps mark = false)
    (pair : String × String) :
    PairText pair (escapeBut keeps pair.1).toList (escapeBut keeps pair.2).toList := by
  have stands (text : String) :
      StandsFor true (String.ofList (escapeBut keeps text).toList) text := by
    rw [String.ofList_toList]
    exact Text.standsFor_escapeBut (dropped '%' (by decide)) (fun _ => dropped '+' (by decide)) text
  have noEnd (text : String) : '&' ∉ (escapeBut keeps text).toList :=
    Text.not_mem_escapeBut (dropped '&' (by decide)) (by decide) (by decide) text
  exact {
    nameStands := stands pair.1
    valueStands := stands pair.2
    nameMark := Text.not_mem_escapeBut (dropped '=' (by decide)) (by decide) (by decide) pair.1
    nameEnd := noEnd pair.1
    valueEnd := noEnd pair.2 }

theorem queryOf_writeQuery (dropped : ∀ mark ∈ marks, keeps mark = false)
    (pairs : List (String × String)) : QueryOf pairs (writeQuery keeps pairs) := by
  unfold writeQuery
  induction pairs with
  | nil => exact .nil
  | cons pair pairs ih =>
    have text := pairText_escapeBut dropped pair
    cases pairs with
    | nil =>
      rw [List.map_singleton, List.intercalate_singleton]
      exact .last text
    | cons next pairs => exact .cons text ih

end Writing

end Http.Arguments

open Text Http Http.Arguments

/-- Whatever bytes of a text are written as escapes, with digits of either case, it is found again,
as long as each percent sign is; where a plus sign is a space, it has to be written as an escape,
too, and a space may be written as a plus sign. A raw text is read exactly if two digits follow on
every percent sign and what is decoded behind the spaces is the form of a text, and all others are
answered with 400. However pairs are put into a query, with the four marks written as escapes and
any number of `&` between two pairs, the query is read as these pairs in their order. Each text and
all pairs can be written so. -/
theorem escapes_undone :
    (∀ plusIsSpace raw text, StandsFor plusIsSpace raw text → unescape raw plusIsSpace = .ok text) ∧
      (∀ plusIsSpace raw text, unescape raw plusIsSpace = .ok text ↔
        WholeEscapes (encode raw) ∧ encode text = percentDecode (encode (spaced plusIsSpace raw))) ∧
      (∀ plusIsSpace raw, (¬ ∃ text, unescape raw plusIsSpace = .ok text) →
        ∃ fault, unescape raw plusIsSpace = .error fault ∧
          (Failure.request (.escape fault)).status = 400 ∧
          (fault = .malformed raw ∧ ¬ WholeEscapes (encode raw) ∨
            fault = .notUtf8 raw ∧ WholeEscapes (encode raw) ∧
              ∀ text, encode text ≠ percentDecode (encode (spaced plusIsSpace raw)))) ∧
      (∀ pairs query, QueryOf pairs query → ofQuery (String.ofList query) = .ok ⟨pairs⟩) ∧
      ∀ keeps : Char → Bool, (∀ mark ∈ marks, keeps mark = false) →
        (∀ plusIsSpace text, StandsFor plusIsSpace (escapeBut keeps text) text) ∧
          ∀ pairs, QueryOf pairs (writeQuery keeps pairs) := by
  refine ⟨fun plusIsSpace raw text => unescape_eq_ok_iff.2, fun plusIsSpace raw text => ?_, ?_,
    fun pairs query => QueryOf.ofQuery_eq, fun keeps dropped => ⟨fun plusIsSpace text => ?_,
      queryOf_writeQuery dropped⟩⟩
  · rw [unescape_eq_ok_iff, standsFor_iff]
  · intro plusIsSpace raw unread
    cases read : unescape raw plusIsSpace with
    | ok text => exact absurd ⟨text, read⟩ unread
    | error fault => exact ⟨fault, rfl, rfl, unescape_eq_error read⟩
  · exact standsFor_escapeBut (dropped '%' (by decide)) (fun _ => dropped '+' (by decide)) text

/-- Two pairs of the same name and an empty one between them, in which all marks are written. -/
theorem marked_query_read :
    ofQuery "a+b=%C3%bC%26%3d&&=&a%20b=%2B%25" =
      .ok ⟨[("a b", "ü&="), ("", ""), ("a b", "+%")]⟩ := by
  have stands {raw text : String} (read : (unescape raw true).toOption = some text) :
      StandsFor true raw text := by
    refine unescape_eq_ok_iff.1 ?_
    cases whole : unescape raw true with
    | error fault =>
      rw [whole] at read
      cases read
    | ok found =>
      rw [whole] at read
      exact congrArg Except.ok (Option.some.inj read)
  have first : PairText ("a b", "ü&=") "a+b".toList "%C3%bC%26%3d".toList :=
    ⟨stands (by decide +kernel), stands (by decide +kernel), by decide, by decide, by decide⟩
  have empty : PairText ("", "") [] [] :=
    ⟨stands (by decide +kernel), stands (by decide +kernel), by decide, by decide, by decide⟩
  have last : PairText ("a b", "+%") "a%20b".toList "%2B%25".toList :=
    ⟨stands (by decide +kernel), stands (by decide +kernel), by decide, by decide, by decide⟩
  exact escapes_undone.2.2.2.1 _ _ (.cons first (.gap (.cons empty (.last last))))

end WebServer

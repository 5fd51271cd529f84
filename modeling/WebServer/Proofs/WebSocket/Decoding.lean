import WebServer.Proofs.Requests.Elements
import WebServer.WebSocket.Frame

/-!
# Frames as they stand on the wire

What `decode` makes of the first bytes of a stream, told without it: `FrameOn` says which bytes are
a frame of a client, in whatever width its length is written, and `Breaks` what is wrong with bytes
that begin none, with the checks in their order. `decode` finds just that (`decode_eq_some_iff`,
`decode_eq_error_iff`), and asks for more bytes otherwise.
-/
namespace WebServer.WebSocket.Frame

/-- The short length field of a header announces a length: its own value, or what stands in the two
or eight bytes behind it. -/
inductive Announces : Nat → Bytes → Nat → Prop where
  | short {length : Nat} (small : length < 126) : Announces length [] length
  | two {wide : Bytes} (size : wide.length = 2) : Announces 126 wide (Bytes.toNatBE wide)
  | eight {wide : Bytes} (size : wide.length = 8) : Announces 127 wide (Bytes.toNatBE wide)

/-- The two bytes that begin a header: no reserved bit is set, the opcode is known, and the frame
is masked. -/
structure Legible (first second : UInt8) (opcode : Opcode) : Prop where
  plain : first &&& 0x70 = 0
  known : Opcode.ofByte? (first &&& 0x0F) = some opcode
  masked : second &&& 0x80 ≠ 0

/-- The bytes of a header that can be read, with the end mark, the opcode and the length in it. -/
inductive HeaderOn : Bytes → Bool → Opcode → Nat → Prop where
  | of {first second : UInt8} {opcode : Opcode} {wide : Bytes} {length : Nat}
    (legible : Legible first second opcode)
    (announced : Announces (second &&& 0x7F).toNat wide length) :
    HeaderOn (first :: second :: wide) (first &&& 0x80 ≠ 0) opcode length

/-- Control frames are whole and short. -/
def ControlRules (fin : Bool) (opcode : Opcode) (length : Nat) : Prop :=
  opcode.isControl = true → fin = true ∧ length ≤ controlLimit

/-- The bytes of a client's frame that keeps the rules and the limit. -/
inductive FrameOn (limit : Nat) : Bytes → Frame → Prop where
  | of {header key masked : Bytes} {fin : Bool} {opcode : Opcode}
    (read : HeaderOn header fin opcode masked.length)
    (rules : ControlRules fin opcode masked.length) (within : masked.length ≤ limit)
    (four : key.length = 4) :
    FrameOn limit (header ++ (key ++ masked)) ⟨fin, opcode, applyMask key masked⟩

/-- The first thing that is wrong with the frame that these bytes begin. The two bytes that every
header has tell the first three faults, and its length the others, before there is a payload. -/
inductive Breaks (limit : Nat) : Bytes → FrameFault → Prop where
  | reservedBits {first second : UInt8} {rest : Bytes} (set : first &&& 0x70 ≠ 0) :
    Breaks limit (first :: second :: rest) .reservedBits
  | reservedOpcode {first second : UInt8} {rest : Bytes} (plain : first &&& 0x70 = 0)
    (unknown : Opcode.ofByte? (first &&& 0x0F) = none) :
    Breaks limit (first :: second :: rest) (.reservedOpcode (first &&& 0x0F))
  | unmasked {first second : UInt8} {opcode : Opcode} {rest : Bytes} (plain : first &&& 0x70 = 0)
    (known : Opcode.ofByte? (first &&& 0x0F) = some opcode) (clear : second &&& 0x80 = 0) :
    Breaks limit (first :: second :: rest) .unmasked
  | fragmentedControl {header rest : Bytes} {opcode : Opcode} {length : Nat}
    (read : HeaderOn header false opcode length) (control : opcode.isControl = true) :
    Breaks limit (header ++ rest) .fragmentedControl
  | controlTooLong {header rest : Bytes} {opcode : Opcode} {length : Nat}
    (read : HeaderOn header true opcode length) (control : opcode.isControl = true)
    (exceeds : controlLimit < length) : Breaks limit (header ++ rest) (.controlTooLong length)
  | tooBig {header rest : Bytes} {fin : Bool} {opcode : Opcode} {length : Nat}
    (read : HeaderOn header fin opcode length) (rules : ControlRules fin opcode length)
    (exceeds : limit < length) : Breaks limit (header ++ rest) (.tooBig length limit)

variable {limit : Nat} {bytes rest : Bytes} {frame : Frame} {fault : FrameFault}

/-- A wide length field is read where its bytes stand. -/
theorem readWide_eq_some_iff {width length size : Nat} :
    (Bytes.splitExactly? width bytes).map
        (fun (wide, rest) => (Bytes.toNatBE wide, 2 + width, rest)) = some (length, size, rest) ↔
      ∃ wide, wide.length = width ∧ Bytes.toNatBE wide = length ∧ bytes = wide ++ rest ∧
        size = 2 + wide.length := by
  rw [Option.map_eq_some_iff]
  constructor
  · rintro ⟨⟨wide, behind⟩, found, same⟩
    obtain ⟨rfl, rfl⟩ := Bytes.splitExactly?_eq_some_iff.1 found
    simp only [Prod.mk.injEq] at same
    obtain ⟨rfl, rfl, rfl⟩ := same
    exact ⟨wide, rfl, rfl, rfl, rfl⟩
  · rintro ⟨wide, rfl, rfl, rfl, rfl⟩
    exact ⟨(wide, rest), Bytes.splitExactly?_eq_some_iff.2 ⟨rfl, rfl⟩, rfl⟩

theorem readLength?_eq_some_iff {short length size : Nat} (field : short < 128) :
    readLength? short bytes = some (length, size, rest) ↔
      ∃ wide, Announces short wide length ∧ bytes = wide ++ rest ∧ size = 2 + wide.length := by
  unfold readLength?
  by_cases two : short = 126
  · subst two
    rw [if_pos rfl]
    refine readWide_eq_some_iff.trans ⟨?_, ?_⟩
    · rintro ⟨wide, size, rfl, whole, rfl⟩
      exact ⟨wide, .two size, whole, rfl⟩
    · rintro ⟨wide, announced, whole, rfl⟩
      cases announced with
      | short small => omega
      | two size => exact ⟨wide, size, rfl, whole, rfl⟩
  · rw [if_neg two]
    by_cases eight : short = 127
    · subst eight
      rw [if_pos rfl]
      refine readWide_eq_some_iff.trans ⟨?_, ?_⟩
      · rintro ⟨wide, size, rfl, whole, rfl⟩
        exact ⟨wide, .eight size, whole, rfl⟩
      · rintro ⟨wide, announced, whole, rfl⟩
        cases announced with
        | short small => omega
        | eight size => exact ⟨wide, size, rfl, whole, rfl⟩
    · rw [if_neg eight]
      constructor
      · intro same
        simp only [Option.some.injEq, Prod.mk.injEq] at same
        obtain ⟨rfl, rfl, rfl⟩ := same
        exact ⟨[], .short (by omega), rfl, rfl⟩
      · rintro ⟨wide, announced, whole, rfl⟩
        cases announced with
        | short small => rw [whole]; rfl
        | two => omega
        | eight => omega

theorem short_lt (second : UInt8) : (second &&& 0x7F).toNat < 128 := by
  rw [UInt8.toNat_and]
  exact Nat.lt_of_le_of_lt Nat.and_le_right (by decide)

/-- A header is read where one stands, and its size is that of its bytes. -/
theorem readHeader_eq_some_iff {header : Header} :
    readHeader bytes = .ok (some (header, rest)) ↔
      ∃ taken, HeaderOn taken header.fin header.opcode header.length ∧ bytes = taken ++ rest ∧
        header.size = taken.length := by
  constructor
  · intro h
    unfold readHeader at h
    split at h
    · rename_i first second behind
      split at h
      · cases h
      · rename_i plain
        cases known : Opcode.ofByte? (first &&& 0x0F) with
        | none =>
          simp only [known] at h
          cases h
        | some opcode =>
          simp only [known] at h
          split at h
          · cases h
          · rename_i masked
            obtain ⟨⟨length, size, left⟩, read, same⟩ :=
              Option.map_eq_some_iff.1 (Except.ok.inj h)
            obtain ⟨wide, announced, rfl, rfl⟩ := (readLength?_eq_some_iff (short_lt _)).1 read
            simp only [Prod.mk.injEq] at same
            obtain ⟨rfl, rfl⟩ := same
            refine ⟨first :: second :: wide,
              .of ⟨Classical.not_not.1 plain, known, masked⟩ announced, rfl, ?_⟩
            simp only [List.length_cons]
            omega
    · cases h
  · rintro ⟨taken, read, rfl, size⟩
    obtain ⟨fin, opcode, length, _⟩ := header
    simp only at read size
    subst size
    cases read with
    | @of first second _ wide _ legible announced =>
      have length : readLength? (second &&& 0x7F).toNat (wide ++ rest) =
          some (length, 2 + wide.length, rest) :=
        (readLength?_eq_some_iff (short_lt second)).2 ⟨wide, announced, rfl, rfl⟩
      simp only [List.cons_append, readHeader, legible.plain, ne_eq, not_true_eq_false, if_false,
        legible.known, legible.masked, length, Option.map_some, List.length_cons]
      rw [Nat.add_comm 2]

/-- What is wrong with a frame before its length is known. -/
theorem readHeader_eq_error_iff (limit : Nat) :
    readHeader bytes = .error fault ↔
      Breaks limit bytes fault ∧
        (fault = .reservedBits ∨ (∃ opcode, fault = .reservedOpcode opcode) ∨
          fault = .unmasked) := by
  constructor
  · intro h
    unfold readHeader at h
    split at h
    · rename_i first second behind
      split at h
      · rename_i set
        obtain rfl := Except.error.inj h
        exact ⟨.reservedBits set, .inl rfl⟩
      · rename_i plain
        have plain : first &&& 0x70 = 0 := Classical.not_not.1 plain
        cases known : Opcode.ofByte? (first &&& 0x0F) with
        | none =>
          simp only [known] at h
          obtain rfl := Except.error.inj h
          exact ⟨.reservedOpcode plain known, .inr (.inl ⟨_, rfl⟩)⟩
        | some opcode =>
          simp only [known] at h
          split at h
          · rename_i clear
            obtain rfl := Except.error.inj h
            exact ⟨.unmasked plain known clear, .inr (.inr rfl)⟩
          · cases h
    · cases h
  · rintro ⟨breaks, early⟩
    cases breaks with
    | reservedBits set => simp [readHeader, set]
    | reservedOpcode plain unknown => simp [readHeader, plain, unknown]
    | unmasked plain known clear => simp [readHeader, plain, known, clear]
    | fragmentedControl | controlTooLong | tooBig => simp at early

theorem check_eq_ok_iff {header : Header} :
    header.check limit = .ok () ↔
      ControlRules header.fin header.opcode header.length ∧ header.length ≤ limit := by
  obtain ⟨fin, opcode, length, size⟩ := header
  unfold Header.check ControlRules
  cases opcode.isControl with
  | false => simp
  | true =>
    cases fin with
    | false => simp
    | true =>
      simp only [Bool.not_true, Bool.and_false, Bool.false_eq_true, if_false, Bool.true_and]
      by_cases long : controlLimit < length
      · simp [long, Nat.not_le.2 long]
      · simp [long, Nat.not_lt.1 long]

/-- What is wrong with a frame once its length is known. -/
theorem breaks_of_check {header : Header} {taken : Bytes}
    (read : HeaderOn taken header.fin header.opcode header.length) (rest : Bytes)
    (h : header.check limit = .error fault) : Breaks limit (taken ++ rest) fault := by
  obtain ⟨fin, opcode, length, size⟩ := header
  simp only at read
  unfold Header.check at h
  split at h
  · rename_i fragmented
    obtain rfl := Except.error.inj h
    obtain ⟨control, more⟩ := Bool.and_eq_true_iff.1 fragmented
    obtain rfl : fin = false := by simpa using more
    exact .fragmentedControl read control
  · rename_i whole
    split at h
    · rename_i long
      obtain rfl := Except.error.inj h
      obtain ⟨control, exceeds⟩ := Bool.and_eq_true_iff.1 long
      obtain rfl : fin = true := by simpa [control] using whole
      exact .controlTooLong read control (of_decide_eq_true exceeds)
    · rename_i short
      split at h
      · rename_i exceeds
        obtain rfl := Except.error.inj h
        refine .tooBig read (fun control => ?_) exceeds
        simpa [control] using And.intro whole short
      · cases h

/-- A frame is found exactly where one stands. -/
theorem decode_eq_some_iff {used : Nat} :
    decode limit bytes = .ok (some (frame, used)) ↔
      ∃ taken rest, FrameOn limit taken frame ∧ bytes = taken ++ rest ∧ used = taken.length := by
  constructor
  · intro h
    unfold decode at h
    obtain ⟨_ | ⟨⟨fin, opcode, length, size⟩, behind⟩, read, later⟩ := bind_eq_ok_iff.1 h
    · cases later
    · obtain ⟨⟨⟩, checked, last⟩ := bind_eq_ok_iff.1 later
      obtain ⟨rules, within⟩ := check_eq_ok_iff.1 checked
      obtain ⟨header, header_on, rfl, rfl⟩ := readHeader_eq_some_iff.1 read
      split at last
      · cases last
      · rename_i key payload keyed
        obtain ⟨four, rfl⟩ := Bytes.splitExactly?_eq_some_iff.1 keyed
        split at last
        · cases last
        · rename_i masked rest masks
          obtain ⟨rfl, rfl⟩ := Bytes.splitExactly?_eq_some_iff.1 masks
          obtain ⟨rfl, rfl⟩ := Prod.mk.inj (Option.some.inj (Except.ok.inj last))
          refine ⟨_, rest, .of header_on rules within four, by simp, ?_⟩
          simp [Header.frameSize, four, Nat.add_assoc]
  · rintro ⟨_, rest, on, rfl, rfl⟩
    cases on with
    | @of header key masked fin opcode header_on rules within four =>
      have read : readHeader (header ++ (key ++ (masked ++ rest))) =
          .ok (some (⟨fin, opcode, masked.length, header.length⟩, key ++ (masked ++ rest))) :=
        readHeader_eq_some_iff.2 ⟨header, header_on, rfl, rfl⟩
      have checked : Header.check limit ⟨fin, opcode, masked.length, header.length⟩ = .ok () :=
        check_eq_ok_iff.2 ⟨rules, within⟩
      have keyed : Bytes.splitExactly? 4 (key ++ (masked ++ rest)) = some (key, masked ++ rest) :=
        Bytes.splitExactly?_eq_some_iff.2 ⟨four, rfl⟩
      have masks : Bytes.splitExactly? masked.length (masked ++ rest) = some (masked, rest) :=
        Bytes.splitExactly?_eq_some_iff.2 ⟨rfl, rfl⟩
      unfold decode
      rw [List.append_assoc, List.append_assoc]
      simp only [read, checked, keyed, masks, bind, Except.bind, pure, Except.pure,
        Header.frameSize, List.length_append, four, Nat.add_assoc]

/-- A fault is found exactly where one is, and it is the first. -/
theorem decode_eq_error_iff : decode limit bytes = .error fault ↔ Breaks limit bytes fault := by
  constructor
  · intro h
    unfold decode at h
    rcases bind_eq_error_iff.1 h with early | ⟨_ | ⟨header, behind⟩, read, later⟩
    · exact ((readHeader_eq_error_iff limit).1 early).1
    · cases later
    · obtain ⟨taken, header_on, rfl, -⟩ := readHeader_eq_some_iff.1 read
      rcases bind_eq_error_iff.1 later with wrong | ⟨⟨⟩, -, last⟩
      · exact breaks_of_check header_on behind wrong
      · split at last
        · cases last
        · split at last <;> cases last
  · intro breaks
    have early (told : fault = .reservedBits ∨ (∃ opcode, fault = .reservedOpcode opcode) ∨
        fault = .unmasked) : decode limit bytes = .error fault := by
      unfold decode
      exact bind_eq_error_iff.2 (.inl ((readHeader_eq_error_iff limit).2 ⟨breaks, told⟩))
    have late {header rest : Bytes} {fin : Bool} {opcode : Opcode} {length : Nat}
        (read : HeaderOn header fin opcode length) (whole : bytes = header ++ rest)
        (wrong : Header.check limit ⟨fin, opcode, length, header.length⟩ = .error fault) :
        decode limit bytes = .error fault := by
      have opened : readHeader bytes =
          .ok (some (⟨fin, opcode, length, header.length⟩, rest)) :=
        readHeader_eq_some_iff.2 ⟨header, read, whole, rfl⟩
      unfold decode
      simp only [opened, wrong, bind, Except.bind]
    cases breaks with
    | reservedBits set => exact early (.inl rfl)
    | reservedOpcode plain unknown => exact early (.inr (.inl ⟨_, rfl⟩))
    | unmasked plain known clear => exact early (.inr (.inr rfl))
    | fragmentedControl read control =>
      exact late read rfl (by simp [Header.check, control])
    | controlTooLong read control exceeds =>
      exact late read rfl (by simp [Header.check, control, exceeds])
    | @tooBig header rest fin opcode length read rules exceeds =>
      refine late read rfl ?_
      by_cases control : opcode.isControl = true
      · obtain ⟨rfl, short⟩ := rules control
        simp [Header.check, Nat.not_lt.2 short, exceeds]
      · simp [Header.check, control, exceeds]

end WebServer.WebSocket.Frame

import WebServer.Proofs.WebSocket.Codec

/-!
# Verdicts on frames

A frame is judged while its bytes are still coming in. A verdict once given, be it a frame or a
fault, is never taken back by what comes behind (`decode_append_of_settled`), and as long as a byte
of a frame is missing there is none (`decode_strict_prefix`). `decode_settled` joins both with the
way back from what a client wrote.
-/
namespace WebServer.WebSocket.Frame

variable {limit : Nat} {bytes : Bytes}

/-- More bytes change nothing where there is a verdict. -/
theorem decode_append_of_settled (settled : decode limit bytes ≠ .ok none) (more : Bytes) :
    decode limit (bytes ++ more) = decode limit bytes := by
  cases verdict : decode limit bytes with
  | error fault => exact decode_append_of_error verdict more
  | ok found =>
    cases found with
    | none => exact absurd verdict settled
    | some found => exact decode_append verdict more

/-- A frame that takes all bytes is not found in fewer, and no fault is found in them either. -/
theorem decode_strict_prefix {frame : Frame}
    (whole : decode limit bytes = .ok (some (frame, bytes.length))) {part : Bytes}
    (begins : part <+: bytes) (strict : part ≠ bytes) : decode limit part = .ok none := by
  by_contra settled
  obtain ⟨missing, rfl⟩ := begins
  -- What was found in the part would have been found in the whole.
  have early : decode limit part = .ok (some (frame, (part ++ missing).length)) :=
    (decode_append_of_settled settled missing).symm.trans whole
  have within : (part ++ missing).length ≤ part.length := (decode_used early).2
  have none : missing = [] := by
    apply List.eq_nil_of_length_eq_zero
    rw [List.length_append] at within
    omega
  apply strict
  rw [none, List.append_nil]

/-- What a client writes is read back from all of it and from no less, whatever follows, and every
verdict on any bytes is final. -/
theorem decode_settled (limit : Nat) :
    (∀ (frame : Frame) (key : Bytes), frame.Lawful → frame.payload.length ≤ limit →
      frame.payload.length < 2 ^ 64 → key.length = 4 →
        (∀ rest, decode limit (frame.encodeMasked key ++ rest) =
          .ok (some (frame, (frame.encodeMasked key).length))) ∧
        ∀ part, part <+: frame.encodeMasked key → part ≠ frame.encodeMasked key →
          decode limit part = .ok none) ∧
      ∀ bytes, decode limit bytes ≠ .ok none →
        (∀ more, decode limit (bytes ++ more) = decode limit bytes) ∧
        ∀ frame used, decode limit bytes = .ok (some (frame, used)) → used ≤ bytes.length := by
  constructor
  · intro frame key lawful within fits four
    have reads := decode_encodeMasked lawful within fits four
    have whole := reads []
    rw [List.append_nil] at whole
    exact ⟨reads, fun part => decode_strict_prefix whole⟩
  · intro bytes settled
    exact ⟨decode_append_of_settled settled, fun frame used found => (decode_used found).2⟩

/-- A piece of a message whose length just takes two bytes, with the limit at its length. Without
the last byte of its mask there is no verdict, and with the first byte of another frame behind it
the verdict is the same. -/
theorem two_byte_length_settled :
    let frame : Frame := ⟨false, .binary, List.replicate 126 7⟩
    let key : Bytes := [0x37, 0xFA, 0x21, 0x3D]
    decode 126 (frame.encodeMasked key ++ [0x81]) = .ok (some (frame, 134)) ∧
      decode 126 [0x02, 0xFE, 0, 126, 0x37, 0xFA, 0x21] = .ok none ∧
        decode 126 [0x02, 0xFE, 0, 127] = .error (.tooBig 127 126) ∧
        decode 126 ([0x02, 0xFE, 0, 127] ++ key) = .error (.tooBig 127 126) := by
  intro frame key
  have codec := decode_settled 126
  have length : frame.payload.length = 126 := List.length_replicate
  obtain ⟨reads, waits⟩ := codec.1 frame key (.of_data rfl) (Nat.le_of_eq length)
    (by rw [length]; decide) rfl
  have size : (frame.encodeMasked key).length = 134 := by decide +kernel
  have refused : decode 126 [0x02, 0xFE, 0, 127] = .error (.tooBig 127 126) := by decide
  refine ⟨?_, ?_, refused, ?_⟩
  · rw [reads, size]
  · exact waits _ (by decide +kernel) (by decide +kernel)
  · rw [(codec.2 _ (by rw [refused]; nofun)).1, refused]

end WebServer.WebSocket.Frame

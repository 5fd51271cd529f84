import Mathlib.Algebra.Group.Nat.Defs
import WebServer.Proofs.Stream.Prefixes
import WebServer.Proofs.Text.Utf8

/-!
# Reading what a client writes

A client writes a frame with the length in the narrowest width and masks it with a key of its own
choice. `decode_encodeMasked` reads back what was written, whatever follows it. It is put together
from what each part of the header gives: the two bytes with their bits, the length behind them, the
rules, and the mask that undoes itself.
-/
namespace WebServer

namespace Bytes

theorem length_ofNatBE (width n : Nat) : (ofNatBE width n).length = width := by
  induction width generalizing n with
  | zero => rfl
  | succ width ih => simp [ofNatBE, ih]

theorem toNatBE_append (bytes : Bytes) (b : UInt8) :
    toNatBE (bytes ++ [b]) = toNatBE bytes * 256 + b.toNat := by
  simp [toNatBE]

/-- A number that fits into some bytes is read back from them. -/
theorem toNatBE_ofNatBE {width n : Nat} (h : n < 256 ^ width) :
    toNatBE (ofNatBE width n) = n := by
  induction width generalizing n with
  | zero =>
    rw [Nat.pow_zero] at h
    have : n = 0 := by omega
    subst this
    rfl
  | succ width ih =>
    have high : n / 256 < 256 ^ width := by
      rw [Nat.pow_succ] at h
      exact Nat.div_lt_of_lt_mul (by rwa [Nat.mul_comm])
    have low : ((n % 256).toUInt8).toNat = n % 256 := by
      have : n % 256 < 256 := Nat.mod_lt _ (by decide)
      simp
    rw [ofNatBE, toNatBE_append, ih high, low]
    omega

theorem splitExactly?_of_length {n : Nat} {a : Bytes} (h : a.length = n) (b : Bytes) :
    splitExactly? n (a ++ b) = some (a, b) :=
  splitExactly?_eq_some_iff.2 ⟨h, rfl⟩

end Bytes

namespace WebSocket.Frame

/-- The same mask twice is none. -/
theorem applyMask_applyMask (key data : Bytes) : applyMask key (applyMask key data) = data := by
  refine List.ext_getElem (by simp [applyMask]) fun i _ _ => ?_
  simp only [applyMask, List.getElem_mapIdx, UInt8.xor_assoc, UInt8.xor_self, UInt8.xor_zero]

theorem length_applyMask (key data : Bytes) : (applyMask key data).length = data.length :=
  List.length_mapIdx

/-- The bits of the first byte of a header. -/
theorem first_bits (opcode : Opcode) (fin : Bool) :
    let first := opcode.toByte ||| if fin then 0x80 else 0
    first &&& 0x70 = 0 ∧ Opcode.ofByte? (first &&& 0x0F) = some opcode ∧
      (decide (first &&& 0x80 ≠ 0) = fin) := by
  cases opcode <;> cases fin <;> decide

/-- The bits of the second byte, which holds a short length and the mark of a mask. -/
theorem second_bits : ∀ short < 128, ((0x80 : UInt8) ||| short.toUInt8) &&& 0x80 ≠ 0 ∧
    (((0x80 : UInt8) ||| short.toUInt8) &&& 0x7F).toNat = short := by
  decide

/-- What `headerBytes` writes of the length: the short field and the bytes behind it. -/
def lengthField (length : Nat) : Nat × Bytes :=
  if length < 126 then (length, [])
  else if length < 0x10000 then (126, Bytes.ofNatBE 2 length)
  else (127, Bytes.ofNatBE 8 length)

theorem lengthField_lt (length : Nat) : (lengthField length).1 < 128 := by
  unfold lengthField
  split
  · omega
  · split <;> simp

theorem headerBytes_eq (frame : Frame) :
    frame.headerBytes true =
      (frame.opcode.toByte ||| if frame.fin then 0x80 else 0) ::
        (0x80 ||| (lengthField frame.payload.length).1.toUInt8) ::
          (lengthField frame.payload.length).2 := by
  unfold headerBytes lengthField
  simp only [if_true]
  split
  · rfl
  · split <;> rfl

/-- A length is read back from its field. -/
theorem readLength?_lengthField {length : Nat} (fits : length < 2 ^ 64) (rest : Bytes) :
    readLength? (lengthField length).1 ((lengthField length).2 ++ rest) =
      some (length, 2 + (lengthField length).2.length, rest) := by
  unfold lengthField
  by_cases short : length < 126
  · rw [if_pos short]
    unfold readLength?
    rw [if_neg (by omega), if_neg (by omega)]
    rfl
  · rw [if_neg short]
    by_cases wide : length < 0x10000
    · rw [if_pos wide]
      have read := Bytes.splitExactly?_of_length (Bytes.length_ofNatBE 2 length) rest
      have value : Bytes.toNatBE (Bytes.ofNatBE 2 length) = length := Bytes.toNatBE_ofNatBE wide
      simp only [readLength?, if_true, read, Option.map_some, value, Bytes.length_ofNatBE]
    · rw [if_neg wide]
      have read := Bytes.splitExactly?_of_length (Bytes.length_ofNatBE 8 length) rest
      have value : Bytes.toNatBE (Bytes.ofNatBE 8 length) = length := Bytes.toNatBE_ofNatBE fits
      simp [readLength?, read, value, Bytes.length_ofNatBE]

/-- The header of a frame that a client wrote. -/
theorem readHeader_headerBytes (frame : Frame) (fits : frame.payload.length < 2 ^ 64)
    (rest : Bytes) :
    readHeader (frame.headerBytes true ++ rest) =
      .ok (some (⟨frame.fin, frame.opcode, frame.payload.length,
        (frame.headerBytes true).length⟩, rest)) := by
  obtain ⟨reserved, opcode, fin⟩ := first_bits frame.opcode frame.fin
  obtain ⟨masked, short⟩ := second_bits _ (lengthField_lt frame.payload.length)
  have length := readLength?_lengthField fits rest
  rw [headerBytes_eq, List.cons_append, List.cons_append]
  unfold readHeader
  simp only [reserved, ne_eq, not_true_eq_false, if_false, opcode, masked, short, length,
    Option.map_some, List.length_cons]
  simp only [ne_eq] at fin
  rw [fin, Nat.add_comm 2]

/-- A frame that keeps the rules for its opcode. -/
def Lawful (frame : Frame) : Prop :=
  frame.opcode.isControl = true → frame.fin = true ∧ frame.payload.length ≤ controlLimit

theorem Lawful.of_data {frame : Frame} (data : frame.opcode.isControl = false) : frame.Lawful := by
  intro control
  rw [data] at control
  cases control

/-- The header that a client writes in front of a frame. -/
def header (frame : Frame) : Header :=
  ⟨frame.fin, frame.opcode, frame.payload.length, (frame.headerBytes true).length⟩

theorem length_encodeMasked (frame : Frame) {key : Bytes} (four : key.length = 4) :
    (frame.encodeMasked key).length = frame.header.frameSize := by
  simp [encodeMasked, header, Header.frameSize, length_applyMask, four, Nat.add_assoc]

/-- Of what a client wrote only the rules can refuse a frame. -/
theorem decode_written (frame : Frame) (fits : frame.payload.length < 2 ^ 64) (limit : Nat)
    {key : Bytes} (four : key.length = 4) (rest : Bytes) :
    decode limit (frame.encodeMasked key ++ rest) =
      (frame.header.check limit).map fun _ => some (frame, (frame.encodeMasked key).length) := by
  have written : readHeader (frame.headerBytes true ++
      (key ++ (applyMask key frame.payload ++ rest))) =
        .ok (some (frame.header, key ++ (applyMask key frame.payload ++ rest))) :=
    readHeader_headerBytes frame fits _
  have readKey := Bytes.splitExactly?_of_length four (applyMask key frame.payload ++ rest)
  have readPayload : Bytes.splitExactly? frame.header.length
      (applyMask key frame.payload ++ rest) = some (applyMask key frame.payload, rest) :=
    Bytes.splitExactly?_of_length (length_applyMask key frame.payload) rest
  unfold decode
  rw [length_encodeMasked frame four, encodeMasked, List.append_assoc, List.append_assoc, written]
  cases checked : frame.header.check limit with
  | error fault => simp only [checked, bind, Except.bind, Except.map]
  | ok =>
    simp only [checked, readKey, readPayload, bind, Except.bind, pure, Except.pure, Except.map,
      applyMask_applyMask]
    rfl

theorem Lawful.check {frame : Frame} (lawful : frame.Lawful) {limit : Nat}
    (within : frame.payload.length ≤ limit) : frame.header.check limit = .ok () := by
  unfold header Header.check
  by_cases control : frame.opcode.isControl = true
  · obtain ⟨fin, short⟩ := lawful control
    simp [fin, Nat.not_lt.2 short, Nat.not_lt.2 within]
  · simp [control, Nat.not_lt.2 within]

/-- A frame is read back from what a client wrote, whatever follows it. -/
theorem decode_encodeMasked {frame : Frame} (lawful : frame.Lawful) {limit : Nat}
    (within : frame.payload.length ≤ limit) (fits : frame.payload.length < 2 ^ 64) {key : Bytes}
    (four : key.length = 4) (rest : Bytes) :
    decode limit (frame.encodeMasked key ++ rest) =
      .ok (some (frame, (frame.encodeMasked key).length)) := by
  rw [decode_written frame fits limit four, lawful.check within]
  rfl

end WebSocket.Frame
end WebServer

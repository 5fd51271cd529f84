import Mathlib.Algebra.Group.Nat.Defs
import WebServer.WebSocket.Conversation

/-!
# Reasons of a close

A close frame has room for a reason of `reasonLimit` bytes, and a close with a longer one is
refused. The reasons that the server gives for a fault of the peer name lengths and limits, but a
length comes from a header of at most eight length bytes, so that all of them fit.
-/
namespace WebServer

theorem Bytes.toNatBE_lt (bytes : Bytes) : Bytes.toNatBE bytes < 256 ^ bytes.length := by
  suffices ∀ n, bytes.foldl (fun n b => n * 256 + b.toNat) n < (n + 1) * 256 ^ bytes.length by
    simpa [Bytes.toNatBE] using this 0
  induction bytes with
  | nil => simp
  | cons b bytes ih =>
    intro n
    have byte : b.toNat < 256 := b.toNat_lt
    have next : n * 256 + b.toNat + 1 ≤ (n + 1) * 256 := by omega
    calc bytes.foldl (fun n b => n * 256 + b.toNat) (n * 256 + b.toNat)
        < (n * 256 + b.toNat + 1) * 256 ^ bytes.length := ih _
      _ ≤ (n + 1) * 256 * 256 ^ bytes.length := Nat.mul_le_mul_right _ next
      _ = (n + 1) * 256 ^ (b :: bytes).length := by
        rw [List.length_cons, Nat.pow_succ', Nat.mul_assoc]

/-- A number below a power of ten takes no more bytes than that power says. -/
theorem utf8ByteSize_repr_le {n k : Nat} (pos : 0 < k) (h : n < 10 ^ k) :
    n.repr.utf8ByteSize ≤ k := by
  have digit (d : Nat) (h : d < 10) : (String.singleton d.digitChar).utf8ByteSize = 1 := by
    match d with
    | 0 | 1 | 2 | 3 | 4 | 5 | 6 | 7 | 8 | 9 => rfl
  induction k generalizing n with
  | zero => omega
  | succ k ih =>
    rcases Nat.lt_or_ge n 10 with small | large
    · rw [Nat.repr_of_lt small, digit n small]
      omega
    · have shorter : n / 10 < 10 ^ k := by
        rw [Nat.pow_succ'] at h
        exact Nat.div_lt_of_lt_mul h
      have more : 0 < k := by
        rcases Nat.eq_zero_or_pos k with rfl | more
        · omega
        · exact more
      have := ih more shorter
      rw [Nat.repr_of_ge large, String.utf8ByteSize_append, digit (n % 10) (by omega)]
      omega

theorem utf8ByteSize_ofList_le (chars : List Char) :
    (String.ofList chars).utf8ByteSize ≤ 4 * chars.length := by
  induction chars with
  | nil => simp
  | cons c chars ih =>
    have := c.utf8Size_le_four
    rw [String.ofList_cons, String.utf8ByteSize_append, List.length_cons]
    have single : (String.singleton c).utf8ByteSize = c.utf8Size := by simp
    omega

namespace WebSocket

open WebServer.WebSocket.Frame

theorem header_length_lt {bytes rest : Bytes} {header : Header}
    (h : readHeader bytes = .ok (some (header, rest))) : header.length < 2 ^ 64 := by
  have short (b : UInt8) : (b &&& 0x7F).toNat < 2 ^ 64 :=
    Nat.lt_of_lt_of_le (b &&& 0x7F).toNat_lt (by decide)
  unfold readHeader at h
  split at h
  · split at h
    · cases h
    · split at h
      · cases h
      · split at h
        · cases h
        · obtain ⟨⟨length, size, tail⟩, read, same⟩ := Option.map_eq_some_iff.1 (Except.ok.inj h)
          obtain ⟨rfl, rfl⟩ := Prod.mk.inj same
          unfold readLength? at read
          split at read
          · obtain ⟨⟨wide, tail⟩, split, same⟩ := Option.map_eq_some_iff.1 read
            obtain ⟨rfl, rfl, rfl⟩ := by simpa using same
            have := Bytes.toNatBE_lt wide
            rw [(Bytes.splitExactly?_length split).1] at this
            exact Nat.lt_trans this (by decide)
          · split at read
            · obtain ⟨⟨wide, tail⟩, split, same⟩ := Option.map_eq_some_iff.1 read
              obtain ⟨rfl, rfl, rfl⟩ := by simpa using same
              have := Bytes.toNatBE_lt wide
              rwa [(Bytes.splitExactly?_length split).1] at this
            · obtain ⟨rfl, rfl, rfl⟩ := by simpa using read
              exact short _
  · cases h

/-- The bytes of a text that has a number in it. -/
theorem utf8ByteSize_around_le {before behind number : String} {n : Nat}
    (h : number.utf8ByteSize ≤ n) :
    (before ++ number ++ behind).utf8ByteSize ≤ before.utf8ByteSize + n + behind.utf8ByteSize := by
  rw [String.utf8ByteSize_append, String.utf8ByteSize_append]
  omega

/-- The numbers that a fault tells of have at most eight bytes. -/
def FrameFault.Sized : FrameFault → Prop
  | .controlTooLong length => length < 2 ^ 64
  | .tooBig length limit => length < 2 ^ 64 ∧ limit < 2 ^ 64
  | .unmasked | .reservedBits | .reservedOpcode _ | .fragmentedControl | .badClosePayload => True

/-- What is said of a fault fits a close frame. -/
theorem FrameFault.Sized.message_le {fault : FrameFault} (sized : fault.Sized) :
    fault.message.utf8ByteSize ≤ reasonLimit := by
  have number {n : Nat} (h : n < 2 ^ 64) : n.repr.utf8ByteSize ≤ 20 :=
    utf8ByteSize_repr_le (by decide) (Nat.lt_trans h (by decide))
  cases fault with
  | unmasked | reservedBits | fragmentedControl | badClosePayload => decide
  | reservedOpcode opcode =>
    have digits : (Nat.toDigits 16 opcode.toNat).length ≤ 2 :=
      (Nat.length_toDigits_le_iff (by decide) (by decide)).2
        (Nat.lt_of_lt_of_le opcode.toNat_lt (by decide))
    have name : (String.ofList (Nat.toDigits 16 opcode.toNat)).utf8ByteSize ≤ 8 :=
      Nat.le_trans (utf8ByteSize_ofList_le _) (Nat.mul_le_mul_left 4 digits)
    have told : (FrameFault.reservedOpcode opcode).message =
        "reserved opcode 0x" ++ String.ofList (Nat.toDigits 16 opcode.toNat) := rfl
    rw [told, String.utf8ByteSize_append]
    exact Nat.le_trans (Nat.add_le_add_left name _) (by decide)
  | controlTooLong length =>
    have told : (FrameFault.controlTooLong length).message =
        "control frame payload of " ++ length.repr ++ " bytes exceeds 125" := rfl
    rw [told]
    exact Nat.le_trans (utf8ByteSize_around_le (number sized)) (by decide)
  | tooBig length limit =>
    have told : (FrameFault.tooBig length limit).message =
        "frame payload of " ++ length.repr ++ " bytes exceeds the " ++ limit.repr ++
          " byte limit" := rfl
    rw [told]
    refine Nat.le_trans (utf8ByteSize_around_le (number sized.2)) ?_
    refine Nat.le_trans (Nat.add_le_add_right (Nat.add_le_add_right
      (utf8ByteSize_around_le (number sized.1)) _) _) (by decide)

theorem sized_of_readHeader {bytes : Bytes} {fault : FrameFault}
    (h : readHeader bytes = .error fault) : fault.Sized := by
  unfold readHeader at h
  split at h
  · split at h
    · obtain rfl := Except.error.inj h
      trivial
    · split at h
      · obtain rfl := Except.error.inj h
        trivial
      · split at h
        · obtain rfl := Except.error.inj h
          trivial
        · cases h
  · cases h

/-- A limit that a length exceeds is no longer than that. -/
theorem sized_of_check {limit : Nat} {header : Header} {fault : FrameFault}
    (length : header.length < 2 ^ 64) (h : header.check limit = .error fault) : fault.Sized := by
  unfold Header.check at h
  split at h
  · obtain rfl := Except.error.inj h
    trivial
  · split at h
    · obtain rfl := Except.error.inj h
      exact length
    · split at h
      · rename_i tooBig
        obtain rfl := Except.error.inj h
        exact ⟨length, Nat.lt_trans tooBig length⟩
      · cases h

theorem sized_of_decode {limit : Nat} {bytes : Bytes} {fault : FrameFault}
    (h : decode limit bytes = .error fault) : fault.Sized := by
  unfold decode at h
  match read : readHeader bytes with
  | .error cause =>
    simp only [read, bind, Except.bind, Except.error.injEq] at h
    subst h
    exact sized_of_readHeader read
  | .ok none => simp [read, bind, Except.bind, pure, Except.pure] at h
  | .ok (some (header, rest)) =>
    simp only [read, bind, Except.bind] at h
    match check : header.check limit with
    | .error cause =>
      simp only [check, Except.error.injEq] at h
      subst h
      exact sized_of_check (header_length_lt read) check
    | .ok () =>
      simp only [check] at h
      split at h
      · cases h
      · split at h <;> cases h

/-- The same of all that may be wrong. -/
def Violation.Sized : Violation → Prop
  | .frame fault => fault.Sized
  | .interrupted | .nothingToContinue | .messageTooBig | .notUtf8 => True

theorem Violation.Sized.reason_le {violation : Violation} (sized : violation.Sized) :
    violation.reason.utf8ByteSize ≤ reasonLimit := by
  cases violation with
  | frame fault => exact FrameFault.Sized.message_le sized
  | interrupted | nothingToContinue | messageTooBig | notUtf8 => decide

/-- A frame that is refused is refused with a reason that fits. -/
theorem message_le_of_decode {limit : Nat} {bytes : Bytes} {fault : FrameFault}
    (h : decode limit bytes = .error fault) : fault.message.utf8ByteSize ≤ reasonLimit :=
  (sized_of_decode h).message_le

end WebSocket
end WebServer

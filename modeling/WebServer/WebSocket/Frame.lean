import WebServer.WebSocket.CloseCode

/-!
# Frames

A frame is a header, the four bytes of a mask if a client sent it, and a payload. The header holds
the opcode, whether the frame ends its message, and the length in one of three widths. `decode`
reads one frame of a client and judges the header as soon as it is complete.
-/
namespace WebServer.WebSocket

inductive Opcode where
  | continuation | text | binary | close | ping | pong
  deriving DecidableEq, Repr

namespace Opcode

def ofByte? (b : UInt8) : Option Opcode :=
  match b.toNat with
  | 0 => some .continuation
  | 1 => some .text
  | 2 => some .binary
  | 8 => some .close
  | 9 => some .ping
  | 10 => some .pong
  | _ => none

def toByte : Opcode → UInt8
  | .continuation => 0
  | .text => 1
  | .binary => 2
  | .close => 8
  | .ping => 9
  | .pong => 10

def isControl : Opcode → Bool
  | .close | .ping | .pong => true
  | .continuation | .text | .binary => false

end Opcode

/-- The longest payload of a control frame. -/
def controlLimit : Nat := 125

/-- What a client's frame can do wrong. -/
inductive FrameFault where
  | unmasked | reservedBits
  | reservedOpcode (opcode : UInt8)
  | fragmentedControl
  | controlTooLong (length : Nat)
  | tooBig (length limit : Nat)
  | badClosePayload
  deriving DecidableEq, Repr

namespace FrameFault

def message : FrameFault → String
  | .unmasked => "client frame is not masked"
  | .reservedBits => "reserved bits set without a negotiated extension"
  | .reservedOpcode opcode =>
    "reserved opcode 0x" ++ String.ofList (Nat.toDigits 16 opcode.toNat)
  | .fragmentedControl => "fragmented control frame"
  | .controlTooLong length => s!"control frame payload of {length} bytes exceeds 125"
  | .tooBig length limit => s!"frame payload of {length} bytes exceeds the {limit} byte limit"
  | .badClosePayload => "close frame payload of one byte"

/-- The code with which the server closes. -/
def closeCode : FrameFault → CloseCode
  | .tooBig .. => .tooBig
  | _ => .protocolError

end FrameFault

structure Frame where
  fin : Bool
  opcode : Opcode
  payload : Bytes
  deriving DecidableEq, Repr

namespace Frame

/-- Combines the data with the key, over and over. Doing it twice restores the data. -/
def applyMask (key : Bytes) (data : Bytes) : Bytes :=
  data.mapIdx fun i b => b ^^^ key.getD (i % 4) 0

/-- What a header says. `size` counts its bytes, without the mask. -/
structure Header where
  fin : Bool
  opcode : Opcode
  length : Nat
  size : Nat
  deriving DecidableEq, Repr

/-- The payload's length from the short length field and the bytes behind it, with the size of
the header and the bytes that follow it. -/
def readLength? (short : Nat) (rest : Bytes) : Option (Nat × Nat × Bytes) :=
  if short = 126 then
    (Bytes.splitExactly? 2 rest).map fun (wide, rest) => (Bytes.toNatBE wide, 4, rest)
  else if short = 127 then
    (Bytes.splitExactly? 8 rest).map fun (wide, rest) => (Bytes.toNatBE wide, 10, rest)
  else some (short, 2, rest)

/-- The rules that a complete header must keep. -/
def Header.check (limit : Nat) (header : Header) : Except FrameFault Unit :=
  if header.opcode.isControl && !header.fin then .error .fragmentedControl
  else if header.opcode.isControl && controlLimit < header.length then
    .error (.controlTooLong header.length)
  else if limit < header.length then .error (.tooBig header.length limit)
  else .ok ()

/-- The header of a client's frame and the bytes behind it; `none` if more bytes are needed. -/
def readHeader (bytes : Bytes) : Except FrameFault (Option (Header × Bytes)) :=
  match bytes with
  | first :: second :: rest =>
    if first &&& 0x70 ≠ 0 then .error .reservedBits
    else match Opcode.ofByte? (first &&& 0x0F) with
      | none => .error (.reservedOpcode (first &&& 0x0F))
      | some opcode =>
        if second &&& 0x80 = 0 then .error .unmasked
        else .ok <| (readLength? (second &&& 0x7F).toNat rest).map fun (length, size, rest) =>
          (⟨first &&& 0x80 ≠ 0, opcode, length, size⟩, rest)
  | _ => .ok none

/-- The number of bytes of a client's frame with this header: header, mask and payload. -/
def Header.frameSize (header : Header) : Nat := header.size + 4 + header.length

/-- The frame at the start of the bytes and the number of bytes it takes; `none` if more bytes
are needed. -/
def decode (limit : Nat) (bytes : Bytes) : Except FrameFault (Option (Frame × Nat)) := do
  match ← readHeader bytes with
  | none => return none
  | some (header, rest) =>
    header.check limit
    match Bytes.splitExactly? 4 rest with
    | none => return none
    | some (key, rest) =>
      match Bytes.splitExactly? header.length rest with
      | none => return none
      | some (masked, _) =>
        return some (⟨header.fin, header.opcode, applyMask key masked⟩, header.frameSize)

theorem length_readLength? {short length size : Nat} {rest rest' : Bytes}
    (h : readLength? short rest = some (length, size, rest')) :
    2 ≤ size ∧ size + rest'.length = rest.length + 2 := by
  unfold readLength? at h
  split at h
  · obtain ⟨⟨wide, tail⟩, hs, he⟩ := Option.map_eq_some_iff.1 h
    have := Bytes.splitExactly?_length hs
    simp only [Prod.mk.injEq] at he
    obtain ⟨-, rfl, rfl⟩ := he
    omega
  · split at h
    · obtain ⟨⟨wide, tail⟩, hs, he⟩ := Option.map_eq_some_iff.1 h
      have := Bytes.splitExactly?_length hs
      simp only [Prod.mk.injEq] at he
      obtain ⟨-, rfl, rfl⟩ := he
      omega
    · simp only [Option.some.injEq, Prod.mk.injEq] at h
      obtain ⟨-, rfl, rfl⟩ := h
      omega

/-- A header takes the bytes that it says, and leaves the others. -/
theorem length_readHeader {bytes rest : Bytes} {header : Header}
    (h : readHeader bytes = .ok (some (header, rest))) :
    2 ≤ header.size ∧ header.size + rest.length = bytes.length := by
  unfold readHeader at h
  split at h
  · split at h
    · simp at h
    · split at h
      · simp at h
      · split at h
        · simp at h
        · simp only [Except.ok.injEq] at h
          obtain ⟨⟨length, size, tail⟩, hl, he⟩ := Option.map_eq_some_iff.1 h
          have := length_readLength? hl
          simp only [Prod.mk.injEq] at he
          obtain ⟨rfl, rfl⟩ := he
          simp only [List.length_cons]
          omega
  · simp at h

/-- A frame that is read takes bytes, and no more than there are. -/
theorem decode_used {limit used : Nat} {bytes : Bytes} {frame : Frame}
    (h : decode limit bytes = .ok (some (frame, used))) : 6 ≤ used ∧ used ≤ bytes.length := by
  unfold decode at h
  match hr : readHeader bytes with
  | .error fault => simp [hr, bind, Except.bind] at h
  | .ok none => simp [hr, bind, Except.bind, pure, Except.pure] at h
  | .ok (some (header, rest)) =>
    have hh := length_readHeader hr
    match hc : header.check limit with
    | .error fault => simp [hr, hc, bind, Except.bind] at h
    | .ok () =>
      simp only [hr, hc, bind, Except.bind] at h
      split at h
      · simp [pure, Except.pure] at h
      · rename_i hk
        have := Bytes.splitExactly?_length hk
        split at h
        · simp [pure, Except.pure] at h
        · rename_i hp
          have := Bytes.splitExactly?_length hp
          simp only [pure, Except.pure, Except.ok.injEq, Option.some.injEq, Prod.mk.injEq] at h
          obtain ⟨-, rfl⟩ := h
          simp only [Header.frameSize]
          omega

/-- The header of a frame, with the length in the narrowest width. -/
def headerBytes (frame : Frame) (masked : Bool) : Bytes :=
  let first := frame.opcode.toByte ||| if frame.fin then 0x80 else 0
  let mark : UInt8 := if masked then 0x80 else 0
  let length := frame.payload.length
  if length < 126 then [first, mark ||| length.toUInt8]
  else if length < 0x10000 then first :: (mark ||| 126) :: Bytes.ofNatBE 2 length
  else first :: (mark ||| 127) :: Bytes.ofNatBE 8 length

/-- A frame as the server sends it, without a mask. -/
def encode (frame : Frame) : Bytes := frame.headerBytes false ++ frame.payload

/-- A frame as a client sends it. -/
def encodeMasked (frame : Frame) (key : Bytes) : Bytes :=
  frame.headerBytes true ++ key ++ applyMask key frame.payload

end Frame
end WebServer.WebSocket

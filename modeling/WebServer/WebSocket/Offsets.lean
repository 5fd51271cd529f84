import WebServer.WebSocket.Conversation

/-!
# Offsets in machine words

A frame can be read by offsets in its buffer: the mask ends four bytes behind the header, and the
payload as many bytes behind the mask as the header announces. A machine adds these in words of 64
bits. `decodeBy` reads so, with any way of adding, and `takeFramesChecked` takes frames so from a
window; both have no result where a sum has none.
-/
namespace WebServer.WebSocket

namespace Frame

/-- One more than the greatest machine word. -/
def wordSize : Nat := UInt64.size

/-- A way to add offsets; it may have no result. -/
abbrev Adding := Nat → Nat → Option Nat

namespace Adding

def exact : Adding := fun a b => some (a + b)

/-- A sum that is no word is an error. -/
def checked : Adding := fun a b => if a + b < wordSize then some (a + b) else none

/-- Of a sum that is no word only the low bits are kept. -/
def wrapping : Adding := fun a b => some ((a + b) % wordSize)

end Adding

/-- The mask and the payload behind a header, read by their offsets; the frame and its end if the
buffer has all of it, and `none` if a sum has no result. -/
def readBehind (add : Adding) (buffer : Bytes) (header : Header) :
    Option (Option (Frame × Nat)) := do
  let start ← add header.size 4
  match Bytes.slice? buffer header.size start with
  | none => return none
  | some key =>
    let stop ← add start header.length
    match Bytes.slice? buffer start stop with
    | none => return none
    | some masked =>
      let used ← add start header.length
      return some (⟨header.fin, header.opcode, applyMask key masked⟩, used)

/-- The frame at the start of the buffer, read by its offsets; `none` if a sum has no result. -/
def decodeBy (add : Adding) (limit : Nat) (buffer : Bytes) :
    Option (Except FrameFault (Option (Frame × Nat))) :=
  match readHeader buffer with
  | .error fault => some (.error fault)
  | .ok none => some (.ok none)
  | .ok (some (header, _)) =>
    match header.check limit with
    | .error fault => some (.error fault)
    | .ok () => (readBehind add buffer header).map .ok

theorem checked_eq_some {a b sum : Nat} (h : Adding.checked a b = some sum) : sum = a + b := by
  unfold Adding.checked at h
  split at h
  · exact (Option.some.inj h).symm
  · cases h

/-- With checked sums, too, a frame that is read takes bytes, and no more than there are. -/
theorem decodeBy_used {limit used : Nat} {buffer : Bytes} {frame : Frame}
    (h : decodeBy .checked limit buffer = some (.ok (some (frame, used)))) :
    6 ≤ used ∧ used ≤ buffer.length := by
  unfold decodeBy at h
  split at h
  · cases h
  · cases h
  · rename_i header rest read
    have size := (length_readHeader read).1
    split at h
    · cases h
    · obtain ⟨found, behind, same⟩ := Option.map_eq_some_iff.1 h
      obtain rfl := Except.ok.inj same
      simp only [readBehind, bind, Option.bind_eq_some_iff] at behind
      obtain ⟨start, starts, behind⟩ := behind
      split at behind
      · cases behind
      · obtain ⟨stop, stops, behind⟩ := Option.bind_eq_some_iff.1 behind
        split at behind
        · cases behind
        · rename_i masked there
          obtain ⟨sum, sums, behind⟩ := Option.bind_eq_some_iff.1 behind
          obtain ⟨-, rfl⟩ := Prod.mk.inj (Option.some.inj (Option.some.inj behind))
          obtain rfl := Option.some.inj (stops.symm.trans sums)
          have ends := checked_eq_some sums
          have masks := checked_eq_some starts
          have within := Bytes.stop_le_of_slice? there
          omega

end Frame

namespace Conversation

variable {ε σ : Type}

/-- Takes frames from the window as `takeFrames` does, with checked sums of offsets; `none` if one
of them is no word. -/
def takeFramesChecked (react : React ε σ) (c : Conversation ε σ) (window : Bytes) :
    Option (Option Bytes × Conversation ε σ) :=
  let c := c.settle react
  if c.socket.session.closing then some (none, c)
  else
    match _h : Frame.decodeBy .checked c.limit window with
    | none => none
    | some (.error fault) => some (none, c.fail react (.frame fault))
    | some (.ok none) => some (some window, c)
    | some (.ok (some (frame, used))) =>
      takeFramesChecked react (c.onFrame react frame) (window.drop used)
termination_by window.length
decreasing_by
  have := Frame.decodeBy_used _h
  simp only [List.length_drop]; omega

end Conversation
end WebServer.WebSocket

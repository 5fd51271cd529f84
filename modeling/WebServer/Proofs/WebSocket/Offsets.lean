import WebServer.Proofs.Requests.Positions
import WebServer.Proofs.WebSocket.Codec
import WebServer.Proofs.WebSocket.Decoding
import WebServer.Proofs.WebSocket.Reasons
import WebServer.Server.Config
import WebServer.WebSocket.Offsets

/-!
# Sums of offsets

`decodeBy` is `decode` if the sums are exact. The length of a frame comes from the peer, and only
the limit keeps it from being so large that the end of the payload is no word any more: a checked
sum fails exactly on the frames of `Overlong`, and no limit that leaves room for the largest header
lets one of them pass (`offsets_fit`). So frames are taken from a window with checked sums as they
are without, unless an overlong one comes to be its front (`takeFramesChecked_cases`).
-/
namespace WebServer

/-- What follows a position, as much as is asked for, is the range behind it. -/
theorem Bytes.At.slice?_eq {text rest : Bytes} {pos : Nat} (here : Bytes.At text pos rest)
    (n : Nat) : Bytes.slice? text pos (pos + n) = (Bytes.splitExactly? n rest).map Prod.fst := by
  by_cases enough : n ≤ rest.length
  · have taken : (rest.take n).length = n := by simp [enough]
    have there : Bytes.At text pos (rest.take n ++ rest.drop n) := by
      rwa [List.take_append_drop]
    have found := there.slice?
    rw [taken] at found
    rw [found, Bytes.splitExactly?_eq_some_iff.2 ⟨taken, (List.take_append_drop n rest).symm⟩]
    rfl
  · have length := here.length_eq
    rw [Bytes.slice?, if_neg (by omega)]
    cases split : Bytes.splitExactly? n rest with
    | none => rfl
    | some pair => exact absurd (Bytes.splitExactly?_length split) (by omega)

namespace WebSocket.Frame

/-- A header that the rules and the limit let pass, and the bytes behind it. -/
structure Passes (limit : Nat) (buffer : Bytes) (header : Header) (rest : Bytes) : Prop where
  read : readHeader buffer = .ok (some (header, rest))
  checked : header.check limit = .ok ()

/-- The header of a data frame whose payload would end behind the last word, with its mask. Only an
announcement in eight bytes is as great as that. -/
inductive Overlong (limit : Nat) : Bytes → Prop where
  | of {first second : UInt8} {opcode : Opcode} {wide key rest : Bytes}
    (legible : Legible first second opcode) (data : opcode.isControl = false)
    (field : (second &&& 0x7F).toNat = 127) (eight : wide.length = 8) (four : key.length = 4)
    (within : Bytes.toNatBE wide ≤ limit) (exceeds : wordSize ≤ 14 + Bytes.toNatBE wide) :
    Overlong limit (first :: second :: (wide ++ (key ++ rest)))

section Sums

variable {limit : Nat} {buffer rest : Bytes} {header : Header} {add : Adding}

theorem Passes.at (passes : Passes limit buffer header rest) :
    Bytes.At buffer header.size rest := by
  obtain ⟨taken, -, rfl, size⟩ := readHeader_eq_some_iff.1 passes.read
  have here := (Bytes.At.start (Eq.refl (taken ++ rest))).move
  rwa [Nat.zero_add, ← size] at here

/-- A length that is not announced in eight bytes is small. -/
theorem Announces.small_or_eight {field length : Nat} {wide : Bytes}
    (announced : Announces field wide length) :
    length < 2 ^ 16 ∧ wide.length ≤ 2 ∨
      field = 127 ∧ wide.length = 8 ∧ length = Bytes.toNatBE wide := by
  cases announced with
  | short small => exact .inl ⟨Nat.lt_trans small (by decide), by simp⟩
  | two size =>
    have bound := Bytes.toNatBE_lt wide
    rw [size] at bound
    exact .inl ⟨bound, size.le⟩
  | eight size => exact .inr ⟨rfl, size, rfl⟩

/-- The bytes of a header that passes, of which an eight byte length is the greatest part. -/
theorem Passes.shape (passes : Passes limit buffer header rest) :
    header.length < 2 ^ 16 ∧ header.size ≤ 4 ∨
      header.size = 10 ∧ ∃ first second wide, Legible first second header.opcode ∧
        (second &&& 0x7F).toNat = 127 ∧ wide.length = 8 ∧
          header.length = Bytes.toNatBE wide ∧ buffer = first :: second :: (wide ++ rest) := by
  obtain ⟨taken, read, rfl, size⟩ := readHeader_eq_some_iff.1 passes.read
  generalize same : header.fin = fin at read
  cases read with
  | @of first second _ wide _ legible announced =>
    rw [List.length_cons, List.length_cons] at size
    rcases announced.small_or_eight with ⟨small, short⟩ | ⟨field, eight, length⟩
    · exact .inl ⟨small, by omega⟩
    · exact .inr ⟨by omega, first, second, wide, legible, field, eight, length, rfl⟩

theorem Passes.size_le (passes : Passes limit buffer header rest) : header.size ≤ 10 := by
  rcases passes.shape with ⟨-, short⟩ | ⟨ten, -⟩
  · omega
  · exact ten.le

theorem Passes.decodeBy_eq (passes : Passes limit buffer header rest) :
    decodeBy add limit buffer = (readBehind add buffer header).map .ok := by
  simp [decodeBy, passes.read, passes.checked]

/-- Unless a header passes, nothing is added. -/
theorem decodeBy_of_not_passes (none : ¬ ∃ header rest, Passes limit buffer header rest)
    (add add' : Adding) : decodeBy add limit buffer = decodeBy add' limit buffer := by
  unfold decodeBy
  split
  · rfl
  · rfl
  · rename_i header rest read
    split
    · rfl
    · rename_i checked
      exact absurd ⟨header, rest, read, checked⟩ none

/-- With exact sums this is the decoder. -/
theorem decodeBy_exact (limit : Nat) (buffer : Bytes) :
    decodeBy .exact limit buffer = some (decode limit buffer) := by
  unfold decode
  cases read : readHeader buffer with
  | error fault => simp [decodeBy, read, bind, Except.bind]
  | ok found =>
    cases found with
    | none => simp [decodeBy, read, bind, Except.bind, pure, Except.pure]
    | some found =>
      obtain ⟨header, rest⟩ := found
      cases checked : header.check limit with
      | error fault => simp [decodeBy, read, checked, bind, Except.bind]
      | ok =>
        have passes : Passes limit buffer header rest := ⟨read, checked⟩
        have here := passes.at
        rw [passes.decodeBy_eq]
        simp only [bind, Except.bind, checked, pure, Except.pure]
        simp only [readBehind, Adding.exact, Option.bind_eq_bind, Option.bind_some, here.slice?_eq]
        cases keyed : Bytes.splitExactly? 4 rest with
        | none => rfl
        | some pair =>
          obtain ⟨key, behind⟩ := pair
          obtain ⟨four, rfl⟩ := Bytes.splitExactly?_eq_some_iff.1 keyed
          have there := here.move
          rw [four] at there
          simp only [Option.map_some, there.slice?_eq]
          cases Bytes.splitExactly? header.length behind with
          | none => rfl
          | some pair => rfl

/-- The end of the mask is always a word. -/
theorem Passes.checked_size (passes : Passes limit buffer header rest) :
    Adding.checked header.size 4 = some (header.size + 4) := by
  have small := passes.size_le
  exact if_pos (Nat.lt_of_le_of_lt (Nat.add_le_add_right small 4) (by decide))

/-- The frame of a header that passes ends behind the last word: its mask is there, and the end of
its payload is no word. -/
theorem overlong_iff :
    Overlong limit buffer ↔ ∃ header rest, Passes limit buffer header rest ∧ 4 ≤ rest.length ∧
      wordSize ≤ header.size + 4 + header.length := by
  constructor
  · rintro ⟨legible, data, field, eight, four, within, exceeds⟩
    rename_i first second opcode wide key behind
    have announced : Announces (second &&& 0x7F).toNat wide (Bytes.toNatBE wide) := by
      rw [field]
      exact .eight eight
    refine ⟨⟨first &&& 0x80 ≠ 0, opcode, Bytes.toNatBE wide, 10⟩, key ++ behind, ⟨?_, ?_⟩,
      by simp [four], exceeds⟩
    · exact readHeader_eq_some_iff.2 ⟨_, .of legible announced, rfl, by simp [eight]⟩
    · refine check_eq_ok_iff.2 ⟨fun control => ?_, within⟩
      rw [data] at control
      cases control
  · rintro ⟨header, rest, passes, masked, exceeds⟩
    rcases passes.shape with ⟨small, short⟩ | ⟨ten, first, second, wide, legible, field, eight,
      length, rfl⟩
    · have large : wordSize ≤ 2 ^ 16 + 8 := by omega
      exact absurd large (by decide)
    · obtain ⟨rules, within⟩ := check_eq_ok_iff.1 passes.checked
      have data : header.opcode.isControl = false := by
        refine Bool.eq_false_iff.2 fun control => ?_
        have short := (rules control).2
        have large : wordSize ≤ 14 + controlLimit := by omega
        exact absurd large (by decide)
      rw [← List.take_append_drop 4 rest]
      exact .of legible data field eight (by simp [masked]) (length ▸ within) (by omega)

/-- The mask is read only if all of it is there. -/
theorem Passes.mask_there (passes : Passes limit buffer header rest) {key : Bytes}
    (found : Bytes.slice? buffer header.size (header.size + 4) = some key) : 4 ≤ rest.length := by
  have length := passes.at.length_eq
  unfold Bytes.slice? at found
  split at found
  · omega
  · cases found

/-- Only the sums that are asked for count. -/
theorem Passes.readBehind_exact (passes : Passes limit buffer header rest)
    (mask : add header.size 4 = some (header.size + 4))
    (payload : 4 ≤ rest.length →
      add (header.size + 4) header.length = some (header.size + 4 + header.length)) :
    readBehind add buffer header = readBehind .exact buffer header := by
  unfold readBehind Adding.exact
  simp only [mask, Option.bind_eq_bind, Option.bind_some]
  cases found : Bytes.slice? buffer header.size (header.size + 4) with
  | none => rfl
  | some key => simp only [payload (passes.mask_there found), Option.bind_some]

/-- A checked sum fails exactly on what is overlong. -/
theorem Passes.readBehind_checked (passes : Passes limit buffer header rest)
    (masked : 4 ≤ rest.length) (exceeds : wordSize ≤ header.size + 4 + header.length) :
    readBehind .checked buffer header = none := by
  have key : Bytes.slice? buffer header.size (header.size + 4) = some (rest.take 4) := by
    rw [passes.at.slice?_eq, Bytes.splitExactly?_eq_some_iff.2
      ⟨List.length_take_of_le masked, (List.take_append_drop 4 rest).symm⟩]
    rfl
  have payload : Adding.checked (header.size + 4) header.length = none :=
    if_neg (Nat.not_lt.2 exceeds)
  simp only [readBehind, passes.checked_size, key, payload, Option.bind_eq_bind,
    Option.bind_some, Option.bind_none]

theorem decodeBy_checked (short : ¬ Overlong limit buffer) :
    decodeBy .checked limit buffer = some (decode limit buffer) := by
  rw [← decodeBy_exact]
  by_cases found : ∃ header rest, Passes limit buffer header rest
  · obtain ⟨header, rest, passes⟩ := found
    rw [passes.decodeBy_eq, passes.decodeBy_eq,
      passes.readBehind_exact passes.checked_size fun masked => ?_]
    refine if_pos (Nat.not_le.1 fun exceeds => short ?_)
    exact overlong_iff.2 ⟨header, rest, passes, masked, exceeds⟩
  · exact decodeBy_of_not_passes found ..

theorem decodeBy_checked_eq_none_iff :
    decodeBy .checked limit buffer = none ↔ Overlong limit buffer := by
  constructor
  · intro failed
    by_contra short
    rw [decodeBy_checked short] at failed
    cases failed
  · intro overlong
    obtain ⟨header, rest, passes, masked, exceeds⟩ := overlong_iff.1 overlong
    rw [passes.decodeBy_eq, passes.readBehind_checked masked exceeds]
    rfl

/-- What checked sums give, exact ones give. -/
theorem decode_of_checked {read : Except FrameFault (Option (Frame × Nat))}
    (h : decodeBy .checked limit buffer = some read) : decode limit buffer = read := by
  by_cases overlong : Overlong limit buffer
  · rw [decodeBy_checked_eq_none_iff.2 overlong] at h
    cases h
  · exact Option.some.inj ((decodeBy_checked overlong).symm.trans h)

/-- An end that is no word lies behind the buffer. One that wraps around lies before the beginning,
and there is nothing between them either. -/
theorem Passes.readBehind_overlong (passes : Passes limit buffer header rest)
    (fits : buffer.length < wordSize) (exceeds : wordSize ≤ header.size + 4 + header.length) :
    readBehind .exact buffer header = some none ∧
      readBehind .wrapping buffer header = some none := by
  have small := passes.size_le
  have length : header.length < wordSize := header_length_lt passes.read
  have word : header.size + 4 < wordSize :=
    Nat.lt_of_le_of_lt (Nat.add_le_add_right small 4) (by decide)
  have wrapped : (header.size + 4 + header.length) % wordSize < header.size + 4 := by
    rw [Nat.mod_eq_sub_mod exceeds, Nat.mod_eq_of_lt (by omega)]
    omega
  have outside : Bytes.slice? buffer (header.size + 4) (header.size + 4 + header.length) = none :=
    if_neg (by omega)
  have reversed : Bytes.slice? buffer (header.size + 4)
      ((header.size + 4 + header.length) % wordSize) = none := if_neg (by omega)
  constructor
  · simp only [readBehind, Adding.exact, Option.bind_eq_bind, Option.bind_some, outside]
    split <;> rfl
  · simp only [readBehind, Adding.wrapping, Nat.mod_eq_of_lt word, Option.bind_eq_bind,
      Option.bind_some, reversed]
    split <;> rfl

theorem Passes.readBehind_wrapping (passes : Passes limit buffer header rest)
    (fits : buffer.length < wordSize) :
    readBehind .wrapping buffer header = readBehind .exact buffer header := by
  by_cases exceeds : wordSize ≤ header.size + 4 + header.length
  · obtain ⟨exact, wrapping⟩ := passes.readBehind_overlong fits exceeds
    rw [exact, wrapping]
  · have word := Nat.not_le.1 exceeds
    refine passes.readBehind_exact ?_ fun _ => ?_
    · exact congrArg some (Nat.mod_eq_of_lt (by omega))
    · exact congrArg some (Nat.mod_eq_of_lt word)

theorem decodeBy_wrapping (fits : buffer.length < wordSize) :
    decodeBy .wrapping limit buffer = some (decode limit buffer) := by
  rw [← decodeBy_exact]
  by_cases found : ∃ header rest, Passes limit buffer header rest
  · obtain ⟨header, rest, passes⟩ := found
    rw [passes.decodeBy_eq, passes.decodeBy_eq, passes.readBehind_wrapping fits]
  · exact decodeBy_of_not_passes found ..

/-- No buffer ever holds the whole of an overlong frame. -/
theorem Overlong.decode_eq (overlong : Overlong limit buffer) (fits : buffer.length < wordSize) :
    decode limit buffer = .ok none := by
  obtain ⟨header, rest, passes, -, exceeds⟩ := overlong_iff.1 overlong
  have read := decodeBy_exact limit buffer
  rw [passes.decodeBy_eq, (passes.readBehind_overlong fits exceeds).1] at read
  exact (Option.some.inj read).symm

/-- The shortest payload that is too long for its end to be a word, behind the largest header. -/
def overlongBuffer : Bytes :=
  0x82 :: 0xFF :: (Bytes.ofNatBE 8 (wordSize - 14) ++ [0, 0, 0, 0])

theorem overlong_overlongBuffer (within : wordSize ≤ limit + 14) :
    Overlong limit overlongBuffer := by
  have length : Bytes.toNatBE (Bytes.ofNatBE 8 (wordSize - 14)) = wordSize - 14 :=
    Bytes.toNatBE_ofNatBE (by decide)
  have legible : Legible 0x82 0xFF .binary := ⟨by decide, by decide, by decide⟩
  have whole : overlongBuffer =
      0x82 :: 0xFF :: (Bytes.ofNatBE 8 (wordSize - 14) ++ ([0, 0, 0, 0] ++ [])) := rfl
  rw [whole]
  refine .of legible rfl (by decide) (Bytes.length_ofNatBE ..) rfl ?_ ?_
  · rw [length]
    omega
  · rw [length]
    decide

theorem not_overlong_of_lt (room : limit + 14 < wordSize) : ¬ Overlong limit buffer := by
  rintro ⟨-, -, -, -, -, within, exceeds⟩
  omega

end Sums

/-- Every sum of offsets is a word, whatever the buffer, exactly if the limit leaves room for the
largest header and its mask. Under any limit the sums fail just on an overlong frame, which can
never be there as a whole; it is waited for, also where sums wrap around. -/
theorem offsets_fit (limit : Nat) :
    ((∀ buffer, decodeBy .checked limit buffer = some (decode limit buffer)) ↔
      limit + 14 < wordSize) ∧
    ∀ buffer,
      (decodeBy .checked limit buffer = none ↔ Overlong limit buffer) ∧
      (¬ Overlong limit buffer →
        decodeBy .checked limit buffer = some (decode limit buffer)) ∧
      (buffer.length < wordSize →
        decodeBy .wrapping limit buffer = some (decode limit buffer) ∧
        (Overlong limit buffer → decode limit buffer = .ok none)) := by
  refine ⟨⟨fun fit => ?_, fun room buffer => decodeBy_checked (not_overlong_of_lt room)⟩,
    fun buffer => ⟨decodeBy_checked_eq_none_iff, decodeBy_checked, fun fits =>
      ⟨decodeBy_wrapping fits, fun overlong => overlong.decode_eq fits⟩⟩⟩
  by_contra tight
  have overlong : Overlong limit overlongBuffer := overlong_overlongBuffer (Nat.not_lt.1 tight)
  have failed := decodeBy_checked_eq_none_iff.2 overlong
  rw [fit] at failed
  cases failed

/-- Under the greatest limit that a configuration may have, the greatest length passes, and the end
of its payload is no word. -/
theorem payload_end_overflows :
    let limit := 2 ^ 64 - 1
    let buffer : Bytes := 0x82 :: 0xFF :: (List.replicate 8 0xFF ++ [1, 2, 3, 4])
    Config.check { maxMessageSize := limit } = .ok () ∧
      readHeader buffer = .ok (some (⟨true, .binary, limit, 10⟩, [1, 2, 3, 4])) ∧
      Header.check limit ⟨true, .binary, limit, 10⟩ = .ok () ∧
      2 ^ 64 - 1 < 10 + 4 + limit ∧
      decodeBy .checked limit buffer = none := by
  decide +kernel

end WebSocket.Frame
end WebServer

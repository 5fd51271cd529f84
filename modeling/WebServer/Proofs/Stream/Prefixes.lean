import WebServer.Server.Framing
import WebServer.WebSocket.Frame

/-!
# What more bytes change

A stream arrives in pieces, so every reader is applied to a prefix of what is still to come. A
reader that found something in the prefix, or refused it, does the same with more bytes behind it;
only `none` may become something else. The one reader that judges the mere length of what it got is
`Opening.ofWindow`: there a mark that comes too late comes beyond the limit.
-/
namespace WebServer

namespace Bytes

variable {mark text a b : Bytes}

theorem cut?.go_eq (before rest : Bytes) :
    go mark before rest = (cut? mark rest).map fun (a, b) => (before.reverse ++ a, b) := by
  unfold cut?
  induction rest generalizing before with
  | nil =>
    unfold go
    split
    · simp
    · rfl
  | cons x rest ih =>
    unfold go
    split
    · simp
    · simp only [ih (x :: before), ih [x]]
      simp [Function.comp_def]

theorem cut?_nil : cut? mark [] = if mark.isPrefixOf [] then some ([], []) else none := by
  unfold cut? cut?.go
  simp

theorem cut?_cons (x : UInt8) (text : Bytes) :
    cut? mark (x :: text) =
      if mark.isPrefixOf (x :: text) then some ([], (x :: text).drop mark.length)
      else (cut? mark text).map fun (a, b) => (x :: a, b) := by
  rw [cut?, cut?.go]
  split
  · rfl
  · exact cut?.go_eq [x] text

/-- Where a mark is, a cut is made at it, or before it at another one. -/
theorem exists_cut? (mark before after : Bytes) :
    ∃ a b, cut? mark (before ++ mark ++ after) = some (a, b) ∧ a.length ≤ before.length := by
  have here {text : Bytes} (first : mark.isPrefixOf text = true) :
      ∃ b, cut? mark text = some ([], b) := by
    unfold cut? cut?.go
    rw [if_pos first]
    exact ⟨_, rfl⟩
  induction before with
  | nil =>
    have first : mark.isPrefixOf (mark ++ after) = true :=
      List.isPrefixOf_iff_prefix.2 (List.prefix_append _ _)
    obtain ⟨b, found⟩ := here first
    exact ⟨[], b, found, Nat.le_refl _⟩
  | cons x before ih =>
    by_cases first : mark.isPrefixOf (x :: (before ++ mark ++ after)) = true
    · obtain ⟨b, found⟩ := here first
      exact ⟨[], b, found, Nat.zero_le _⟩
    · obtain ⟨a, b, found, early⟩ := ih
      refine ⟨x :: a, b, ?_, ?_⟩
      · rw [List.cons_append, List.cons_append, cut?_cons, if_neg first, found]
        rfl
      · rw [List.length_cons, List.length_cons]
        omega

theorem isPrefixOf_append {text : Bytes} (h : mark.isPrefixOf text = true) (more : Bytes) :
    mark.isPrefixOf (text ++ more) = true :=
  List.isPrefixOf_iff_prefix.2 ((List.isPrefixOf_iff_prefix.1 h).trans (List.prefix_append _ _))

/-- A mark that more bytes complete is longer than what was there. -/
theorem length_lt_of_isPrefixOf_append (text : Bytes) {more : Bytes}
    (h : mark.isPrefixOf text ≠ true) (longer : mark.isPrefixOf (text ++ more) = true) :
    text.length < mark.length := by
  rcases Nat.lt_or_ge text.length mark.length with short | long
  · exact short
  · have inside := List.prefix_of_prefix_length_le (List.isPrefixOf_iff_prefix.1 longer)
      (List.prefix_append text more) long
    exact absurd (List.isPrefixOf_iff_prefix.2 inside) h

theorem cut?_append (h : cut? mark text = some (a, b)) (more : Bytes) :
    cut? mark (text ++ more) = some (a, b ++ more) := by
  induction text generalizing a with
  | nil =>
    rw [cut?_nil] at h
    split at h
    · rename_i empty
      obtain ⟨rfl, rfl⟩ := by simpa using h
      obtain rfl : mark = [] := by simpa using empty
      cases more <;> simp [cut?, cut?.go]
    · cases h
  | cons x text ih =>
    rw [cut?_cons] at h
    rw [List.cons_append, cut?_cons]
    split at h
    · rename_i found
      obtain ⟨rfl, rfl⟩ := by simpa using h
      have fits : mark.length ≤ (x :: text).length :=
        (List.isPrefixOf_iff_prefix.1 found).length_le
      rw [← List.cons_append, if_pos (isPrefixOf_append found more),
        List.drop_append_of_le_length fits]
    · rename_i missing
      obtain ⟨⟨a', b'⟩, found, same⟩ := Option.map_eq_some_iff.1 h
      obtain ⟨rfl, rfl⟩ := by simpa using same
      -- The mark is found in `text`, so `more` cannot complete an earlier one.
      have fits := cut?_length found
      have none : ¬ mark.isPrefixOf (x :: (text ++ more)) = true := by
        intro earlier
        have := length_lt_of_isPrefixOf_append (x :: text) missing earlier
        simp only [List.length_cons] at this
        omega
      rw [if_neg none, ih found]
      rfl

/-- A mark that was not there ends beyond what was there. -/
theorem length_lt_of_cut?_append {more : Bytes} (none : cut? mark text = none)
    (h : cut? mark (text ++ more) = some (a, b)) : text.length < a.length + mark.length := by
  induction text generalizing a with
  | nil =>
    cases mark with
    | nil => simp [cut?_nil] at none
    | cons m mark => simp only [List.length_nil, List.length_cons]; omega
  | cons x text ih =>
    rw [cut?_cons] at none
    rw [List.cons_append, cut?_cons] at h
    split at none
    · cases none
    · rename_i missing
      split at h
      · rename_i found
        have := length_lt_of_isPrefixOf_append (x :: text) missing found
        omega
      · obtain ⟨⟨a', b'⟩, found, same⟩ := Option.map_eq_some_iff.1 h
        obtain ⟨rfl, rfl⟩ := by simpa using same
        have := ih (Option.map_eq_none_iff.1 none) found
        simp only [List.length_cons]
        omega

theorem splitExactly?_append {n : Nat} (h : splitExactly? n text = some (a, b)) (more : Bytes) :
    splitExactly? n (text ++ more) = some (a, b ++ more) := by
  obtain ⟨length, rfl⟩ := splitExactly?_eq_some_iff.1 h
  exact splitExactly?_eq_some_iff.2 ⟨length, List.append_assoc _ _ _⟩

theorem splitExactly?_eq (n : Nat) (text : Bytes) :
    splitExactly? n text = if text.length < n then none else some (text.take n, text.drop n) := by
  split
  · rename_i short
    refine Option.eq_none_iff_forall_ne_some.2 fun parts found => ?_
    have := splitExactly?_length found
    omega
  · rename_i enough
    exact splitExactly?_eq_some_iff.2
      ⟨List.length_take_of_le (by omega), (List.take_append_drop n text).symm⟩

theorem splitExactly?_isSome {n : Nat} : (splitExactly? n text).isSome ↔ n ≤ text.length := by
  rw [splitExactly?_eq, ← Nat.not_lt]
  split
  · rename_i short
    exact iff_of_false Bool.false_ne_true (not_not_intro short)
  · rename_i enough
    exact iff_of_true rfl enough

end Bytes

namespace Http.Request

variable {window head rest : Bytes}

theorem append_of_cutHead? (h : cutHead? window = some (head, rest)) : window = head ++ rest := by
  obtain ⟨⟨lines, tail⟩, found, same⟩ := Option.map_eq_some_iff.1 h
  obtain ⟨rfl, rfl⟩ := Prod.mk.inj same
  exact Bytes.append_of_cut? found

/-- Where CRLFCRLF is, a head ends, if not earlier. -/
theorem exists_cutHead? (before after : Bytes) :
    ∃ head rest, cutHead? (before ++ crlfcrlf ++ after) = some (head, rest) ∧
      head.length ≤ (before ++ crlfcrlf).length := by
  obtain ⟨a, b, found, early⟩ := Bytes.exists_cut? crlfcrlf before after
  refine ⟨a ++ crlfcrlf, b, ?_, ?_⟩
  · rw [cutHead?, found]
    rfl
  · rw [List.length_append, List.length_append]
    omega

theorem cutHead?_append (h : cutHead? window = some (head, rest)) (more : Bytes) :
    cutHead? (window ++ more) = some (head, rest ++ more) := by
  obtain ⟨⟨lines, tail⟩, found, same⟩ := Option.map_eq_some_iff.1 h
  obtain ⟨rfl, rfl⟩ := by simpa using same
  rw [cutHead?, Bytes.cut?_append found]
  rfl

theorem length_lt_of_cutHead?_append {more : Bytes} (none : cutHead? window = none)
    (h : cutHead? (window ++ more) = some (head, rest)) : window.length < head.length := by
  obtain ⟨⟨lines, tail⟩, found, same⟩ := Option.map_eq_some_iff.1 h
  obtain ⟨rfl, rfl⟩ := by simpa using same
  have := Bytes.length_lt_of_cut?_append (Option.map_eq_none_iff.1 none) found
  rwa [List.length_append]

end Http.Request

namespace Opening

/-- The same opening with more bytes behind it. -/
def extend (more : Bytes) : Opening → Opening
  | .incomplete => .incomplete
  | .request parsed length rest => .request parsed length (rest ++ more)
  | .malformed fault rest => .malformed fault (rest ++ more)
  | .unframed fault => .unframed fault

/-- What stands at the beginning of a window stands there with more bytes behind it, too. -/
theorem ofWindow_append {config : Config} {window : Bytes} {opening : Opening}
    (read : ofWindow config window = opening) (h : opening ≠ .incomplete) (more : Bytes) :
    ofWindow config (window ++ more) = opening.extend more := by
  subst read
  unfold ofWindow at h ⊢
  cases cut : Http.Request.cutHead? window with
  | none =>
    simp only [cut] at h
    have exceeds : config.maxRequestSize < window.length := by
      rcases Nat.lt_or_ge config.maxRequestSize window.length with exceeds | within
      · exact exceeds
      · exact absurd (if_neg (Nat.not_lt.2 within)) h
    -- Either there is still no head, or it is one that is too long as well.
    cases longer : Http.Request.cutHead? (window ++ more) with
    | none =>
      have : config.maxRequestSize < (window ++ more).length := by
        rw [List.length_append]; omega
      simp only [if_pos this, if_pos exceeds, extend]
    | some split =>
      obtain ⟨head, rest⟩ := split
      have := Http.Request.length_lt_of_cutHead?_append cut longer
      simp only [if_pos exceeds, if_pos (Nat.lt_trans exceeds this), extend]
  | some split =>
    obtain ⟨head, rest⟩ := split
    simp only [Http.Request.cutHead?_append cut]
    split
    · rfl
    · split
      · rfl
      · split
        · rfl
        · split <;> rfl

end Opening

namespace WebSocket.Frame

variable {limit : Nat} {bytes : Bytes}

theorem readLength?_append {short length size : Nat} {rest tail : Bytes}
    (h : readLength? short rest = some (length, size, tail)) (more : Bytes) :
    readLength? short (rest ++ more) = some (length, size, tail ++ more) := by
  unfold readLength? at h ⊢
  split at h
  · rename_i wide
    obtain ⟨⟨number, behind⟩, split, same⟩ := Option.map_eq_some_iff.1 h
    obtain ⟨rfl, rfl, rfl⟩ := by simpa using same
    rw [if_pos wide, Bytes.splitExactly?_append split]
    rfl
  · rename_i narrow
    rw [if_neg narrow]
    split at h
    · rename_i wide
      obtain ⟨⟨number, behind⟩, split, same⟩ := Option.map_eq_some_iff.1 h
      obtain ⟨rfl, rfl, rfl⟩ := by simpa using same
      rw [if_pos wide, Bytes.splitExactly?_append split]
      rfl
    · rename_i narrow
      obtain ⟨rfl, rfl, rfl⟩ := by simpa using h
      rw [if_neg narrow]

theorem readHeader_append_of_error {fault : FrameFault} (h : readHeader bytes = .error fault)
    (more : Bytes) : readHeader (bytes ++ more) = .error fault := by
  match bytes with
  | [] | [_] => simp [readHeader] at h
  | first :: second :: rest =>
    simp only [List.cons_append, readHeader] at h ⊢
    split at h
    · rwa [if_pos ‹_›]
    · rw [if_neg ‹_›]
      split at h
      · exact h
      · split at h
        · rwa [if_pos ‹_›]
        · cases h

theorem readHeader_append {header : Header} {rest : Bytes}
    (h : readHeader bytes = .ok (some (header, rest))) (more : Bytes) :
    readHeader (bytes ++ more) = .ok (some (header, rest ++ more)) := by
  match bytes with
  | [] | [_] => simp [readHeader] at h
  | first :: second :: behind =>
    simp only [List.cons_append, readHeader] at h ⊢
    split at h
    · cases h
    · rw [if_neg ‹_›]
      split at h
      · cases h
      · split at h
        · cases h
        · rw [if_neg ‹_›]
          obtain ⟨⟨length, size, tail⟩, read, same⟩ := Option.map_eq_some_iff.1 (Except.ok.inj h)
          obtain ⟨rfl, rfl⟩ := Prod.mk.inj same
          rw [readLength?_append read]
          rfl

/-- What is refused is refused because of its header. -/
theorem decode_append_of_error {fault : FrameFault} (h : decode limit bytes = .error fault)
    (more : Bytes) : decode limit (bytes ++ more) = .error fault := by
  unfold decode at h ⊢
  match read : readHeader bytes with
  | .error cause =>
    simp only [read, bind, Except.bind] at h
    simp only [readHeader_append_of_error read, bind, Except.bind]
    exact h
  | .ok none => simp [read, bind, Except.bind, pure, Except.pure] at h
  | .ok (some (header, rest)) =>
    simp only [read, bind, Except.bind] at h
    simp only [readHeader_append read, bind, Except.bind]
    match check : header.check limit with
    | .error cause => simpa only [check] using h
    | .ok () =>
      simp only [check] at h
      split at h
      · cases h
      · split at h <;> cases h

theorem decode_append {frame : Frame} {used : Nat}
    (h : decode limit bytes = .ok (some (frame, used))) (more : Bytes) :
    decode limit (bytes ++ more) = .ok (some (frame, used)) := by
  unfold decode at h ⊢
  match read : readHeader bytes with
  | .error cause => simp [read, bind, Except.bind] at h
  | .ok none => simp [read, bind, Except.bind, pure, Except.pure] at h
  | .ok (some (header, rest)) =>
    simp only [read, bind, Except.bind] at h
    simp only [readHeader_append read, bind, Except.bind]
    match check : header.check limit with
    | .error cause => simp [check] at h
    | .ok () =>
      simp only [check] at h ⊢
      split at h
      · cases h
      · rename_i key behind mask
        rw [Bytes.splitExactly?_append mask]
        simp only
        split at h
        · cases h
        · rename_i payload
          rw [Bytes.splitExactly?_append payload]
          exact h

end WebSocket.Frame
end WebServer

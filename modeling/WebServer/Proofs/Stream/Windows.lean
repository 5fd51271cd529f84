import WebServer.Proofs.Stream.Calm
import WebServer.Proofs.Stream.Prefixes

/-!
# Windows that grow

A protocol is shown what it left of the last window and the bytes behind that. Taking frames and
serving requests give the same as if the whole had been shown at once: `takeFrames_append` and
`serveWindow_append` say how work on a longer window goes on from where the shorter one ended. What
is left is always the end of what was shown, and less of it where a connection changes to a
WebSocket.
-/
namespace WebServer

namespace WebSocket.Conversation

variable {ε σ : Type} (react : React ε σ)

theorem takeFrames_append (c : Conversation ε σ) (window more : Bytes) :
    c.takeFrames react (window ++ more) =
      match (c.takeFrames react window).1 with
      | some rest => (c.takeFrames react window).2.takeFrames react (rest ++ more)
      | none => (none, (c.takeFrames react window).2) := by
  induction hl : window.length using Nat.strongRecOn generalizing c window with
  | ind length ih =>
    by_cases closing : (c.settle react).socket.session.closing = true
    · have halted (window : Bytes) : c.takeFrames react window = (none, c.settle react) := by
        rw [takeFrames_eq, if_pos closing]
      rw [halted, halted]
    · match decoded : Frame.decode (c.settle react).limit window with
      | .error fault =>
        have refused : c.takeFrames react window =
            (none, (c.settle react).fail react (.frame fault)) := by
          rw [takeFrames_eq, if_neg closing, decoded]
        rw [refused, takeFrames_eq, if_neg closing, Frame.decode_append_of_error decoded]
      | .ok none =>
        have waits : c.takeFrames react window = (some window, c.settle react) := by
          rw [takeFrames_eq, if_neg closing, decoded]
        have unchanged : (c.settle react).settle react = c.settle react :=
          settle_of_open (Bool.eq_false_iff.2 closing)
        rw [waits, takeFrames_eq]
        simp only
        rw [takeFrames_eq react (c.settle react), unchanged]
      | .ok (some (frame, used)) =>
        have fits := Frame.decode_used decoded
        have taken : c.takeFrames react window =
            ((c.settle react).onFrame react frame).takeFrames react (window.drop used) := by
          rw [takeFrames_eq, if_neg closing, decoded]
        rw [taken, takeFrames_eq, if_neg closing, Frame.decode_append decoded]
        simp only
        rw [List.drop_append_of_le_length fits.2]
        refine ih _ ?_ _ _ rfl
        rw [List.length_drop]
        omega

theorem takeFrames_suffix (c : Conversation ε σ) {window rest : Bytes}
    (h : (c.takeFrames react window).1 = some rest) : rest <:+ window := by
  induction hl : window.length using Nat.strongRecOn generalizing c window with
  | ind length ih =>
    rw [takeFrames_eq] at h
    split at h
    · cases h
    · split at h
      · cases h
      · obtain rfl := Option.some.inj h
        exact List.suffix_refl _
      · rename_i frame used taken
        have fits := Frame.decode_used taken
        refine (ih _ ?_ _ h rfl).trans (List.drop_suffix used window)
        rw [List.length_drop]
        omega

/-- Nothing is taken of nothing. -/
theorem takeFrames_nil {c : Conversation ε σ} (opened : c.socket.session.closing = false) :
    c.takeFrames react [] = (some [], c) := by
  rw [takeFrames_eq, settle_of_open opened, opened]
  rfl

end WebSocket.Conversation

theorem Opening.suffix_rest {config : Config} {window rest : Bytes}
    (h : (∃ request length, ofWindow config window = .request request length rest) ∨
      ∃ fault, ofWindow config window = .malformed fault rest) : rest <:+ window := by
  unfold ofWindow at h
  split at h
  · split at h <;> simp at h
  · rename_i head rest' cut
    suffices rest' = rest by
      subst this
      exact ⟨head, (Http.Request.append_of_cutHead? cut).symm⟩
    split at h
    · simp at h
    · split at h
      · simpa using h
      · split at h
        · simp at h
        · split at h
          · simp at h
          · simpa using h

variable {app : App}

/-- What a stop comes to when more bytes arrive. -/
def Stop.serveMore (config : Config) (more : Bytes) (host : Host app) :
    Stop app.Handler → Stop app.Handler × Host app
  | .wait later rest => serveWindow config later (rest ++ more) host
  | .close => (.close, host)
  | .upgraded conversation rest => (.upgraded conversation (rest ++ more), host)

theorem serveWindow_append (config : Config) (pending : Pending) (window more : Bytes)
    (host : Host app) :
    serveWindow config pending (window ++ more) host =
      (serveWindow config pending window host).1.serveMore config more
        (serveWindow config pending window host).2 := by
  induction pending, window using serveWindow_induction generalizing host with
  | head window ih =>
    cases opening : Opening.ofWindow config window with
    | incomplete =>
      have waits : serveWindow config none window host = (.wait none window, host) := by
        rw [serveWindow_none, opening]
      rw [waits]
      rfl
    | unframed fault =>
      have longer := Opening.ofWindow_append opening (by simp) more
      rw [serveWindow_none, longer, serveWindow_none, opening]
      rfl
    | malformed fault rest =>
      have longer := Opening.ofWindow_append opening (by simp) more
      rw [serveWindow_none, longer, serveWindow_none config window, opening]
      simp only [Opening.extend]
      split
      · rfl
      · exact ih _ _ (Opening.length_rest_lt (.inr ⟨_, opening⟩)) _
    | request request length rest =>
      have longer := Opening.ofWindow_append opening (by simp) more
      rw [serveWindow_none, longer, serveWindow_none config window, opening]
      exact ih _ _ (Opening.length_rest_lt (.inl ⟨_, _, opening⟩)) _
  | body request length window ih =>
    cases split : Bytes.splitExactly? length window with
    | none =>
      have waits : serveWindow config (some (request, length)) window host =
          (.wait (some (request, length)) window, host) := by
        rw [serveWindow_some, split]
      rw [waits]
      rfl
    | some parts =>
      obtain ⟨body, rest⟩ := parts
      have shorter := (Bytes.splitExactly?_length split).2
      rw [serveWindow_some, Bytes.splitExactly?_append split, serveWindow_some, split]
      simp only
      cases (host.answer config request body).1 with
      | next => exact ih rest (by omega) _
      | close => rfl
      | upgraded conversation => rfl

/-- The bytes that must be taken before serving can stop with an upgrade. -/
def Pending.need : Pending → Nat
  | none => 1
  | some (_, length) => length

/-- A head is kept only as long as its body is not there. -/
def Pending.Awaits (pending : Pending) (rest : Bytes) : Prop :=
  ∀ request length, pending = some (request, length) → rest.length < length

theorem Pending.Awaits.need_pos {pending : Pending} {rest : Bytes} (h : pending.Awaits rest) :
    0 < pending.need := by
  match pending with
  | none => exact Nat.one_pos
  | some (request, length) => exact Nat.zero_lt_of_lt (h request length rfl)

theorem serveWindow_nil (config : Config) {pending : Pending} (need : 0 < pending.need)
    (host : Host app) : serveWindow config pending [] host = (.wait pending [], host) := by
  match pending with
  | none =>
    simp [serveWindow_none, Opening.ofWindow, Http.Request.cutHead?, Bytes.cut?_nil, Http.crlfcrlf]
  | some (request, length + 1) => rw [serveWindow_some]; rfl

/-- What serving leaves is the end of the window. -/
def Stop.Leaves {σ : Type} (pending : Pending) (window : Bytes) : Stop σ → Prop
  | .wait later rest => rest <:+ window ∧ later.Awaits rest
  | .close => True
  | .upgraded _ rest => rest <:+ window ∧ rest.length + pending.need ≤ window.length

theorem serveWindow_leaves (config : Config) (pending : Pending) (window : Bytes)
    (host : Host app) : (serveWindow config pending window host).1.Leaves pending window := by
  induction pending, window using serveWindow_induction generalizing host with
  | head window ih =>
    -- Behind a head less is left than there was, so that what is left behind that will do.
    have behind {pending : Pending} {rest : Bytes} (suffix : rest <:+ window)
        (shorter : rest.length < window.length) (host : Host app) :
        (serveWindow config pending rest host).1.Leaves none window := by
      have leaves := ih pending rest shorter host
      generalize (serveWindow config pending rest host).1 = stop at leaves
      cases stop with
      | wait later left => exact ⟨leaves.1.trans suffix, leaves.2⟩
      | close => trivial
      | upgraded conversation left =>
        refine ⟨leaves.1.trans suffix, ?_⟩
        have := leaves.2
        simp only [Pending.need]
        omega
    rw [serveWindow_none]
    split
    · exact ⟨List.suffix_refl _, nofun⟩
    · trivial
    · rename_i fault rest opening
      simp only
      split
      · trivial
      · exact behind (Opening.suffix_rest (.inr ⟨_, opening⟩))
          (Opening.length_rest_lt (.inr ⟨_, opening⟩)) _
    · rename_i request length rest opening
      exact behind (Opening.suffix_rest (.inl ⟨_, _, opening⟩))
        (Opening.length_rest_lt (.inl ⟨_, _, opening⟩)) _
  | body request length window ih =>
    rw [serveWindow_some]
    split
    · rename_i short
      refine ⟨List.suffix_refl _, fun _ _ same => ?_⟩
      obtain ⟨rfl, rfl⟩ := Prod.mk.inj (Option.some.inj same)
      rcases Nat.lt_or_ge window.length length with less | enough
      · exact less
      · have := Bytes.splitExactly?_isSome.2 enough
        rw [short] at this
        cases this
    · rename_i body rest split
      obtain ⟨taken, lengths⟩ := Bytes.splitExactly?_length split
      obtain ⟨-, whole⟩ := Bytes.splitExactly?_eq_some_iff.1 split
      have suffix : rest <:+ window := ⟨body, whole.symm⟩
      simp only
      split
      · have leaves := ih rest (by omega) (host.answer config request body).2
        generalize (serveWindow config none rest (host.answer config request body).2).1 = stop
          at leaves ⊢
        cases stop with
        | wait later left => exact ⟨leaves.1.trans suffix, leaves.2⟩
        | close => trivial
        | upgraded conversation left =>
          refine ⟨leaves.1.trans suffix, ?_⟩
          have := leaves.2
          simp only [Pending.need] at this ⊢
          omega
      · trivial
      · refine ⟨suffix, ?_⟩
        simp only [Pending.need]
        omega

end WebServer

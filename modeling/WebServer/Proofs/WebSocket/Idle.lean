import WebServer.Proofs.WebSocket.Life
import WebServer.Proofs.WebSocket.Onward

/-!
# What a conversation does unasked

Something is handled when a route is called or asked, or when the handler of a WebSocket is called
back with anything but the end. Beside the callback itself, a conversation handles nothing when it
calls its handler, whatever that does: sending frames, closing, or panicking. Nor does it when it
settles, finishes, or runs into its timer. `Idles` says so of the trace, and that the message in
progress is left alone.
-/
namespace WebServer

variable {ε σ β : Type}

/-- A trace that has grown, by signals of a kind. -/
def Grows (kind : Signal ε → Prop) (trace trace' : List (Signal ε)) : Prop :=
  ∃ new, trace' = new ++ trace ∧ ∀ signal ∈ new, kind signal

namespace Grows

variable {kind kind' : Signal ε → Prop} {trace trace' trace'' : List (Signal ε)}

theorem refl (trace : List (Signal ε)) : Grows kind trace trace := ⟨[], rfl, nofun⟩

theorem trans (h : Grows kind trace trace') (h' : Grows kind trace' trace'') :
    Grows kind trace trace'' := by
  obtain ⟨new, same, known⟩ := h
  obtain ⟨newer, rfl, known'⟩ := h'
  refine ⟨newer ++ new, by rw [same, List.append_assoc], ?_⟩
  exact List.forall_mem_append.2 ⟨known', known⟩

theorem cons {signal : Signal ε} (known : kind signal) (trace : List (Signal ε)) :
    Grows kind trace (signal :: trace) := ⟨[signal], rfl, List.forall_mem_singleton.2 known⟩

/-- A signal that is shown first. -/
theorem of_cons (signal : Signal ε) (known : kind signal)
    (h : Grows kind (signal :: trace) trace') : Grows kind trace trace' :=
  (cons known trace).trans h

theorem mono (h : Grows kind trace trace') (weaker : ∀ signal, kind signal → kind' signal) :
    Grows kind' trace trace' := by
  obtain ⟨new, grown, known⟩ := h
  exact ⟨new, grown, fun signal member => weaker signal (known signal member)⟩

/-- Work on a channel shows signals of the channel. -/
theorem run (channel : ∀ signal, signal.isChannel = true → kind signal) (ch : Channel ε)
    (tasks : List (Task ε)) : Grows kind ch.trace (ch.run tasks).trace := by
  obtain ⟨new, grown, known⟩ := ch.run_extends tasks
  exact ⟨new, grown, fun signal member => channel signal (known signal member)⟩

theorem suffix (h : Grows kind trace trace') : trace <:+ trace' := by
  obtain ⟨new, rfl, -⟩ := h
  exact List.suffix_append new trace

/-- What the new signals do not show is seen as before. -/
theorem seenIn_eq (h : Grows kind trace trace') {shown? : Signal ε → Option β}
    (silent : ∀ signal, kind signal → shown? signal = none) :
    seenIn shown? trace' = seenIn shown? trace := by
  obtain ⟨new, rfl, known⟩ := h
  have nothing : seenIn shown? new = [] :=
    seenIn_eq_nil fun signal member => silent signal (known signal member)
  rw [seenIn_append, nothing, List.append_nil]

end Grows

/-- Whether a signal tells that something is handled. -/
def Signal.isHandling : Signal ε → Bool
  | .handled .. | .asked .. => true
  | .callback called =>
    match called with
    | .closed .. => false
    | _ => true
  | _ => false

/-- A signal that tells neither that something is handled nor that the protocol is called. -/
def Signal.IsIdle (signal : Signal ε) : Prop :=
  signal.isHandling = false ∧ signal.isOccasion = false

theorem Signal.isIdle_of_channel (signal : Signal ε) (channel : signal.isChannel = true) :
    signal.IsIdle := by
  cases signal <;> first | exact ⟨rfl, rfl⟩ | cases channel

/-- A trace that has grown, but nothing was handled, and the protocol was not called. -/
abbrev Idle (trace trace' : List (Signal ε)) : Prop := Grows Signal.IsIdle trace trace'

theorem Idle.run (ch : Channel ε) (tasks : List (Task ε)) : Idle ch.trace (ch.run tasks).trace :=
  Grows.run Signal.isIdle_of_channel ch tasks

namespace WebSocket

namespace Socket

variable (s : Socket ε)

theorem idle_handOver (frame : Frame) (after : Completion ε) :
    Idle s.channel.trace (s.handOver frame after).channel.trace :=
  .of_cons (.framed frame) ⟨rfl, rfl⟩ (Idle.run _ _)

theorem idle_beginClosing (origin : Origin) (code : CloseCode) (reason : String)
    (payload : Bytes) :
    Idle s.channel.trace (s.beginClosing origin code reason payload).channel.trace :=
  .of_cons (.closing origin code reason) ⟨rfl, rfl⟩ (idle_handOver _ _ _)

theorem idle_perform (action : Action ε) :
    Idle s.channel.trace (s.perform action).2.channel.trace := by
  cases action with
  | send frame after =>
    simp only [perform, send]
    split
    · exact .refl _
    · split
      · exact .refl _
      · exact s.idle_handOver frame after
  | close code reason =>
    rcases s.perform_close code reason with same | ⟨-, begins⟩
    · rw [same]
      exact .refl _
    · rw [begins]
      exact s.idle_beginClosing _ _ _ _
  | setAutoPing interval timeout =>
    simp only [perform, setAutoPing]
    split
    · exact .refl _
    · split <;> exact .refl _
  | write data after | closeConnection => exact .run _ _
  | cancelAutoPing | isOpen | stats => exact .refl _

end Socket

theorem Script.idle_run (script : Script ε σ) (s : Socket ε) :
    Idle s.channel.trace (script.run s).2.channel.trace := by
  induction script generalizing s with
  | done state => exact .refl _
  | panic state => exact .refl _
  | note event next ih => exact .of_cons (.note event) ⟨rfl, rfl⟩ (ih _)
  | act action next ih => exact (s.idle_perform action).trans (ih _ _)

namespace Conversation

/-- A conversation that went on without handling anything. -/
structure Idles (c c' : Conversation ε σ) : Prop where
  trace : Idle c.socket.channel.trace c'.socket.channel.trace
  limit_eq : c'.limit = c.limit
  assembling_eq : c'.assembling = c.assembling

theorem Idles.trans {c c' c'' : Conversation ε σ} (h : c.Idles c') (h' : c'.Idles c'') :
    c.Idles c'' where
  trace := h.trace.trans h'.trace
  limit_eq := h'.limit_eq.trans h.limit_eq
  assembling_eq := h'.assembling_eq.trans h.assembling_eq

variable (react : React ε σ) (c : Conversation ε σ)

/-- The conversation once its handler is called, before the handler does anything. -/
def hearing (callback : Callback) : Conversation ε σ :=
  { c with socket := c.socket.record (.callback callback) }

theorem idles_withSocket {s : Socket ε} (idle : Idle c.socket.channel.trace s.channel.trace) :
    c.Idles { c with socket := s } := ⟨idle, rfl, rfl⟩

theorem idles_close (code : CloseCode) (reason : String) : c.Idles (c.close code reason) :=
  c.idles_withSocket (c.socket.idle_perform (.close code reason))

/-- Beside being called, the handler handles nothing. -/
theorem idles_call (callback : Callback) :
    (c.hearing callback).Idles (c.call react callback) where
  trace := by
    have script := (react c.handler callback).idle_run (c.socket.record (.callback callback))
    simp only [call]
    split
    · exact script
    · exact script.trans (Socket.idle_perform _ (.close .internal "internal error"))
  limit_eq := limit_call react c callback
  assembling_eq := assembling_call react c callback

theorem idles_notifyClose (code : CloseCode) (reason : String) :
    c.Idles (c.notifyClose react code reason) := by
  unfold notifyClose
  split
  · exact c.idles_withSocket (.refl _)
  · have called := idles_call react { c with closeNotified := true } (.closed code reason)
    exact ⟨.of_cons (.callback (.closed code reason)) ⟨rfl, rfl⟩ called.trace, called.limit_eq,
      called.assembling_eq⟩

theorem idles_settle : c.Idles (c.settle react) := by
  have taken : c.Idles { c with socket := c.socket.takeNotice.2 } := ⟨.refl _, rfl, rfl⟩
  unfold settle
  split
  · exact c.idles_withSocket (.refl _)
  · simp only
    split
    · exact taken.trans (idles_notifyClose react _ _ _)
    · exact taken

theorem idles_fail (violation : Violation) : c.Idles (c.fail react violation) :=
  (c.idles_close _ _).trans (idles_settle react _)

/-- The end of the conversation is told, and nothing else. -/
theorem idles_finish : c.Idles (c.finish react) := by
  have taken : c.Idles { c with socket := c.socket.takeNotice.2 } := ⟨.refl _, rfl, rfl⟩
  exact taken.trans (idles_notifyClose react _ _ _)

theorem idles_onTimer (now : Nat) : c.Idles (c.onTimer react now) := by
  have ticked : c.Idles { c with socket := (c.socket.tick now).2 } := by
    apply c.idles_withSocket
    rw [Socket.tick_eq]
    exact .refl _
  simp only [onTimer]
  refine ticked.trans (Idles.trans ?_ (idles_settle react _))
  split
  · exact idles_withSocket _ (.refl _)
  · exact idles_withSocket _ (Socket.idle_perform _ (.ping []))
  · exact idles_close _ _ _

/-- The handler hears of the beginning, and may then hear of the end. -/
theorem idles_start : (c.hearing .opened).Idles (c.start react) :=
  (c.idles_call react .opened).trans (idles_settle react _)

end Conversation
end WebSocket
end WebServer

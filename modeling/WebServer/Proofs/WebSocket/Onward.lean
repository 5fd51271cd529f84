import WebServer.Proofs.WebSocket.Decoding
import WebServer.Proofs.WebSocket.Messages

/-!
# Streams that break no rule

What a stream of frames without a fault comes to, from any message in progress: `GoesOn` says what
a handler is to hear of it, in terms of the bytes alone. Whatever the handler does in between, a
conversation in which it neither closes nor panics takes all of the stream and calls the handler
back with that (`Takes.takeFrames`).
-/
namespace WebServer

variable {ε σ : Type}

/-- The close frames that were handed to the channel. -/
def closeFramesIn (trace : List (Signal ε)) : List WebSocket.Frame :=
  (framesIn trace).filter fun frame => frame.opcode = .close

namespace WebSocket

/-- A stream goes on without a fault: from a message in progress to another, with the callbacks that
the frames give cause for. -/
inductive GoesOn (limit : Nat) :
    Option (Opcode × Bytes) → Bytes → List Callback → Option (Opcode × Bytes) → Prop where
  | here (progress : Option (Opcode × Bytes)) : GoesOn limit progress [] [] progress
  | ping {progress later : Option (Opcode × Bytes)} {taken rest payload : Bytes}
    {callbacks : List Callback} (on : Frame.FrameOn limit taken ⟨true, .ping, payload⟩)
    (onward : GoesOn limit progress rest callbacks later) :
    GoesOn limit progress (taken ++ rest) (.ping payload :: callbacks) later
  | pong {progress later : Option (Opcode × Bytes)} {taken rest payload : Bytes}
    {callbacks : List Callback} (on : Frame.FrameOn limit taken ⟨true, .pong, payload⟩)
    (onward : GoesOn limit progress rest callbacks later) :
    GoesOn limit progress (taken ++ rest) (.pong payload :: callbacks) later
  /-- A message in one frame. -/
  | whole {message : Message} {later : Option (Opcode × Bytes)} {taken rest : Bytes}
    {callbacks : List Callback}
    (on : Frame.FrameOn limit taken ⟨true, message.opcode, message.bytes⟩)
    (onward : GoesOn limit none rest callbacks later) :
    GoesOn limit none (taken ++ rest) (.message message :: callbacks) later
  /-- The first fragment of a message. -/
  | first {opcode : Opcode} {later : Option (Opcode × Bytes)} {taken rest payload : Bytes}
    {callbacks : List Callback} (on : Frame.FrameOn limit taken ⟨false, opcode, payload⟩)
    (data : opcode = .text ∨ opcode = .binary)
    (onward : GoesOn limit (some (opcode, payload)) rest callbacks later) :
    GoesOn limit none (taken ++ rest) callbacks later
  | fragment {opcode : Opcode} {later : Option (Opcode × Bytes)} {taken rest done payload : Bytes}
    {callbacks : List Callback} (on : Frame.FrameOn limit taken ⟨false, .continuation, payload⟩)
    (within : done.length + payload.length ≤ limit)
    (onward : GoesOn limit (some (opcode, done ++ payload)) rest callbacks later) :
    GoesOn limit (some (opcode, done)) (taken ++ rest) callbacks later
  /-- The last fragment, with which the message is whole. -/
  | last {message : Message} {later : Option (Opcode × Bytes)} {taken rest done payload : Bytes}
    {callbacks : List Callback} (on : Frame.FrameOn limit taken ⟨true, .continuation, payload⟩)
    (within : done.length + payload.length ≤ limit) (joined : done ++ payload = message.bytes)
    (onward : GoesOn limit none rest callbacks later) :
    GoesOn limit (some (message.opcode, done)) (taken ++ rest) (.message message :: callbacks) later

/-- An action that sends no close frame past `close`. -/
def Action.Honest (action : Action ε) : Prop :=
  ∀ frame after, action = .send frame after → frame.opcode ≠ .close

section

variable {s : Socket ε} {action : Action ε} {script : Script ε σ}

/-- No action calls the handler back. -/
theorem Socket.callbacks_perform (s : Socket ε) (action : Action ε) :
    callbacksIn (s.perform action).2.channel.trace = callbacksIn s.channel.trace := by
  rcases action.close_or_other with ⟨code, reason, rfl⟩ | other
  · rcases s.perform_close code reason with same | ⟨-, begins⟩
    · rw [same]
    · rw [begins, (s.aside_beginClosing _ _ _ _).callbacks_eq]
      refine (seenIn_cons _ _).trans ?_
      exact List.append_nil _
  · exact (s.aside_perform other).callbacks_eq

/-- Close frames come from closing, and then the socket is closing. -/
theorem Socket.closeFrames_perform (honest : action.Honest)
    (opened : (s.perform action).2.session.closing = false) :
    closeFramesIn (s.perform action).2.channel.trace = closeFramesIn s.channel.trace := by
  cases action with
  | send frame after =>
    simp only [perform, send]
    split
    · rfl
    · split
      · rfl
      · have other : frame.opcode ≠ .close := honest frame after rfl
        have frames : framesIn (s.handOver frame after).channel.trace =
            framesIn s.channel.trace ++ [frame] :=
          (framesIn_run _ _).trans (seenIn_cons _ _)
        simp [attempt, closeFramesIn, frames, other]
  | close code reason =>
    rcases s.perform_close code reason with same | ⟨-, begins⟩
    · rw [same]
    · rw [begins] at opened
      cases opened
  | setAutoPing interval timeout =>
    simp only [perform, setAutoPing]
    split
    · rfl
    · split <;> rfl
  | write data after | closeConnection =>
    exact congrArg (List.filter _) (framesIn_run _ _)
  | cancelAutoPing | isOpen | stats => rfl

theorem Script.callbacks_run (script : Script ε σ) (s : Socket ε) :
    callbacksIn (script.run s).2.channel.trace = callbacksIn s.channel.trace := by
  induction script generalizing s with
  | done state => rfl
  | panic state => rfl
  | note event next ih => exact (ih _).trans ((seenIn_cons _ _).trans (List.append_nil _))
  | act action next ih => exact (ih _ _).trans (s.callbacks_perform action)

theorem Script.closeFrames_run (honest : script.Within Action.Honest)
    (opened : (script.run s).2.session.closing = false) :
    closeFramesIn (script.run s).2.channel.trace = closeFramesIn s.channel.trace := by
  induction script generalizing s with
  | done state => rfl
  | panic state => rfl
  | note event next ih =>
    refine (ih honest opened).trans (congrArg (List.filter _) ?_)
    exact (seenIn_cons _ _).trans (List.append_nil _)
  | act action next ih =>
    -- What is closing stays so, and the script ends on a socket that is not.
    have before : (s.perform action).2.session.closing = false := by
      refine Bool.eq_false_iff.2 fun closing => ?_
      have closed := ((Socket.Leads.script _ (next (s.perform action).1)).closing closing).1
      exact absurd closed (Bool.eq_false_iff.1 opened)
    exact (ih _ (honest.2 _) opened).trans (Socket.closeFrames_perform honest.1 before)

end

variable {react : React ε σ} {c c' c'' : Conversation ε σ}

namespace Conversation

theorem callbacks_close (c : Conversation ε σ) (code : CloseCode) (reason : String) :
    callbacksIn (c.close code reason).socket.channel.trace =
      callbacksIn c.socket.channel.trace :=
  c.socket.callbacks_perform (.close code reason)

/-- A call of the handler shows as one callback, whatever the handler does. -/
theorem callbacks_call (react : React ε σ) (c : Conversation ε σ) (callback : Callback) :
    callbacksIn (c.call react callback).socket.channel.trace =
      callbacksIn c.socket.channel.trace ++ [callback] := by
  have script := (react c.handler callback).callbacks_run (c.socket.record (.callback callback))
  have called : callbacksIn (c.socket.record (.callback callback)).channel.trace =
      callbacksIn c.socket.channel.trace ++ [callback] := seenIn_cons _ _
  rw [called] at script
  simp only [call]
  split
  · exact script
  · exact (callbacks_close _ _ _).trans script

theorem closing_call (react : React ε σ) (c : Conversation ε σ) (callback : Callback)
    (closing : c.socket.session.closing = true) :
    (c.call react callback).socket.session.closing = true :=
  (@call_moves ε σ {} react react.within_true c callback).preserve
    (fun _ _ move => move.closing) closing

/-- If the conversation goes on behind a call, the handler sent a close frame only if it is not
honest. -/
theorem closeFrames_call (honest : react.Within Action.Honest) {callback : Callback}
    (opened : (c.call react callback).socket.session.closing = false) :
    closeFramesIn (c.call react callback).socket.channel.trace =
      closeFramesIn c.socket.channel.trace := by
  have called : closeFramesIn (c.socket.record (.callback callback)).channel.trace =
      closeFramesIn c.socket.channel.trace :=
    congrArg (List.filter _) ((seenIn_cons _ _).trans (List.append_nil _))
  simp only [call] at opened ⊢
  split
  · rename_i ended
    rw [ended] at opened
    exact (Script.closeFrames_run (honest _ _) opened).trans called
  · rename_i ended
    rw [ended] at opened
    -- A panic closes the socket.
    exact absurd (closing_close _ (by decide)) (Bool.eq_false_iff.1 opened)

theorem limit_call (react : React ε σ) (c : Conversation ε σ) (callback : Callback) :
    (c.call react callback).limit = c.limit := by
  simp only [call]
  split <;> rfl

theorem assembling_call (react : React ε σ) (c : Conversation ε σ) (callback : Callback) :
    (c.call react callback).assembling = c.assembling := by
  simp only [call]
  split <;> rfl

end Conversation

/-- The same conversation, but for its keepalive and the message in progress. -/
structure Conversation.Same (c c' : Conversation ε σ) : Prop where
  channel : c'.socket.channel = c.socket.channel
  closing : c'.socket.session.closing = c.socket.session.closing
  untold : c'.closeNotified = c.closeNotified
  limit : c'.limit = c.limit

/-- A conversation that goes on comes from one that did, with these callbacks. -/
structure Onward (react : React ε σ) (c : Conversation ε σ) (callbacks : List Callback)
    (c' : Conversation ε σ) : Prop where
  opened : c'.socket.session.closing = false → c.socket.session.closing = false
  untold_eq : c'.closeNotified = c.closeNotified
  limit_eq : c'.limit = c.limit
  callbacks_eq : callbacksIn c'.socket.channel.trace =
    callbacksIn c.socket.channel.trace ++ callbacks
  closeFrames : react.Within Action.Honest → c'.socket.session.closing = false →
    closeFramesIn c'.socket.channel.trace = closeFramesIn c.socket.channel.trace

namespace Onward

variable {callbacks more : List Callback}

theorem trans (h : Onward react c callbacks c') (h' : Onward react c' more c'') :
    Onward react c (callbacks ++ more) c'' where
  opened opened := h.opened (h'.opened opened)
  untold_eq := h'.untold_eq.trans h.untold_eq
  limit_eq := h'.limit_eq.trans h.limit_eq
  callbacks_eq := by rw [h'.callbacks_eq, h.callbacks_eq, List.append_assoc]
  closeFrames honest opened :=
    (h'.closeFrames honest opened).trans (h.closeFrames honest (h'.opened opened))

theorem of_same (same : c.Same c') : Onward react c [] c' where
  opened opened := same.closing.symm.trans opened
  untold_eq := same.untold
  limit_eq := same.limit
  callbacks_eq := by rw [same.channel, List.append_nil]
  closeFrames _ _ := by rw [same.channel]

theorem call (react : React ε σ) (c : Conversation ε σ) (callback : Callback) :
    Onward react c [callback] (c.call react callback) where
  opened opened := Bool.eq_false_iff.2 fun closing =>
    absurd (c.closing_call react callback closing) (Bool.eq_false_iff.1 opened)
  untold_eq := Conversation.closeNotified_call _ _ _
  limit_eq := c.limit_call react callback
  callbacks_eq := c.callbacks_call react callback
  closeFrames honest opened := Conversation.closeFrames_call honest opened

end Onward

namespace Conversation

theorem closing_takeFrames (react : React ε σ) {c : Conversation ε σ} (window : Bytes)
    (closing : c.socket.session.closing = true) :
    (c.takeFrames react window).2.socket.session.closing = true := by
  have settled : (c.settle react).socket.session.closing = true :=
    (@settle_moves ε σ {} react react.within_true c).preserve
      (fun _ _ move => move.closing) closing
  rw [takeFrames_eq, if_pos settled]
  exact settled

/-- A frame at the beginning of a window is taken. -/
theorem takeFrames_cons (react : React ε σ) {c : Conversation ε σ}
    (opened : c.socket.session.closing = false) {taken : Bytes} {frame : Frame}
    (on : Frame.FrameOn c.limit taken frame) (rest : Bytes) :
    c.takeFrames react (taken ++ rest) = (c.onFrame react frame).takeFrames react rest := by
  have decoded := Frame.decode_eq_some_iff.2 ⟨taken, rest, on, rfl, rfl⟩
  rw [takeFrames_eq, settle_of_open opened, if_neg (Bool.eq_false_iff.1 opened), decoded]
  simp only
  rw [List.drop_left]

end Conversation

/-- What frames come to as long as none of them offends: each is kept, or the handler is called once
because of it. -/
inductive Takes (react : React ε σ) :
    Conversation ε σ → Bytes → List Callback → Option (Opcode × Bytes) → Prop where
  | here (c : Conversation ε σ) : Takes react c [] [] c.assembling
  | kept {c c' : Conversation ε σ} {taken rest : Bytes} {frame : Frame}
    {callbacks : List Callback} {later : Option (Opcode × Bytes)}
    (on : Frame.FrameOn c.limit taken frame) (taking : c.onFrame react frame = c')
    (same : c.Same c') (onward : Takes react c' rest callbacks later) :
    Takes react c (taken ++ rest) callbacks later
  | called {c c' : Conversation ε σ} {taken rest : Bytes} {frame : Frame} {callback : Callback}
    {callbacks : List Callback} {later : Option (Opcode × Bytes)}
    (on : Frame.FrameOn c.limit taken frame)
    (taking : c.onFrame react frame = c'.call react callback) (same : c.Same c')
    (during : callback.isDuring = true)
    (onward : Takes react (c'.call react callback) rest callbacks later) :
    Takes react c (taken ++ rest) (callback :: callbacks) later

theorem Frame.FrameOn.length_le {limit : Nat} {taken : Bytes} {frame : Frame}
    (on : FrameOn limit taken frame) : frame.payload.length ≤ limit := by
  cases on with
  | of read rules within four => exact Nat.le_trans (Nat.le_of_eq (length_applyMask _ _)) within

/-- A stream that goes on comes to that, whatever the handler does. -/
theorem GoesOn.takes {limit : Nat} {progress later : Option (Opcode × Bytes)} {before : Bytes}
    {callbacks : List Callback} (h : GoesOn limit progress before callbacks later)
    (react : React ε σ) {c : Conversation ε σ} (limit_eq : c.limit = limit)
    (progress_eq : c.assembling = progress) : Takes react c before callbacks later := by
  induction h generalizing c with
  | here progress =>
    subst progress_eq
    exact .here c
  | @ping _ _ _ _ payload _ on onward ih =>
    subst limit_eq
    exact .called on rfl ⟨rfl, rfl, rfl, rfl⟩ rfl
      (ih (c.limit_call _ _) ((c.assembling_call _ _).trans progress_eq))
  | @pong _ _ _ _ payload _ on onward ih =>
    subst limit_eq
    let received : Conversation ε σ := { c with socket := c.socket.pongReceived }
    have same : c.Same received := ⟨rfl, rfl, rfl, rfl⟩
    exact .called on rfl same rfl
      (ih (received.limit_call _ _) ((received.assembling_call _ _).trans progress_eq))
  | @whole message _ _ _ _ on onward ih =>
    subst limit_eq
    have delivered : c.onFrame react ⟨true, message.opcode, message.bytes⟩ =
        c.call react (.message message) := by
      rw [c.onFrame_message react progress_eq, if_pos rfl, Conversation.deliver,
        message.toMessage_bytes]
    exact .called on delivered ⟨rfl, rfl, rfl, rfl⟩ rfl
      (ih (c.limit_call _ _) ((c.assembling_call _ _).trans progress_eq))
  | @first opcode _ _ _ payload _ on data onward ih =>
    subst limit_eq
    have within : ([] : Bytes).length + payload.length ≤ c.limit := by
      rw [List.length_nil, Nat.zero_add]
      exact on.length_le
    have gathered : c.onFrame react ⟨false, opcode, payload⟩ =
        { c with assembling := some (opcode, payload) } := by
      rcases data with rfl | rfl
      · exact (c.onFrame_message react progress_eq (.text "") false payload).trans
          (c.gather_of_le react .text within false)
      · exact (c.onFrame_message react progress_eq (.binary []) false payload).trans
          (c.gather_of_le react .binary within false)
    exact .kept on gathered ⟨rfl, rfl, rfl, rfl⟩ (ih rfl rfl)
  | @fragment opcode _ _ _ done payload _ on within onward ih =>
    subst limit_eq
    have gathered := (c.onFrame_continuation react progress_eq false payload).trans
      (c.gather_of_le react opcode within false)
    exact .kept on gathered ⟨rfl, rfl, rfl, rfl⟩ (ih rfl rfl)
  | @last message _ _ _ done payload _ on within joined onward ih =>
    subst limit_eq
    let whole : Conversation ε σ := { c with assembling := none }
    have delivered : c.onFrame react ⟨true, .continuation, payload⟩ =
        whole.call react (.message message) := by
      rw [c.onFrame_continuation react progress_eq, c.gather_of_le react _ within, if_pos rfl,
        joined, Conversation.deliver, message.toMessage_bytes]
    exact .called on delivered ⟨rfl, rfl, rfl, rfl⟩ rfl
      (ih (whole.limit_call _ _) (whole.assembling_call _ _))

namespace Takes

variable {before : Bytes} {callbacks : List Callback} {later : Option (Opcode × Bytes)}

/-- All of the stream is taken, if the handler has not closed or panicked by then. -/
theorem takeFrames (h : Takes react c before callbacks later)
    (patient : (c.takeFrames react before).2.socket.session.closing = false) :
    ∃ met, c.takeFrames react before = (some [], met) ∧ Onward react c callbacks met ∧
      met.assembling = later ∧ met.socket.session.closing = false := by
  have opened {c : Conversation ε σ} {window : Bytes}
      (patient : (c.takeFrames react window).2.socket.session.closing = false) :
      c.socket.session.closing = false :=
    Bool.eq_false_iff.2 fun closing =>
      absurd (Conversation.closing_takeFrames react window closing) (Bool.eq_false_iff.1 patient)
  induction h with
  | here c =>
    have nothing := Conversation.takeFrames_nil react (opened patient)
    exact ⟨c, nothing, .of_same ⟨rfl, rfl, rfl, rfl⟩, rfl, opened patient⟩
  | @kept c c' _ rest _ _ _ on taking same onward ih =>
    have next := Conversation.takeFrames_cons react (opened patient) on rest
    rw [taking] at next
    rw [next] at patient ⊢
    obtain ⟨met, took, onward', behind⟩ := ih patient
    exact ⟨met, took, (Onward.of_same same).trans onward', behind⟩
  | @called c c' _ rest _ callback _ _ on taking same during onward ih =>
    have next := Conversation.takeFrames_cons react (opened patient) on rest
    rw [taking] at next
    rw [next] at patient ⊢
    obtain ⟨met, took, onward', behind⟩ := ih patient
    have called := (Onward.of_same same).trans (.call react c' callback)
    exact ⟨met, took, called.trans onward', behind⟩

/-- A handler that neither closes nor panics has not done so. -/
theorem patient_of_gentle (h : Takes react c before callbacks later) (gentle : react.Gentle)
    (opened : c.socket.session.closing = false) :
    (c.takeFrames react before).2.socket.session.closing = false := by
  induction h with
  | here c =>
    rw [Conversation.takeFrames_nil react opened]
    exact opened
  | kept on taking same onward ih =>
    rw [Conversation.takeFrames_cons react opened on, taking]
    exact ih (same.closing.trans opened)
  | @called c c' _ _ _ callback _ _ on taking same during onward ih =>
    have script := gentle c'.handler callback during
    have returns := script.returns (c'.socket.record (.callback callback))
    have goesOn : (c'.call react callback).socket.session.closing = false := by
      simp only [Conversation.call]
      rw [returns]
      exact (script.closing_eq _).trans (same.closing.trans opened)
    rw [Conversation.takeFrames_cons react opened on, taking]
    exact ih goesOn

end Takes

end WebSocket
end WebServer

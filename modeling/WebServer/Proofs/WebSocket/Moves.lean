import Mathlib.Logic.Relation
import WebServer.Proofs.Channel.Seen
import WebServer.Proofs.Stream.Alike

/-!
# Moves of a conversation

Whatever a conversation does, whether it takes frames, runs its timer or is told that the peer is
gone, comes down to a few kinds of moves: an action on the socket, a callback, the end. A move also
says when it is possible. So what every move preserves, every function of the conversation
preserves, and what may happen between two of them as well. The lemmas of the last section follow
the functions, from scripts to the taking of a window.
-/
namespace WebServer

variable {ε σ : Type}

namespace Signal

/-- Whether a signal tells on what occasion a protocol runs. -/
def isOccasion : Signal ε → Bool
  | .window _ | .timer | .peerClosed | .tornDown => true
  | _ => false

end Signal

namespace WebSocket

/-- The callbacks between the first and the last. -/
def Callback.isDuring : Callback → Bool
  | .message _ | .ping _ | .pong _ => true
  | .opened | .closed .. => false

/-- A frame is one of those that a window holds, whatever limit each of them was read under. -/
inductive FrameIn (frame : Frame) : Bytes → Prop where
  | first {window : Bytes} {limit used : Nat}
    (decoded : Frame.decode limit window = .ok (some (frame, used))) : FrameIn frame window
  | behind {window : Bytes} {limit used : Nat} {before : Frame}
    (decoded : Frame.decode limit window = .ok (some (before, used)))
    (later : FrameIn frame (window.drop used)) : FrameIn frame window

/-- A window holds a close frame with that payload. -/
def CloseFrameIn (window payload : Bytes) : Prop :=
  ∃ frame, FrameIn frame window ∧ frame.opcode = .close ∧ frame.payload = payload

/-- A close frame with that payload was in a window that was offered. -/
def Came (trace : List (Signal ε)) (payload : Bytes) : Prop :=
  ∃ window, Signal.window window ∈ trace ∧ CloseFrameIn window payload

theorem Came.of_suffix {trace trace' : List (Signal ε)} {payload : Bytes}
    (grown : trace <:+ trace') (h : Came trace payload) : Came trace' payload := by
  obtain ⟨window, offered, closes⟩ := h
  exact ⟨window, grown.subset offered, closes⟩

/-- A conversation but for its handler and the message that is still incomplete. -/
structure Standing (ε : Type) where
  socket : Socket ε
  /-- The handler was told of the end. -/
  told : Bool

def Conversation.standing (c : Conversation ε σ) : Standing ε := ⟨c.socket, c.closeNotified⟩

/-- The socket is closing, and nothing is left of its keepalive. -/
def Standing.Ended (st : Standing ε) : Prop :=
  st.socket.session.closing = true ∧ st.socket.session.keepalive = none

/-- What the server closes with by itself: a fault of the peer, a panic of the handler, or a pong
that does not come. -/
inductive OwnClose : CloseCode → String → Prop where
  | fault (violation : Violation) : OwnClose violation.code violation.reason
  | panic : OwnClose .internal "internal error"
  | missedPong : OwnClose .normal "ping timeout"

/-- What may happen, beside what the server does by itself. -/
structure Scope (ε : Type) where
  /-- The actions that the application takes on the socket. -/
  acts : Action ε → Prop := fun _ => True
  /-- What is done to the channel past the socket. -/
  works : Task ε → Prop := fun _ => True
  /-- When the timer runs. -/
  times : Nat → Prop := fun _ => True

/-- What leads from one standing to the next. -/
inductive Move (scope : Scope ε) : Standing ε → Standing ε → Prop where
  /-- There is work on the channel, perhaps with completions. -/
  | work {s : Socket ε} {told : Bool} (tasks : List (Task ε))
    (within : ∀ task ∈ tasks, scope.works task) :
    Move scope ⟨s, told⟩ ⟨{ s with channel := s.channel.run tasks }, told⟩
  | wire {s : Socket ε} {told : Bool} (wire : Wire) :
    Move scope ⟨s, told⟩ ⟨{ s with channel := { s.channel with wire } }, told⟩
  | clock {s : Socket ε} {told : Bool} (now : Nat) :
    Move scope ⟨s, told⟩ ⟨{ s with now }, told⟩
  | occasion {s : Socket ε} {told : Bool} (signal : Signal ε)
    (occasion : signal.isOccasion = true) :
    Move scope ⟨s, told⟩ ⟨s.record signal, told⟩
  | note {s : Socket ε} {told : Bool} (event : ε) : Move scope ⟨s, told⟩ ⟨s.note event, told⟩
  | act {s : Socket ε} {told : Bool} (action : Action ε) (within : scope.acts action) :
    Move scope ⟨s, told⟩ ⟨(s.perform action).2, told⟩
  /-- The server closes by itself. -/
  | close {s : Socket ε} {told : Bool} (code : CloseCode) (reason : String)
    (own : OwnClose code reason) : Move scope ⟨s, told⟩ ⟨(s.perform (.close code reason)).2, told⟩
  | tick {s : Socket ε} {told : Bool} (now : Nat) (within : scope.times now) :
    Move scope ⟨s, told⟩ ⟨(s.tick now).2, told⟩
  /-- The handler is called with a message or a ping. -/
  | hear {s : Socket ε} {told : Bool} (callback : Callback) (during : callback.isDuring = true)
    (opened : s.session.closing = false) :
    Move scope ⟨s, told⟩ ⟨s.record (.callback callback), told⟩
  /-- A pong comes, and the handler is called with it. -/
  | pong {s : Socket ε} {told : Bool} (payload : Bytes) (opened : s.session.closing = false) :
    Move scope ⟨s, told⟩ ⟨s.pongReceived.record (.callback (.pong payload)), told⟩
  /-- The peer closes; it is answered, and the handler is told. -/
  | answer {s : Socket ε} {code : CloseCode} {reason : String} (payload : Bytes)
    (opened : s.session.closing = false) (read : CloseCode.ofPayload? payload = some (code, reason))
    (came : Came s.channel.trace payload) :
    Move scope ⟨s, false⟩
      ⟨(s.echoClose code reason payload).record (.callback (.closed code reason)), true⟩
  /-- The handler is told of the end, with what the notice says if there is one. -/
  | tell {s : Socket ε} {code : CloseCode} {reason : String}
    (read : s.session.notice.getD (.abnormal, "") = (code, reason)) :
    Move scope ⟨s, false⟩ ⟨s.takeNotice.2.record (.callback (.closed code reason)), true⟩
  /-- The end comes and nothing is to be told. -/
  | silence {s : Socket ε} {told : Bool}
    (known : told = true ∨ s.session.closing = true ∧ s.session.notice = none) :
    Move scope ⟨s, told⟩ ⟨s.takeNotice.2, told⟩

/-- Moves one after another. -/
abbrev Moves (scope : Scope ε) : Standing ε → Standing ε → Prop :=
  Relation.ReflTransGen (Move scope)

/-- What every move preserves holds behind all of them. -/
theorem Moves.preserve {scope : Scope ε} {P : Standing ε → Prop}
    (step : ∀ st st', Move scope st st' → P st → P st') {st st' : Standing ε}
    (moves : Moves scope st st') (h : P st) : P st' := by
  induction moves with
  | refl => exact h
  | tail _ move ih => exact step _ _ move ih

/-- The session of a conversation that is over and of whose end the handler was told. -/
def Session.finished : Session := { keepalive := none, closing := true, notice := none }

/-- Nobody is told of an end that has not begun. -/
def Standing.Honest (st : Standing ε) : Prop := st.told = true → st.socket.session.closing = true

def Action.isClose : Action ε → Bool
  | .close .. => true
  | _ => false

theorem Action.close_or_other (action : Action ε) :
    (∃ code reason, action = .close code reason) ∨ action.isClose = false := by
  cases action with
  | close code reason => exact .inl ⟨code, reason, rfl⟩
  | send | setAutoPing | cancelAutoPing | write | closeConnection | isOpen | stats =>
    exact .inr rfl

namespace Socket

/-- Only a close changes what there is to say of the end. -/
theorem session_perform (s : Socket ε) {action : Action ε} (other : action.isClose = false) :
    (s.perform action).2.session.closing = s.session.closing ∧
      (s.perform action).2.session.notice = s.session.notice := by
  cases action with
  | send frame after =>
    simp only [perform, send]
    split
    · exact ⟨rfl, rfl⟩
    · split <;> exact ⟨rfl, rfl⟩
  | close code reason => cases other
  | setAutoPing interval timeout =>
    simp only [perform, setAutoPing]
    split
    · exact ⟨rfl, rfl⟩
    · split <;> exact ⟨rfl, rfl⟩
  | cancelAutoPing | write data after | closeConnection | isOpen | stats => exact ⟨rfl, rfl⟩

/-- A close is refused, or finds the socket closing, or begins it. -/
theorem perform_close (s : Socket ε) (code : CloseCode) (reason : String) :
    (s.perform (.close code reason)).2 = s ∨
      s.session.closing = false ∧
        (s.perform (.close code reason)).2 =
          s.beginClosing .here code reason (code.payload reason) := by
  simp only [perform, close]
  split
  · exact .inl rfl
  · split
    · exact .inl rfl
    · rename_i opened
      exact .inr ⟨Bool.eq_false_iff.2 opened, rfl⟩

theorem echoClose_of_open {s : Socket ε} (opened : s.session.closing = false) (code : CloseCode)
    (reason : String) (payload : Bytes) :
    s.echoClose code reason payload = s.beginClosing .peer code reason payload := by
  simp [echoClose, opened]

/-- Running the timer changes nothing but the keepalive. -/
theorem tick_eq (s : Socket ε) (now : Nat) :
    (s.tick now).2 =
      { s with session := { s.session with
          keepalive := s.session.keepalive.map fun k => (k.tick now).2 } } := by
  unfold tick
  cases keepalive : s.session.keepalive with
  | none =>
    obtain ⟨⟨_, closing, notice⟩, channel, now⟩ := s
    simp only at keepalive
    subst keepalive
    rfl
  | some k => rfl

theorem closing_tick (s : Socket ε) (now : Nat) :
    (s.tick now).2.session.closing = s.session.closing := by
  rw [tick_eq]

theorem closing_perform (s : Socket ε) (action : Action ε) (closing : s.session.closing = true) :
    (s.perform action).2.session.closing = true := by
  rcases action.close_or_other with ⟨code, reason, rfl⟩ | other
  · rcases s.perform_close code reason with same | ⟨opened, -⟩
    · rw [same, closing]
    · rw [opened] at closing
      cases closing
  · exact (s.session_perform other).1.trans closing

/-- A socket that is closing gets no keepalive. -/
theorem disarmed_perform (s : Socket ε) (action : Action ε) (closing : s.session.closing = true)
    (disarmed : s.session.keepalive = none) : (s.perform action).2.session.keepalive = none := by
  cases action with
  | send frame after =>
    simp only [perform, send, closing, if_true]
    split <;> exact disarmed
  | close code reason =>
    simp only [perform, close, closing, if_true]
    split <;> exact disarmed
  | setAutoPing interval timeout =>
    simp only [perform, setAutoPing, closing, if_true]
    split <;> exact disarmed
  | cancelAutoPing => rfl
  | write | closeConnection | isOpen | stats => exact disarmed

theorem grows_handOver (s : Socket ε) (frame : Frame) (after : Completion ε) :
    s.channel.trace <:+ (s.handOver frame after).channel.trace :=
  have written := Channel.run_extends (s.channel.record (.framed frame))
    [.complete (.write frame.encode after .done)]
  (List.suffix_cons _ _).trans written.suffix

theorem grows_beginClosing (s : Socket ε) (origin : Origin) (code : CloseCode) (reason : String)
    (payload : Bytes) :
    s.channel.trace <:+ (s.beginClosing origin code reason payload).channel.trace := by
  refine List.IsSuffix.trans ?_ (grows_handOver _ _ _)
  exact List.suffix_cons _ _

theorem grows_perform (s : Socket ε) (action : Action ε) :
    s.channel.trace <:+ (s.perform action).2.channel.trace := by
  cases action with
  | send frame after =>
    simp only [perform, send]
    split
    · exact List.suffix_refl _
    · split
      · exact List.suffix_refl _
      · exact s.grows_handOver frame after
  | close code reason =>
    rcases s.perform_close code reason with same | ⟨-, begins⟩
    · exact ⟨[], congrArg (fun s => s.channel.trace) same.symm⟩
    · rw [begins]
      exact s.grows_beginClosing _ _ _ _
  | setAutoPing interval timeout =>
    simp only [perform, setAutoPing]
    split
    · exact List.suffix_refl _
    · split <;> exact List.suffix_refl _
  | write data after | closeConnection => exact (Channel.run_extends _ _).suffix
  | cancelAutoPing | isOpen | stats => exact List.suffix_refl _

end Socket

/-- A trace never loses anything. -/
theorem Move.grows {scope : Scope ε} {st st' : Standing ε} (move : Move scope st st') :
    st.socket.channel.trace <:+ st'.socket.channel.trace := by
  cases move with
  | work tasks => exact (Channel.run_extends _ tasks).suffix
  | wire | clock | silence => exact List.suffix_refl _
  | occasion | note | hear | pong | tell => exact List.suffix_cons _ _
  | act action => exact Socket.grows_perform _ action
  | close code reason => exact Socket.grows_perform _ _
  | @tick s told now => exact ⟨[], congrArg (fun s => s.channel.trace) (s.tick_eq now).symm⟩
  | answer payload opened =>
    simp only [Socket.echoClose_of_open opened]
    exact (Socket.grows_beginClosing _ _ _ _ _).trans (List.suffix_cons _ _)

theorem Moves.grows {scope : Scope ε} {st st' : Standing ε} (moves : Moves scope st st') :
    st.socket.channel.trace <:+ st'.socket.channel.trace :=
  moves.preserve (P := fun st' => st.socket.channel.trace <:+ st'.socket.channel.trace)
    (fun _ _ move grown => grown.trans move.grows) (List.suffix_refl _)

/-- Closing is for good. -/
theorem Move.closing {scope : Scope ε} {st st' : Standing ε} (move : Move scope st st')
    (closing : st.socket.session.closing = true) : st'.socket.session.closing = true := by
  cases move with
  | work | wire | clock | occasion | note => exact closing
  | act action within => exact Socket.closing_perform _ action closing
  | close code reason => exact Socket.closing_perform _ _ closing
  | @tick s told now => exact (s.closing_tick now).trans closing
  | hear | pong => exact closing
  | answer payload opened =>
    rw [opened] at closing
    cases closing
  | tell | silence => rfl

/-- So is the end of the keepalive. -/
theorem Move.ended {scope : Scope ε} {st st' : Standing ε} (move : Move scope st st')
    (ended : st.Ended) : st'.Ended := by
  refine ⟨move.closing ended.1, ?_⟩
  obtain ⟨closing, disarmed⟩ := ended
  cases move with
  | work | wire | clock | occasion | note | hear => exact disarmed
  | @act s told action within => exact s.disarmed_perform action closing disarmed
  | @close s told code reason => exact s.disarmed_perform (.close code reason) closing disarmed
  | @tick s told now =>
    rw [Socket.tick_eq, disarmed]
    rfl
  | @pong s told payload opened | @answer s code reason payload opened =>
    rw [opened] at closing
    cases closing
  | tell | silence => rfl

/-- A socket that closes loses its keepalive. -/
theorem Move.disarms {scope : Scope ε} {st st' : Standing ε} (move : Move scope st st')
    (ended : st.socket.session.closing = true → st.Ended)
    (closing : st'.socket.session.closing = true) : st'.Ended := by
  cases before : st.socket.session.closing with
  | true => exact move.ended (ended before)
  | false =>
    have close {s : Socket ε} {code : CloseCode} {reason : String}
        (before : s.session.closing = false)
        (closing : (s.perform (.close code reason)).2.session.closing = true) :
        (s.perform (.close code reason)).2.session.keepalive = none := by
      rcases s.perform_close code reason with same | ⟨-, begins⟩
      · rw [same, before] at closing
        cases closing
      · rw [begins]
        rfl
    cases move with
    | work | wire | clock | occasion | note | hear | pong =>
      exact absurd (before.symm.trans closing) nofun
    | @act s told action within =>
      rcases action.close_or_other with ⟨code, reason, rfl⟩ | other
      · exact ⟨closing, close before closing⟩
      · exact absurd (before.symm.trans ((s.session_perform other).1.symm.trans closing)) nofun
    | close => exact ⟨closing, close before closing⟩
    | @tick s told now =>
      exact absurd (before.symm.trans ((s.closing_tick now).symm.trans closing)) nofun
    | answer payload opened =>
      simp only [Socket.echoClose_of_open opened]
      exact ⟨rfl, rfl⟩
    | tell | silence => exact ⟨rfl, rfl⟩

/-- An action changes nothing of a session that is over. -/
theorem Socket.session_perform_of_over {s : Socket ε} (action : Action ε)
    (finished : s.session = .finished) :
    (s.perform action).2.session = .finished := by
  have closing : s.session.closing = true := congrArg Session.closing finished
  cases action with
  | send frame after =>
    simp only [perform, send, closing, if_true]
    split <;> exact finished
  | close code reason =>
    simp only [perform, close, closing, if_true]
    split <;> exact finished
  | setAutoPing interval timeout =>
    simp only [perform, setAutoPing, closing, if_true]
    split <;> exact finished
  | cancelAutoPing =>
    simp only [perform, cancelAutoPing, finished]
    rfl
  | write data after | closeConnection | isOpen | stats => exact finished

/-- What is over stays so. -/
theorem Move.finished {scope : Scope ε} {st st' : Standing ε} (move : Move scope st st')
    (finished : st.socket.session = .finished) : st'.socket.session = .finished := by
  have closing : st.socket.session.closing = true := congrArg Session.closing finished
  cases move with
  | work | wire | clock | occasion | note => exact finished
  | act action within => exact Socket.session_perform_of_over action finished
  | close code reason => exact Socket.session_perform_of_over _ finished
  | tick now =>
    rw [Socket.tick_eq]
    simp only at finished ⊢
    rw [finished]
    rfl
  | tell | silence => rfl
  | hear _ _ opened | pong _ opened | answer _ opened =>
    rw [opened] at closing
    cases closing

/-- Who was told of the end, was told for good. -/
theorem Move.told {scope : Scope ε} {st st' : Standing ε} (move : Move scope st st')
    (told : st.told = true) : st'.told = true := by
  cases move with
  | work | wire | clock | occasion | note | act | close | tick | hear | pong | silence => exact told
  | answer | tell => rfl

theorem Move.honest {scope : Scope ε} {st st' : Standing ε} (move : Move scope st st')
    (h : st.Honest) : st'.Honest := by
  intro told
  cases move with
  | answer payload opened =>
    simp only [Socket.echoClose_of_open opened]
    rfl
  | tell | silence => rfl
  | work | wire | clock | occasion | note | hear | pong => exact h told
  | act action within => exact Socket.closing_perform _ action (h told)
  | close code reason => exact Socket.closing_perform _ _ (h told)
  | @tick s _ now => exact (s.closing_tick now).trans (h told)

namespace Conversation

variable {scope : Scope ε} {react : React ε σ}

theorem script_moves {script : Script ε σ} (within : script.Within scope.acts) (s : Socket ε)
    (told : Bool) : Moves scope ⟨s, told⟩ ⟨(script.run s).2, told⟩ := by
  induction script generalizing s with
  | done state => exact .refl
  | panic state => exact .refl
  | note event next ih => exact .head (.note event) (ih within _)
  | act action next ih => exact .head (.act action within.1) (ih _ (within.2 _) _)

theorem close_moves (c : Conversation ε σ) {code : CloseCode} {reason : String}
    (own : OwnClose code reason) : Moves scope c.standing (c.close code reason).standing :=
  .single (.close code reason own)

/-- What the handler does once it is called. -/
theorem call_moves (within : react.Within scope.acts) (c : Conversation ε σ)
    (callback : Callback) :
    Moves scope ⟨c.socket.record (.callback callback), c.closeNotified⟩
      (c.call react callback).standing := by
  have script := script_moves (within c.handler callback) (c.socket.record (.callback callback))
    c.closeNotified
  simp only [call]
  split
  · exact script
  · exact script.tail (.close .internal "internal error" .panic)

theorem hear_moves (within : react.Within scope.acts) (c : Conversation ε σ) {callback : Callback}
    (during : callback.isDuring = true) (opened : c.socket.session.closing = false) :
    Moves scope c.standing (c.call react callback).standing :=
  .head (.hear callback during opened) (call_moves within c callback)

/-- Taking the notice and telling the handler what it says. -/
theorem tell_moves (within : react.Within scope.acts) (c : Conversation ε σ) {code : CloseCode}
    {reason : String} (read : c.socket.session.notice.getD (.abnormal, "") = (code, reason)) :
    Moves scope c.standing
      (notifyClose react { c with socket := c.socket.takeNotice.2 } code reason).standing := by
  unfold notifyClose
  split
  · rename_i told
    exact .single (.silence (.inl told))
  · rename_i untold
    have start : c.standing = ⟨c.socket, false⟩ := by
      rw [standing, Bool.eq_false_iff.2 untold]
    rw [start]
    exact .head (.tell read)
      (call_moves within
        { c with socket := c.socket.takeNotice.2, closeNotified := true } (.closed code reason))

theorem settle_moves (within : react.Within scope.acts) (c : Conversation ε σ) :
    Moves scope c.standing (c.settle react).standing := by
  unfold settle
  split
  · exact .refl
  · rename_i closing
    simp only [Bool.not_eq_true', Bool.not_eq_false] at closing
    simp only
    split
    · rename_i code reason notice
      exact tell_moves within c (by rw [show c.socket.session.notice = _ from notice]; rfl)
    · rename_i notice
      exact .single (.silence (.inr ⟨closing, notice⟩))

theorem finish_moves (within : react.Within scope.acts) (c : Conversation ε σ) :
    Moves scope c.standing (c.finish react).standing :=
  tell_moves within c rfl

theorem fail_moves (within : react.Within scope.acts) (c : Conversation ε σ)
    (violation : Violation) : Moves scope c.standing (c.fail react violation).standing :=
  (close_moves c (.fault violation)).trans (settle_moves within _)

theorem deliver_moves (within : react.Within scope.acts) (c : Conversation ε σ)
    (opened : c.socket.session.closing = false) (opcode : Opcode) (payload : Bytes) :
    Moves scope c.standing (c.deliver react opcode payload).standing := by
  unfold deliver
  split
  · exact fail_moves within c _
  · exact hear_moves within c rfl opened

theorem gather_moves (within : react.Within scope.acts) (c : Conversation ε σ)
    (opened : c.socket.session.closing = false) (opcode : Opcode) (done payload : Bytes)
    (fin : Bool) : Moves scope c.standing (c.gather react opcode done payload fin).standing := by
  unfold gather
  split
  · exact fail_moves within c _
  · split
    · exact deliver_moves within { c with assembling := none } opened opcode _
    · exact .refl

theorem onFrame_moves (within : react.Within scope.acts) (c : Conversation ε σ)
    (opened : c.socket.session.closing = false) (untold : c.closeNotified = false) (frame : Frame)
    (came : frame.opcode = .close → Came c.socket.channel.trace frame.payload) :
    Moves scope c.standing (c.onFrame react frame).standing := by
  unfold onFrame
  split
  · exact fail_moves within c _
  · exact fail_moves within c _
  · split
    · exact deliver_moves within c opened _ _
    · exact gather_moves within c opened _ _ _ _
  · split
    · exact deliver_moves within c opened _ _
    · exact gather_moves within c opened _ _ _ _
  · exact fail_moves within c _
  · exact gather_moves within c opened _ _ _ _
  · rename_i _ _ close
    split
    · exact fail_moves within c _
    · rename_i code reason read
      have start : c.standing = ⟨c.socket, false⟩ := by rw [standing, untold]
      have told := call_moves within
        { c with socket := c.socket.echoClose code reason frame.payload, closeNotified := true }
        (.closed code reason)
      simp only [notifyClose, untold, Bool.false_eq_true, if_false]
      rw [start]
      exact .head (.answer frame.payload opened read (came close)) told
  · exact hear_moves within c rfl opened
  · exact .head (.pong frame.payload opened)
      (call_moves within { c with socket := c.socket.pongReceived } (.pong frame.payload))

theorem takeFrames_moves (within : react.Within scope.acts) (c : Conversation ε σ)
    (honest : c.standing.Honest) (window : Bytes)
    (came : ∀ payload, CloseFrameIn window payload → Came c.socket.channel.trace payload) :
    Moves scope c.standing (c.takeFrames react window).2.standing := by
  induction hl : window.length using Nat.strongRecOn generalizing c window with
  | ind length ih =>
    have settled := settle_moves within c
    have honestThen := settled.preserve (fun _ _ move => move.honest) honest
    rw [takeFrames_eq]
    split
    · exact settled
    · rename_i goesOn
      have opened := Bool.eq_false_iff.2 goesOn
      split
      · exact settled.trans (fail_moves within _ _)
      · exact settled
      · rename_i frame used decoded
        have untold : (c.settle react).closeNotified = false :=
          Bool.eq_false_iff.2 fun told => goesOn (honestThen told)
        have taken := onFrame_moves within (c.settle react) opened untold frame fun close =>
          (came _ ⟨frame, .first decoded, close, rfl⟩).of_suffix (Moves.grows settled)
        have fits := Frame.decode_used decoded
        have before := settled.trans taken
        refine before.trans (ih _ ?_ _ ?_ _ ?_ rfl)
        · rw [List.length_drop]
          omega
        · exact taken.preserve (fun _ _ move => move.honest) honestThen
        · rintro payload ⟨next, stands, close, same⟩
          exact (came payload ⟨next, .behind decoded stands, close, same⟩).of_suffix
            (Moves.grows before)

theorem onTimer_moves (within : react.Within scope.acts) (pings : scope.acts (.ping []))
    (c : Conversation ε σ) (now : Nat) (due : scope.times now) :
    Moves scope c.standing (c.onTimer react now).standing := by
  have ticked : Moves scope c.standing ⟨(c.socket.tick now).2, c.closeNotified⟩ :=
    .single (.tick now due)
  simp only [onTimer]
  refine (ticked.trans ?_).trans (settle_moves within _)
  split
  · exact .refl
  · exact .single (.act (.ping []) pings)
  · exact .single (.close .normal "ping timeout" .missedPong)

/-- What the handler does once it is told that the conversation begins. -/
theorem start_moves (within : react.Within scope.acts) (c : Conversation ε σ) :
    Moves scope ⟨c.socket.record (.callback .opened), c.closeNotified⟩
      (c.start react).standing :=
  (call_moves within c .opened).trans (settle_moves within _)

/-- Hearing of the end changes nothing about it. -/
theorem notifyClose_of_over (react : React ε σ) {c : Conversation ε σ}
    (finished : c.socket.session = .finished) (code : CloseCode) (reason : String) :
    (c.notifyClose react code reason).socket.session = .finished := by
  unfold notifyClose
  split
  · exact finished
  · exact (@call_moves ε σ {} react react.within_true { c with closeNotified := true } _).preserve
      (P := fun st => st.socket.session = .finished) (fun _ _ move => move.finished) finished

end Conversation
end WebSocket
end WebServer

import WebServer.Proofs.Channel.Silent
import WebServer.Proofs.WebSocket.Moves

/-!
# The frames that a WebSocket hands over

Handlers that keep to the WebSocket send no close frames but by closing, and write nothing past it.
Then all that is written on the connection behind the upgrade are the frames, one after another and
each of them whole. Closing begins at most once; it hands over the close frame, and from then on no
frame is handed over and no keepalive runs. The close frame is the last write in the queue until it
is fully sent, and closes the channel then.
-/
namespace WebServer

variable {ε : Type}

/-- The frame that a WebSocket hands to the channel. -/
def Signal.framed? : Signal ε → Option WebSocket.Frame
  | .framed frame => some frame
  | _ => none

/-- The frames that were handed to the channel. -/
abbrev framesIn (trace : List (Signal ε)) : List WebSocket.Frame := seenIn Signal.framed? trace

theorem framesIn_run (ch : Channel ε) (tasks : List (Task ε)) :
    framesIn (ch.run tasks).trace = framesIn ch.trace :=
  (ch.run_extends tasks).seenIn_eq fun signal channel => by
    cases signal <;> first | rfl | cases channel

namespace WebSocket

namespace Socket

/-- Handing over a frame shows that frame, whatever becomes of it. -/
theorem framesIn_handOver (s : Socket ε) (frame : Frame) (after : Completion ε) :
    framesIn (s.handOver frame after).channel.trace = framesIn s.channel.trace ++ [frame] :=
  (framesIn_run _ _).trans (seenIn_cons _ _)

theorem framesIn_beginClosing (s : Socket ε) (origin : Origin) (code : CloseCode) (reason : String)
    (payload : Bytes) :
    framesIn (s.beginClosing origin code reason payload).channel.trace =
      framesIn s.channel.trace ++ [⟨true, .close, payload⟩] := by
  refine (framesIn_handOver _ _ _).trans (congrArg (· ++ [_]) ?_)
  exact (seenIn_cons _ _).trans (List.append_nil _)

end Socket

/-- A socket that is closing refuses frames, and does not close again. -/
theorem Socket.silenced {s : Socket ε} (closing : s.session.closing = true) (action : Action ε) :
    framesIn (s.perform action).2.channel.trace = framesIn s.channel.trace := by
  cases action with
  | send frame after =>
    simp only [perform, send, closing, if_true]
    split <;> rfl
  | close code reason =>
    simp only [perform, close, closing, if_true]
    split <;> rfl
  | setAutoPing interval timeout =>
    simp only [perform, setAutoPing, closing, if_true]
    split <;> rfl
  | write data after | closeConnection => exact framesIn_run _ _
  | cancelAutoPing | isOpen | stats => rfl

/-- Once the socket is closing, nothing is handed over, whatever happens. -/
theorem Move.silenced {scope : Scope ε} {st st' : Standing ε} (move : Move scope st st')
    (closing : st.socket.session.closing = true) :
    framesIn st'.socket.channel.trace = framesIn st.socket.channel.trace := by
  cases move with
  | work tasks => exact framesIn_run _ tasks
  | wire | clock | silence => rfl
  | occasion signal occasion =>
    cases signal with
    | window | timer | peerClosed | tornDown => exact (seenIn_cons _ _).trans (List.append_nil _)
    | _ => cases occasion
  | note | tell => exact (seenIn_cons _ _).trans (List.append_nil _)
  | act action => exact Socket.silenced closing action
  | close code reason => exact Socket.silenced closing _
  | tick => rw [Socket.tick_eq]
  | hear _ _ opened | pong _ opened | answer _ opened =>
    rw [opened] at closing
    cases closing

/-- What an application does that keeps to the WebSocket: it closes only by `close`, and writes
nothing past the socket. -/
def Action.Tame : Action ε → Prop
  | .send frame after => frame.opcode ≠ .close ∧ after.Silent
  | .write .. => False
  | .close .. | .setAutoPing .. | .cancelAutoPing | .closeConnection | .isOpen | .stats => True

/-- Applications that keep to their WebSockets. -/
def Scope.tame : Scope ε where
  acts := Action.Tame
  works := Task.Silent

/-- How the frames of a WebSocket end: there was no close frame, or it was the last one. -/
inductive Close (frames : List Frame) (s : Socket ε) : Prop where
  | notYet (none : ∀ frame ∈ frames, frame.opcode ≠ .close)
  | last {before : List Frame} {close : Frame} (frames_eq : frames = before ++ [close])
    (none : ∀ frame ∈ before, frame.opcode ≠ .close) (isClose : close.opcode = .close)
    (closing : s.session.closing = true) (parting : s.channel.Parting [])

/-- Where the sending of frames stands, on a connection that was upgraded with an `earlier`
trace. -/
structure Sending (earlier : List (Signal ε)) (s : Socket ε) : Prop where
  plain : s.channel.Plain
  grown : earlier <:+ s.channel.trace
  /-- The frames that were handed over on the open channel were written, each of them whole. -/
  written : ∃ sent dropped, framesIn s.channel.trace = sent ++ dropped ∧
    writtenIn s.channel.trace = writtenIn earlier ++ sent.flatMap Frame.encode ∧
    (s.channel.isOpen = true → dropped = [])
  close : Close (framesIn s.channel.trace) s
  disarmed : s.session.closing = true → s.session.keepalive = none

theorem Frame.encode_ne_nil (frame : Frame) : frame.encode ≠ [] := by
  unfold Frame.encode Frame.headerBytes
  simp only
  split
  · simp
  · split <;> simp

namespace Sending

variable {earlier : List (Signal ε)} {s : Socket ε}

/-- What is done beside the frames leaves them as they are. -/
theorem beside (h : Sending earlier s) {s' : Socket ε} (plain : s'.channel.Plain)
    (grown : s.channel.trace <:+ s'.channel.trace)
    (frames : framesIn s'.channel.trace = framesIn s.channel.trace)
    (written : writtenIn s'.channel.trace = writtenIn s.channel.trace)
    (isOpen : s'.channel.isOpen = true → s.channel.isOpen = true)
    (closing : s.session.closing = true → s'.session.closing = true)
    (parting : s.channel.Parting [] → s'.channel.Parting [])
    (disarmed : s'.session.closing = true → s'.session.keepalive = none) :
    Sending earlier s' := by
  obtain ⟨sent, dropped, all, sentWritten, whileOpen⟩ := h.written
  refine ⟨plain, h.grown.trans grown, ⟨sent, dropped, frames.trans all, written.trans sentWritten,
    fun stillOpen => whileOpen (isOpen stillOpen)⟩, ?_, disarmed⟩
  rw [frames]
  cases h.close with
  | notYet none => exact .notYet none
  | last frames_eq none isClose closes parts =>
    exact .last frames_eq none isClose (closing closes) (parting parts)

/-- Only the session changes. -/
theorem withSession (h : Sending earlier s) {session : Session} {now : Nat}
    (closing : s.session.closing = true → session.closing = true)
    (disarmed : session.closing = true → session.keepalive = none) :
    Sending earlier { session, channel := s.channel, now } :=
  h.beside h.plain (List.suffix_refl _) rfl rfl id closing id disarmed

/-- A signal is recorded that tells neither of frames nor of the channel. -/
theorem record (h : Sending earlier s) {signal : Signal ε} (frame : signal.framed? = none)
    (written : signal.written = []) (accepted : signal.accepted = [])
    (works : signal.isFailure = false) {session : Session} {now : Nat}
    (closing : s.session.closing = true → session.closing = true)
    (disarmed : session.closing = true → session.keepalive = none) :
    Sending earlier { session, channel := s.channel.record signal, now } := by
  have plain : (s.channel.record signal).Plain :=
    h.plain.record written accepted works
  refine h.beside plain (List.suffix_cons _ _) ?_ ?_ id closing id disarmed
  · show framesIn (signal :: s.channel.trace) = _
    simp only [seenIn_cons, frame, Option.toList_none, List.append_nil]
  · show writtenIn (signal :: s.channel.trace) = _
    rw [writtenIn_cons, written, List.append_nil]

/-- Silent work on the channel. -/
theorem work (h : Sending earlier s) {tasks : List (Task ε)}
    (silent : ∀ task ∈ tasks, task.Silent) :
    Sending earlier { s with channel := s.channel.run tasks } := by
  obtain ⟨plain, written⟩ := h.plain.run_silent silent
  refine h.beside plain (Channel.run_extends _ _).suffix (framesIn_run _ _) written
    Channel.isOpen_of_run id (fun parts => ?_) h.disarmed
  exact (parts.mono (List.nil_subset _)).run silent h.plain

/-- A frame is handed over. It is written whole, unless the channel is closed. -/
theorem handOver (h : Sending earlier s) {frame : Frame} {after : Completion ε}
    (silent : after.Silent)
    (close : Close (framesIn s.channel.trace ++ [frame]) (s.handOver frame after))
    (disarmed : s.session.closing = true → s.session.keepalive = none) :
    Sending earlier (s.handOver frame after) := by
  have recorded : (s.channel.record (.framed frame)).Plain := h.plain.record rfl rfl rfl
  obtain ⟨plain, written⟩ := recorded.writeThen frame.encode silent
  have frames := s.framesIn_handOver frame after
  have same : writtenIn (s.channel.record (.framed frame)).trace = writtenIn s.channel.trace :=
    (writtenIn_cons _ _).trans (List.append_nil _)
  rw [same] at written
  obtain ⟨sent, dropped, all, sentWritten, whileOpen⟩ := h.written
  refine ⟨plain, h.grown.trans (s.grows_handOver frame after), ?_, by rwa [frames], disarmed⟩
  cases isOpen : s.channel.isOpen with
  | true =>
    refine ⟨sent ++ [frame], [], ?_, ?_, fun _ => rfl⟩
    · rw [frames, all, whileOpen isOpen, List.append_nil, List.append_nil]
    · refine written.trans ?_
      rw [if_pos (show (s.channel.record (.framed frame)).isOpen = true from isOpen), sentWritten,
        List.flatMap_append, List.flatMap_singleton, List.append_assoc]
  | false =>
    refine ⟨sent, dropped ++ [frame], ?_, ?_, fun stillOpen => ?_⟩
    · rw [frames, all, List.append_assoc]
    · refine written.trans ?_
      rw [if_neg (show ¬(s.channel.record (.framed frame)).isOpen = true from
        Bool.eq_false_iff.1 isOpen), sentWritten, List.append_nil]
    · have opened : (s.channel.record (.framed frame)).isOpen = true :=
        Channel.isOpen_of_run stillOpen
      rw [show (s.channel.record (.framed frame)).isOpen = false from isOpen] at opened
      cases opened

/-- As long as the socket is not closing, there was no close frame. -/
theorem noClose (h : Sending earlier s) (opened : s.session.closing = false) :
    ∀ frame ∈ framesIn s.channel.trace, frame.opcode ≠ .close := by
  cases h.close with
  | notYet none => exact none
  | last _ _ _ closing =>
    rw [opened] at closing
    cases closing

theorem beginClosing (h : Sending earlier s) (opened : s.session.closing = false) (origin : Origin)
    (code : CloseCode) (reason : String) (payload : Bytes) :
    Sending earlier (s.beginClosing origin code reason payload) := by
  have begun : Sending earlier { s.record (.closing origin code reason) with
      session := (s.beginClosing origin code reason payload).session } :=
    h.record rfl rfl rfl rfl (fun _ => rfl) fun _ => rfl
  have recorded : ((s.channel.record (.closing origin code reason)).record
      (.framed ⟨true, .close, payload⟩)).Plain := begun.plain.record rfl rfl rfl
  have none := h.noClose opened
  have silent : (Completion.close .done : Completion ε).Silent := trivial
  refine begun.handOver silent (.last rfl ?_ rfl rfl (recorded.parting (Frame.encode_ne_nil _)))
    fun _ => rfl
  show ∀ frame ∈ framesIn (.closing origin code reason :: s.channel.trace), frame.opcode ≠ .close
  simpa [Signal.framed?] using none

theorem perform (h : Sending earlier s) {action : Action ε} (tame : action.Tame) :
    Sending earlier (s.perform action).2 := by
  cases action with
  | send frame after =>
    simp only [Socket.perform, Socket.send]
    split
    · exact h
    · split
      · exact h
      · rename_i opened
        have none := h.noClose (Bool.eq_false_iff.2 opened)
        refine h.handOver tame.2 (.notYet ?_) h.disarmed
        exact List.forall_mem_append.2 ⟨none, by simpa using tame.1⟩
  | close code reason =>
    rcases s.perform_close code reason with same | ⟨opened, begins⟩
    · rwa [same]
    · rw [begins]
      exact h.beginClosing opened _ _ _ _
  | setAutoPing interval timeout =>
    simp only [Socket.perform, Socket.setAutoPing]
    split
    · exact h
    · split
      · exact h
      · rename_i opened
        exact h.withSession id fun closing => absurd closing opened
  | cancelAutoPing => exact h.withSession id fun _ => rfl
  | write data after => exact tame.elim
  | closeConnection => exact h.work (by simp [Task.Silent, Completion.Silent])
  | isOpen | stats => exact h

/-- When a handler is greeted, nothing was handed over yet. -/
theorem begin {ch : Channel ε} (plain : ch.Plain) (none : framesIn ch.trace = []) (now : Nat) :
    Sending ch.trace ({ channel := ch, now } : Socket ε) where
  plain := plain
  grown := List.suffix_refl _
  written := ⟨[], [], none, (List.append_nil _).symm, fun _ => rfl⟩
  close := .notYet (by simp [none])
  disarmed := nofun

theorem last (h : Sending earlier s) {before behind : List Frame} {close : Frame}
    (frames : framesIn s.channel.trace = before ++ close :: behind)
    (isClose : close.opcode = .close) : behind = [] := by
  cases h.close with
  | notYet none => exact absurd isClose (none close (by simp [frames]))
  | last frames_eq none =>
    rcases List.eq_nil_or_concat behind with nothing | ⟨others, final, rfl⟩
    · exact nothing
    · rw [frames, List.concat_eq_append, ← List.cons_append, ← List.append_assoc] at frames_eq
      obtain ⟨same, -⟩ := List.append_inj' frames_eq rfl
      exact absurd isClose (none close (by simp [← same]))

theorem accepted (h : Sending earlier s) :
    acceptedIn s.channel.trace <+:
      writtenIn earlier ++ (framesIn s.channel.trace).flatMap Frame.encode := by
  obtain ⟨sent, dropped, all, sentWritten, -⟩ := h.written
  refine h.plain.accepted.trans ?_
  rw [sentWritten, all, List.flatMap_append, ← List.append_assoc]
  exact List.prefix_append _ _

/-- As long as the channel is open, a close frame that was handed over is not fully sent. -/
theorem closed (h : Sending earlier s)
    (hasClose : ∃ close ∈ framesIn s.channel.trace, close.opcode = .close)
    (fully : acceptedIn s.channel.trace =
      writtenIn earlier ++ (framesIn s.channel.trace).flatMap Frame.encode) :
    s.channel.isOpen = false := by
  obtain ⟨close, member, isClose⟩ := hasClose
  refine Bool.eq_false_iff.2 fun isOpen => ?_
  obtain ⟨sent, dropped, all, sentWritten, whileOpen⟩ := h.written
  rw [whileOpen isOpen, List.append_nil] at all
  have queued := h.plain.while_open isOpen
  rw [sentWritten, fully, all, List.append_right_eq_self] at queued
  cases h.close with
  | notYet none => exact none close member isClose
  | last _ _ _ _ parting =>
    rcases parting isOpen with ⟨jobs, rest, queue, left⟩ | never
    · rw [queue, jobsData_append] at queued
      simp only [jobsData_cons, jobsData_nil, List.append_nil, List.append_eq_nil_iff] at queued
      exact left queued.2
    · cases never

/-- With a close frame, the socket is closing. -/
theorem closing (h : Sending earlier s)
    (hasClose : ∃ close ∈ framesIn s.channel.trace, close.opcode = .close) :
    s.session.closing = true := by
  obtain ⟨close, member, isClose⟩ := hasClose
  exact Bool.of_not_eq_false fun opened => h.noClose opened close member isClose

end Sending

/-- Every move of a tame application keeps the frames in order. -/
theorem Move.sending {st st' : Standing ε} (move : Move .tame st st') {earlier : List (Signal ε)}
    (h : Sending earlier st.socket) : Sending earlier st'.socket := by
  cases move with
  | work tasks silent => exact h.work silent
  | wire wire =>
    exact h.beside (h.plain.withWire wire) (List.suffix_refl _) rfl rfl id id id h.disarmed
  | clock now => exact h.withSession id h.disarmed
  | occasion signal occasion =>
    cases signal with
    | window | timer | peerClosed | tornDown => exact h.record rfl rfl rfl rfl id h.disarmed
    | _ => cases occasion
  | note event => exact h.record rfl rfl rfl rfl id h.disarmed
  | act action tame => exact h.perform tame
  | close code reason => exact h.perform trivial
  | @tick s told now =>
    rw [Socket.tick_eq]
    exact h.withSession id fun closing => by rw [h.disarmed closing]; rfl
  | hear callback during opened => exact h.record rfl rfl rfl rfl id h.disarmed
  | @pong s told payload opened =>
    exact h.record rfl rfl rfl rfl id fun closing => absurd closing (Bool.eq_false_iff.1 opened)
  | @answer s code reason payload opened =>
    rw [Socket.echoClose_of_open opened]
    have begun := h.beginClosing opened .peer code reason payload
    exact begun.record rfl rfl rfl rfl id begun.disarmed
  | tell read => exact h.record rfl rfl rfl rfl (fun _ => rfl) fun _ => rfl
  | silence known => exact h.withSession (fun _ => rfl) fun _ => rfl

end WebSocket
end WebServer

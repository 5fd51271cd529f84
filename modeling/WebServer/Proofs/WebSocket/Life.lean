import WebServer.Proofs.WebSocket.Moves

/-!
# The life of a handler

A handler is told that the conversation begins, then of messages, pings and pongs, and once of the
end. What it is told of the end is what this side closed with, or what the peer's close frame says
if that came first, or that there was no close at all. The notice that the socket keeps carries the
first of these to the handler. `Life` has a case for each of the three times of a life, and every
move of the conversation leads from one of them to another.
-/
namespace WebServer

open WebSocket (Callback CloseCode Origin)

variable {ε : Type}

namespace Signal

/-- What the handler of the WebSocket is called back with. -/
def callback? : Signal ε → Option Callback
  | .callback called => some called
  | _ => none

/-- Which side begins to close the WebSocket, with what code and reason. -/
def closing? : Signal ε → Option (Origin × CloseCode × String)
  | .closing origin code reason => some (origin, code, reason)
  | _ => none

/-- Whether a signal tells neither of a callback nor of a closing. -/
def isAside : Signal ε → Bool
  | .callback _ | .closing .. => false
  | _ => true

theorem callback_of_aside (signal : Signal ε) (silent : signal.isAside = true) :
    signal.callback? = none := by
  cases signal <;> first | rfl | cases silent

theorem closing_of_aside (signal : Signal ε) (silent : signal.isAside = true) :
    signal.closing? = none := by
  cases signal <;> first | rfl | cases silent

theorem isAside_of_channel (signal : Signal ε) (channel : signal.isChannel = true) :
    signal.isAside = true := by
  cases signal <;> first | rfl | cases channel

theorem isAside_of_occasion (signal : Signal ε) (occasion : signal.isOccasion = true) :
    signal.isAside = true := by
  cases signal <;> first | rfl | cases occasion

end Signal

/-- What the handler of the WebSocket was called back with. -/
abbrev callbacksIn (trace : List (Signal ε)) : List Callback := seenIn Signal.callback? trace

/-- How it was begun to close the WebSocket. -/
abbrev closingsIn (trace : List (Signal ε)) : List (Origin × CloseCode × String) :=
  seenIn Signal.closing? trace

namespace WebSocket

/-- What there is to tell of the end, if nothing more happens than is in the trace. -/
inductive Farewell (trace : List (Signal ε)) : CloseCode → String → Prop where
  /-- This side began to close. -/
  | here {code : CloseCode} {reason : String}
    (closed : closingsIn trace = [(.here, code, reason)]) : Farewell trace code reason
  /-- The peer's close frame says so, and this side had not begun to close. -/
  | peer {code : CloseCode} {reason : String} {payload : Bytes}
    (closed : closingsIn trace = [(.peer, code, reason)]) (came : Came trace payload)
    (read : CloseCode.ofPayload? payload = some (code, reason)) : Farewell trace code reason
  /-- Neither side closed. -/
  | gone (closed : closingsIn trace = []) : Farewell trace .abnormal ""

/-- The callbacks of a conversation that goes on. -/
def Begun (trace : List (Signal ε)) : Prop :=
  ∃ middle, callbacksIn trace = .opened :: middle ∧ ∀ callback ∈ middle, callback.isDuring = true

/-- A whole life. What the handler was told of the end was so when it was told, and nothing came
after it. -/
structure Lived (trace : List (Signal ε)) (code : CloseCode) (reason : String)
    (earlier later : List (Signal ε)) : Prop where
  trace_eq : trace = later ++ .callback (.closed code reason) :: earlier
  begun : Begun earlier
  farewell : Farewell earlier code reason
  silent : callbacksIn later = []
  final : closingsIn later = []

/-- The times of a life. -/
inductive Life (st : Standing ε) : Prop where
  | going (untold : st.told = false) (opened : st.socket.session.closing = false)
    (none : st.socket.session.notice = none) (closed : closingsIn st.socket.channel.trace = [])
    (begun : Begun st.socket.channel.trace)
  /-- This side began to close, and the handler is not told yet. -/
  | leaving {code : CloseCode} {reason : String} (untold : st.told = false)
    (closing : st.socket.session.closing = true)
    (notice : st.socket.session.notice = some (code, reason))
    (closed : closingsIn st.socket.channel.trace = [(.here, code, reason)])
    (begun : Begun st.socket.channel.trace)
  | ended {code : CloseCode} {reason : String} {earlier later : List (Signal ε)}
    (told : st.told = true) (closing : st.socket.session.closing = true)
    (lived : Lived st.socket.channel.trace code reason earlier later)

/-- A trace that has grown, but by nothing that tells of the life of the handler. -/
def Aside (trace trace' : List (Signal ε)) : Prop :=
  ∃ new, trace' = new ++ trace ∧ callbacksIn new = [] ∧ closingsIn new = []

namespace Aside

variable {trace trace' trace'' : List (Signal ε)}

theorem refl (trace : List (Signal ε)) : Aside trace trace := ⟨[], rfl, rfl, rfl⟩

theorem trans (h : Aside trace trace') (h' : Aside trace' trace'') : Aside trace trace'' := by
  obtain ⟨new, same, callbacks, closings⟩ := h
  obtain ⟨newer, same', callbacks', closings'⟩ := h'
  refine ⟨newer ++ new, by rw [same', same, List.append_assoc], ?_, ?_⟩
  · simp only [seenIn_append, callbacks, callbacks', List.append_nil]
  · simp only [seenIn_append, closings, closings', List.append_nil]

theorem append {new : List (Signal ε)} (silent : ∀ signal ∈ new, signal.isAside = true)
    (trace : List (Signal ε)) : Aside trace (new ++ trace) := by
  refine ⟨new, rfl, seenIn_eq_nil fun signal member => ?_, seenIn_eq_nil fun signal member => ?_⟩
  · exact signal.callback_of_aside (silent signal member)
  · exact signal.closing_of_aside (silent signal member)

theorem cons {signal : Signal ε} (silent : signal.isAside = true) (trace : List (Signal ε)) :
    Aside trace (signal :: trace) := by
  have alone : ∀ other ∈ [signal], other.isAside = true := List.forall_mem_singleton.2 silent
  exact append alone trace

theorem of_extends {ch ch' : Channel ε} (h : ch.Extends ch') : Aside ch.trace ch'.trace := by
  obtain ⟨new, trace, channel⟩ := h
  rw [trace]
  exact append (fun signal member => signal.isAside_of_channel (channel signal member)) _

theorem callbacks_eq (h : Aside trace trace') : callbacksIn trace' = callbacksIn trace := by
  obtain ⟨new, rfl, callbacks, -⟩ := h
  simp only [seenIn_append, callbacks, List.append_nil]

theorem closings_eq (h : Aside trace trace') : closingsIn trace' = closingsIn trace := by
  obtain ⟨new, rfl, -, closings⟩ := h
  simp only [seenIn_append, closings, List.append_nil]

theorem begun (h : Aside trace trace') (begun : Begun trace) : Begun trace' := by
  unfold Begun
  rwa [h.callbacks_eq]

theorem lived {code : CloseCode} {reason : String} {earlier later : List (Signal ε)}
    (h : Aside trace trace') (lived : Lived trace code reason earlier later) :
    ∃ later', Lived trace' code reason earlier later' := by
  obtain ⟨new, rfl, callbacks, closings⟩ := h
  refine ⟨new ++ later, ?_, lived.begun, lived.farewell, ?_, ?_⟩
  · rw [lived.trace_eq, List.append_assoc]
  · simp only [seenIn_append, lived.silent, callbacks, List.append_nil]
  · simp only [seenIn_append, lived.final, closings, List.append_nil]

end Aside

namespace Socket

/-- Handing over a frame tells nothing of the life of the handler. -/
theorem aside_handOver (s : Socket ε) (frame : Frame) (after : Completion ε) :
    Aside s.channel.trace (s.handOver frame after).channel.trace :=
  (Aside.cons rfl _).trans (.of_extends (Channel.run_extends _ _))

/-- Nor does an action, unless it begins to close. -/
theorem aside_perform (s : Socket ε) {action : Action ε} (other : action.isClose = false) :
    Aside s.channel.trace (s.perform action).2.channel.trace := by
  cases action with
  | send frame after =>
    simp only [perform, send]
    split
    · exact .refl _
    · split
      · exact .refl _
      · exact s.aside_handOver frame after
  | close code reason => cases other
  | setAutoPing interval timeout =>
    simp only [perform, setAutoPing]
    split
    · exact .refl _
    · split <;> exact .refl _
  | write data after | closeConnection => exact .of_extends (Channel.run_extends _ _)
  | cancelAutoPing | isOpen | stats => exact .refl _

theorem aside_beginClosing (s : Socket ε) (origin : Origin) (code : CloseCode) (reason : String)
    (payload : Bytes) :
    Aside (.closing origin code reason :: s.channel.trace)
      (s.beginClosing origin code reason payload).channel.trace :=
  aside_handOver _ _ _

/-- A socket that begins to close has not been closing, so its trace has that one closing. -/
theorem closings_beginClosing {s : Socket ε} (closed : closingsIn s.channel.trace = [])
    (origin : Origin) (code : CloseCode) (reason : String) (payload : Bytes) :
    closingsIn (s.beginClosing origin code reason payload).channel.trace =
      [(origin, code, reason)] := by
  rw [(s.aside_beginClosing origin code reason payload).closings_eq]
  simp only [seenIn_cons, closed]
  rfl

theorem begun_beginClosing {s : Socket ε} (begun : Begun s.channel.trace)
    (origin : Origin) (code : CloseCode) (reason : String) (payload : Bytes) :
    Begun (s.beginClosing origin code reason payload).channel.trace := by
  refine (s.aside_beginClosing origin code reason payload).begun ?_
  have same : callbacksIn (.closing origin code reason :: s.channel.trace) =
      callbacksIn s.channel.trace := (seenIn_cons _ _).trans (List.append_nil _)
  unfold Begun
  rwa [same]

end Socket

theorem Begun.append {trace : List (Signal ε)} (h : Begun trace) {callback : Callback}
    (during : callback.isDuring = true) : Begun (.callback callback :: trace) := by
  obtain ⟨middle, callbacks, middleDuring⟩ := h
  refine ⟨middle ++ [callback], ?_, ?_⟩
  · simp only [seenIn_cons, callbacks]
    rfl
  · intro other member
    rcases List.mem_append.1 member with earlier | last
    · exact middleDuring other earlier
    · rw [List.mem_singleton.1 last]
      exact during

namespace Life

variable {st st' : Standing ε}

/-- Beside what is told of it, a life is about the socket's closing and its notice. -/
theorem aside (h : Life st) (told : st'.told = st.told)
    (closing : st'.socket.session.closing = st.socket.session.closing)
    (notice : st'.socket.session.notice = st.socket.session.notice)
    (trace : Aside st.socket.channel.trace st'.socket.channel.trace) : Life st' := by
  cases h with
  | going untold opened none closed begun =>
    exact .going (told.trans untold) (closing.trans opened) (notice.trans none)
      (trace.closings_eq.trans closed) (trace.begun begun)
  | leaving untold closes notice' closed begun =>
    exact .leaving (told.trans untold) (closing.trans closes) (notice.trans notice')
      (trace.closings_eq.trans closed) (trace.begun begun)
  | ended known closes lived =>
    obtain ⟨later, lived⟩ := trace.lived lived
    exact .ended (told.trans known) (closing.trans closes) lived

/-- The handler is told of the end. -/
theorem ends {code : CloseCode} {reason : String} {trace : List (Signal ε)}
    (told : st'.told = true) (closing : st'.socket.session.closing = true)
    (shown : st'.socket.channel.trace = .callback (.closed code reason) :: trace)
    (begun : Begun trace) (farewell : Farewell trace code reason) : Life st' :=
  have lived : Lived st'.socket.channel.trace code reason trace [] :=
    ⟨shown, begun, farewell, rfl, rfl⟩
  .ended told closing lived

/-- The life begins once the handler is told so. -/
theorem opened {s : Socket ε} (fresh : s.session = {})
    (callbacks : callbacksIn s.channel.trace = [])
    (closings : closingsIn s.channel.trace = []) : Life ⟨s.record (.callback .opened), false⟩ := by
  refine .going rfl (congrArg Session.closing fresh) (congrArg Session.notice fresh) ?_
    ⟨[], ?_, nofun⟩
  · exact (seenIn_cons _ _).trans (congrArg (· ++ _) closings)
  · exact (seenIn_cons _ _).trans (congrArg (· ++ _) callbacks)

/-- The handler is told of something before the end. -/
theorem hear {callback : Callback} (h : Life st) (told : st'.told = st.told)
    (opened : st.socket.session.closing = false) (during : callback.isDuring = true)
    (closing : st'.socket.session.closing = st.socket.session.closing)
    (notice : st'.socket.session.notice = st.socket.session.notice)
    (shown : st'.socket.channel.trace = .callback callback :: st.socket.channel.trace) :
    Life st' := by
  cases h with
  | going untold opened none closed begun =>
    refine .going (told.trans untold) (closing.trans opened) (notice.trans none) ?_ ?_
    · rw [shown]
      exact (seenIn_cons _ _).trans (congrArg (· ++ _) closed)
    · rw [shown]
      exact begun.append during
  | leaving untold closes | ended told closes =>
    rw [opened] at closes
    cases closes

/-- This side closes, whatever for. -/
theorem close {s : Socket ε} {told : Bool} (h : Life ⟨s, told⟩) (code : CloseCode)
    (reason : String) : Life ⟨(s.perform (.close code reason)).2, told⟩ := by
  rcases s.perform_close code reason with same | ⟨opened, begins⟩
  · rwa [same]
  · rw [begins]
    cases h with
    | going untold opened none closed begun =>
      exact .leaving untold rfl rfl (s.closings_beginClosing closed _ _ _ _)
        (s.begun_beginClosing begun _ _ _ _)
    | leaving untold closing | ended told closing =>
      rw [opened] at closing
      cases closing

end Life

/-- Every move leads from one time of a life to another, or leaves it where it is. -/
theorem Move.life {scope : Scope ε} {st st' : Standing ε} (move : Move scope st st')
    (h : Life st) : Life st' := by
  cases move with
  | work tasks => exact h.aside rfl rfl rfl (.of_extends (Channel.run_extends _ tasks))
  | wire | clock => exact h.aside rfl rfl rfl (.refl _)
  | occasion signal occasion =>
    exact h.aside rfl rfl rfl (.cons (signal.isAside_of_occasion occasion) _)
  | note event => exact h.aside rfl rfl rfl (.cons rfl _)
  | @act s told action within =>
    rcases action.close_or_other with ⟨code, reason, rfl⟩ | other
    · exact h.close code reason
    · obtain ⟨closing, notice⟩ := s.session_perform other
      exact h.aside rfl closing notice (s.aside_perform other)
  | close code reason => exact h.close code reason
  | @tick s told now =>
    rw [Socket.tick_eq]
    exact h.aside rfl rfl rfl (.refl _)
  | hear callback during opened => exact h.hear rfl opened during rfl rfl rfl
  | pong payload opened => exact h.hear rfl opened rfl rfl rfl rfl
  | @answer s code reason payload opened read came =>
    rw [Socket.echoClose_of_open opened]
    cases h with
    | going untold opened none closed begun =>
      exact .ends rfl rfl rfl (s.begun_beginClosing begun _ _ _ _)
        (.peer (s.closings_beginClosing closed _ _ _ _)
          (came.of_suffix (s.grows_beginClosing _ _ _ _)) read)
    | leaving untold closing =>
      rw [show s.session.closing = true from closing] at opened
      cases opened
    | ended told => cases told
  | tell read =>
    cases h with
    | going untold opened none closed begun =>
      rw [show _ = _ from none] at read
      cases read
      exact .ends rfl rfl rfl begun (.gone closed)
    | leaving untold closing notice closed begun =>
      rw [show _ = _ from notice] at read
      cases read
      exact .ends rfl rfl rfl begun (.here closed)
    | ended told => cases told
  | @silence s told known =>
    cases h with
    | ended told closing lived => exact .ended told rfl lived
    | going untold opened =>
      rcases known with told | ⟨closing, -⟩
      · exact absurd told (Bool.eq_false_iff.1 untold)
      · rw [show s.session.closing = false from opened] at closing
        cases closing
    | leaving untold closing notice =>
      rcases known with told | ⟨-, none⟩
      · exact absurd told (Bool.eq_false_iff.1 untold)
      · rw [show s.session.notice = _ from notice] at none
        cases none

end WebSocket
end WebServer

import WebServer.Proofs.Requests.Answers
import WebServer.Proofs.Stream.Windows
import WebServer.Proofs.WebSocket.Codec
import WebServer.Proofs.WebSocket.Life
import WebServer.Proofs.WebSocket.Sending

/-!
# Listening

A handler that neither closes nor panics lets its conversation go on. Then a conversation does with
a frame one of two things: it keeps what the frame brings, or it calls the handler, once. So what it
does with a stream is a list of turns of the handler. `Listens` follows the frames of a stream with
their turns, and `Listens.takeFrames` takes them from the bytes that a client writes.
-/
namespace WebServer.WebSocket

variable {ε σ : Type}

/-- A script that neither panics nor closes the WebSocket, however its actions come out. -/
def Script.Gentle : Script ε σ → Prop
  | .done _ => True
  | .panic _ => False
  | .note _ next => next.Gentle
  | .act action next => action.isClose = false ∧ ∀ outcome, (next outcome).Gentle

/-- A handler that neither panics nor closes while the conversation goes on. -/
def React.Gentle (react : React ε σ) : Prop :=
  ∀ handler callback, callback.isDuring = true → (react handler callback).Gentle

/-- A handler that answers pings as handlers do by default. -/
def React.Pongs (react : React ε σ) : Prop :=
  ∀ handler payload, react handler (.ping payload) = .pong payload handler

/-- A turn of the handler: what it is called back with, and what is recorded until its next turn,
the latest first. -/
structure Turn (ε : Type) where
  callback : Callback
  deeds : List (Signal ε)

namespace Turn

/-- All that is recorded of a turn, the latest first. -/
def signals (turn : Turn ε) : List (Signal ε) := turn.deeds ++ [.callback turn.callback]

/-- If the turn is about a ping, one frame is handed over, a pong with the payload of the ping. On
an open connection that is all that is written. -/
def Pongs (turn : Turn ε) (isOpen : Bool) : Prop :=
  ∀ payload, turn.callback = .ping payload →
    framesIn turn.deeds = [⟨true, .pong, payload⟩] ∧
      (isOpen = true → writesIn turn.deeds = [Frame.encode ⟨true, .pong, payload⟩])

theorem Pongs.of_isOpen {turn : Turn ε} {isOpen isOpen' : Bool}
    (before : isOpen' = true → isOpen = true) (h : turn.Pongs isOpen) : turn.Pongs isOpen' :=
  fun payload isPing =>
    ⟨(h payload isPing).1, fun stillOpen => (h payload isPing).2 (before stillOpen)⟩

end Turn

/-- A conversation goes on with these turns of its handler, and in no other way. -/
structure Heard (react : React ε σ) (c : Conversation ε σ) (turns : List (Turn ε))
    (c' : Conversation ε σ) : Prop where
  trace_eq : c'.socket.channel.trace =
    turns.reverse.flatMap Turn.signals ++ c.socket.channel.trace
  /-- The handler is called back only at the beginning of a turn. -/
  once : ∀ turn ∈ turns, callbacksIn turn.deeds = []
  closing_eq : c'.socket.session.closing = c.socket.session.closing
  limit_eq : c'.limit = c.limit
  isOpen : c'.socket.channel.isOpen = true → c.socket.channel.isOpen = true
  pongs : react.Pongs → ∀ turn ∈ turns, turn.Pongs c'.socket.channel.isOpen

namespace Heard

variable {react : React ε σ} {c c' c'' : Conversation ε σ} {turns more : List (Turn ε)}

/-- Nothing is said of a conversation beside its trace, its closing, its channel and its limit. -/
theorem silence (channel : c'.socket.channel = c.socket.channel)
    (closing : c'.socket.session.closing = c.socket.session.closing) (limit : c'.limit = c.limit) :
    Heard react c [] c' where
  trace_eq := congrArg Channel.trace channel
  once := nofun
  closing_eq := closing
  limit_eq := limit
  isOpen isOpen := by rwa [channel] at isOpen
  pongs := nofun

theorem trans (h : Heard react c turns c') (h' : Heard react c' more c'') :
    Heard react c (turns ++ more) c'' where
  trace_eq := by
    rw [h'.trace_eq, h.trace_eq, List.reverse_append, List.flatMap_append, List.append_assoc]
  once := List.forall_mem_append.2 ⟨h.once, h'.once⟩
  closing_eq := h'.closing_eq.trans h.closing_eq
  limit_eq := h'.limit_eq.trans h.limit_eq
  isOpen isOpen := h.isOpen (h'.isOpen isOpen)
  pongs answers := List.forall_mem_append.2
    ⟨fun turn member => (h.pongs answers turn member).of_isOpen h'.isOpen, h'.pongs answers⟩

end Heard

theorem Socket.isOpen_of_handOver {s : Socket ε} {frame : Frame} {after : Completion ε}
    (h : (s.handOver frame after).channel.isOpen = true) : s.channel.isOpen = true := by
  have recorded : (s.channel.record (.framed frame)).isOpen = true := Channel.isOpen_of_run h
  exact recorded

/-- No action opens a channel. -/
theorem Socket.isOpen_of_perform {s : Socket ε} {action : Action ε}
    (other : action.isClose = false) (h : (s.perform action).2.channel.isOpen = true) :
    s.channel.isOpen = true := by
  cases action with
  | send frame after =>
    simp only [perform, send] at h
    split at h
    · exact h
    · split at h
      · exact h
      · exact isOpen_of_handOver h
  | close code reason => cases other
  | setAutoPing interval timeout =>
    simp only [perform, setAutoPing] at h
    split at h
    · exact h
    · split at h <;> exact h
  | write data after | closeConnection => exact Channel.isOpen_of_run h
  | cancelAutoPing | isOpen | stats => exact h

namespace Script.Gentle

variable {script : Script ε σ}

theorem returns (gentle : script.Gentle) (s : Socket ε) :
    (script.run s).1 = .returned (script.run s).1.state := by
  induction script generalizing s with
  | done state => rfl
  | panic state => exact gentle.elim
  | note event next ih => exact ih gentle _
  | act action next ih => exact ih _ (gentle.2 _) _

theorem closing_eq (gentle : script.Gentle) (s : Socket ε) :
    (script.run s).2.session.closing = s.session.closing := by
  induction script generalizing s with
  | done state => rfl
  | panic state => rfl
  | note event next ih => exact ih gentle _
  | act action next ih =>
    exact (ih _ (gentle.2 _) _).trans (s.session_perform gentle.1).1

theorem aside (gentle : script.Gentle) (s : Socket ε) :
    Aside s.channel.trace (script.run s).2.channel.trace := by
  induction script generalizing s with
  | done state => exact .refl _
  | panic state => exact .refl _
  | note event next ih => exact (Aside.cons rfl _).trans (ih gentle (s.note event))
  | act action next ih => exact (s.aside_perform gentle.1).trans (ih _ (gentle.2 _) _)

theorem isOpen (gentle : script.Gentle) {s : Socket ε}
    (h : (script.run s).2.channel.isOpen = true) : s.channel.isOpen = true := by
  induction script generalizing s with
  | done state => exact h
  | panic state => exact h
  | note event next ih => exact ih (s := s.note event) gentle h
  | act action next ih => exact Socket.isOpen_of_perform gentle.1 (ih _ (gentle.2 _) h)

end Script.Gentle

/-- A pong that fits is handed over, and is the one write of an open channel. -/
theorem Socket.pong_shown {s : Socket ε} (opened : s.session.closing = false) {payload : Bytes}
    (short : payload.length ≤ controlLimit) {deeds : List (Signal ε)}
    (grown : (s.perform (.pong payload)).2.channel.trace = deeds ++ s.channel.trace) :
    framesIn deeds = [⟨true, .pong, payload⟩] ∧
      ((s.perform (.pong payload)).2.channel.isOpen = true →
        writesIn deeds = [Frame.encode ⟨true, .pong, payload⟩]) := by
  have sent : (s.perform (.pong payload)).2 = s.handOver ⟨true, .pong, payload⟩ .done := by
    simp [Action.pong, perform, send, Opcode.isControl, Nat.not_lt.2 short, opened, attempt]
  rw [sent] at grown ⊢
  constructor
  · have frames : framesIn (s.handOver ⟨true, .pong, payload⟩ .done).channel.trace =
        framesIn s.channel.trace ++ [⟨true, .pong, payload⟩] :=
      (framesIn_run _ _).trans (seenIn_cons _ _)
    rw [grown] at frames
    simp only [seenIn_append] at frames
    exact List.append_cancel_left frames
  · intro isOpen
    have shown := ((Channel.Shows.record s.channel (.framed ⟨true, .pong, payload⟩)).trans
      (.write _ (Frame.encode ⟨true, .pong, payload⟩))).writes isOpen
    have writes : writesIn (s.handOver ⟨true, .pong, payload⟩ .done).channel.trace =
        writesIn s.channel.trace ++ [Frame.encode ⟨true, .pong, payload⟩] := shown
    rw [grown, writesIn, seenIn_append] at writes
    exact List.append_cancel_left writes

namespace Conversation

variable {react : React ε σ} {c : Conversation ε σ}

/-- Calling a gentle handler is a turn, and no more. -/
theorem heard_call (gentle : react.Gentle) (opened : c.socket.session.closing = false)
    {callback : Callback} (during : callback.isDuring = true)
    (short : ∀ payload, callback = .ping payload → payload.length ≤ controlLimit) :
    ∃ deeds, Heard react c [⟨callback, deeds⟩] (c.call react callback) ∧
      (c.call react callback).assembling = c.assembling := by
  have script := gentle c.handler callback during
  have returns := script.returns (c.socket.record (.callback callback))
  have called : c.call react callback = { c with
      socket := ((react c.handler callback).run (c.socket.record (.callback callback))).2
      handler :=
        ((react c.handler callback).run (c.socket.record (.callback callback))).1.state } := by
    simp only [call]
    rw [returns]
  obtain ⟨deeds, grown, callbacks, -⟩ := script.aside (c.socket.record (.callback callback))
  refine ⟨deeds, ?_, by rw [called]⟩
  rw [called]
  refine ⟨?_, by simpa using callbacks, script.closing_eq _, rfl, fun isOpen => ?_, ?_⟩
  · simp only [grown, List.reverse_singleton, List.flatMap_singleton, Turn.signals,
      List.append_assoc]
    rfl
  · exact script.isOpen (s := c.socket.record (.callback callback)) isOpen
  · intro answers turn member payload isPing
    obtain rfl := List.mem_singleton.1 member
    obtain rfl : callback = .ping payload := isPing
    rw [answers] at grown ⊢
    -- The default answer is one action, and neither the socket nor the length refuses it.
    have start : (c.socket.record (.callback (.ping payload))).session.closing = false := opened
    exact Socket.pong_shown start (short payload rfl) grown

/-- A whole message goes to the handler. -/
theorem heard_deliver (gentle : react.Gentle) (opened : c.socket.session.closing = false)
    {opcode : Opcode} {payload : Bytes} {message : Message}
    (whole : toMessage opcode payload = .ok message) :
    ∃ deeds, Heard react c [⟨.message message, deeds⟩] (c.deliver react opcode payload) ∧
      (c.deliver react opcode payload).assembling = c.assembling := by
  unfold deliver
  rw [whole]
  exact heard_call gentle opened rfl nofun

end Conversation

/-- A conversation takes these frames, with these turns. -/
inductive Listens (react : React ε σ) :
    Conversation ε σ → List Frame → List (Turn ε) → Conversation ε σ → Prop where
  | done (c : Conversation ε σ) : Listens react c [] [] c
  | next {c c' : Conversation ε σ} {frame : Frame} {frames : List Frame}
    {turns more : List (Turn ε)} (lawful : frame.Lawful) (within : frame.payload.length ≤ c.limit)
    (heard : Heard react c turns (c.onFrame react frame))
    (others : Listens react (c.onFrame react frame) frames more c') :
    Listens react c (frame :: frames) (turns ++ more) c'

/-- What a client writes: frames with the keys that mask them. -/
def clientStream (keyed : List (Frame × Bytes)) : Bytes :=
  keyed.flatMap fun (frame, key) => frame.encodeMasked key

namespace Listens

variable {react : React ε σ} {c c' c'' : Conversation ε σ} {frames others : List Frame}
variable {turns more : List (Turn ε)}

theorem single {frame : Frame} (lawful : frame.Lawful) (within : frame.payload.length ≤ c.limit)
    (heard : Heard react c turns (c.onFrame react frame)) :
    Listens react c [frame] turns (c.onFrame react frame) := by
  have one := Listens.next lawful within heard (.done _)
  rwa [List.append_nil] at one

theorem trans (h : Listens react c frames turns c') (h' : Listens react c' others more c'') :
    Listens react c (frames ++ others) (turns ++ more) c'' := by
  induction h with
  | done => exact h'
  | next lawful within heard _ ih =>
    rw [List.append_assoc]
    exact .next lawful within heard (ih h')

theorem heard (h : Listens react c frames turns c') : Heard react c turns c' := by
  induction h with
  | done c => exact .silence rfl rfl rfl
  | next _ _ heard _ ih => exact heard.trans ih

/-- The frames are taken one after another from what the client writes, and nothing is left. -/
theorem takeFrames (h : Listens react c frames turns c') (opened : c.socket.session.closing = false)
    (word : c.limit < 2 ^ 64) {keyed : List (Frame × Bytes)} (same : keyed.map Prod.fst = frames)
    (keys : ∀ framed ∈ keyed, framed.2.length = 4) :
    c.takeFrames react (clientStream keyed) = (some [], c') := by
  induction h generalizing keyed with
  | done c =>
    obtain rfl := List.map_eq_nil_iff.1 same
    exact Conversation.takeFrames_nil react opened
  | @next c c' frame frames turns more lawful within heard _ ih =>
    obtain ⟨⟨_, key⟩, keyed, rfl, rfl, behind⟩ := List.map_eq_cons_iff.1 same
    obtain ⟨four, keys⟩ := List.forall_mem_cons.1 keys
    have decoded := Frame.decode_encodeMasked lawful within
      (Nat.lt_of_le_of_lt within word) four (clientStream keyed)
    rw [clientStream, List.flatMap_cons, Conversation.takeFrames_eq,
      Conversation.settle_of_open opened, if_neg (Bool.eq_false_iff.1 opened)]
    simp only
    rw [← clientStream, decoded]
    simp only
    rw [List.drop_left]
    exact ih (heard.closing_eq.trans opened) (heard.limit_eq ▸ word) behind keys

end Listens
end WebServer.WebSocket

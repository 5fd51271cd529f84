import WebServer.Proofs.Stream.Calm
import WebServer.Proofs.WebSocket.Life

/-!
# Missed pongs

A keepalive has one place for the time by which a pong is due, and every ping writes it anew. So a
pong that is missed is noticed if its time is over before the next ping, and never otherwise: then
the next ping comes first and puts the time off. `missed_pong_verdict` is about all that may happen
to a conversation whose timer runs on time, as long as nobody closes it or sets another keepalive.
`Step.next` lists what one step can do, and the theorem goes along the steps with it.
-/
namespace WebServer

variable {ε σ : Type}

/-- The pong that the handler hears of. -/
def Signal.pong? : Signal ε → Option Bytes
  | .callback (.pong payload) => some payload
  | _ => none

/-- The pongs that the handler heard of. -/
def pongsIn (trace : List (Signal ε)) : List Bytes := seenIn Signal.pong? trace

theorem length_pongsIn_le {trace trace' : List (Signal ε)} (grown : trace <:+ trace') :
    (pongsIn trace).length ≤ (pongsIn trace').length := by
  obtain ⟨new, rfl⟩ := grown
  rw [pongsIn, pongsIn, seenIn_append, List.length_append]
  exact Nat.le_add_right _ _

theorem pongsIn_run (ch : Channel ε) (tasks : List (Task ε)) :
    pongsIn (ch.run tasks).trace = pongsIn ch.trace :=
  (ch.run_extends tasks).seenIn_eq fun signal channel => by
    cases signal <;> first | rfl | cases channel

namespace WebSocket

/-- An action that leaves the keepalive to the server. -/
def Action.Steady : Action ε → Prop
  | .setAutoPing .. | .cancelAutoPing => False
  | .send .. | .close .. | .write .. | .closeConnection | .isOpen | .stats => True

/-- Applications that leave the keepalive to the server, whose timer runs at certain times. -/
def Scope.steady (times : Nat → Prop) : Scope ε where
  acts := Action.Steady
  times := times

theorem Socket.session_of_steady (s : Socket ε) {action : Action ε} (steady : action.Steady)
    (other : action.isClose = false) : (s.perform action).2.session = s.session := by
  cases action with
  | send frame after =>
    simp only [perform, send]
    split
    · rfl
    · split <;> rfl
  | close code reason => cases other
  | setAutoPing | cancelAutoPing => exact steady.elim
  | write | closeConnection | isOpen | stats => rfl

/-- What is seen of a closing: that it begins, and that the close frame is handed over. -/
theorem Socket.shown_beginClosing (s : Socket ε) (origin : Origin) (code : CloseCode)
    (reason : String) (payload : Bytes) :
    ∃ handed, (s.beginClosing origin code reason payload).channel.trace =
      handed ++ .framed ⟨true, .close, payload⟩ :: .closing origin code reason ::
        s.channel.trace := by
  let framed := (s.channel.record (.closing origin code reason)).record
    (.framed ⟨true, .close, payload⟩)
  obtain ⟨handed, trace, -⟩ := framed.run_extends
    [.complete (.write (Frame.encode ⟨true, .close, payload⟩) (.close .done) .done)]
  exact ⟨handed, trace⟩

namespace Keepalive

/-- A keepalive between two runs of the timer: it stays as it is, until a pong comes and none is due
any more. -/
structure Waits (k k' : Keepalive) (answered : Prop) : Prop where
  interval_eq : k'.interval = k.interval
  timeout_eq : k'.timeout = k.timeout
  nextPing_eq : k'.nextPing = k.nextPing
  due : k'.pongDeadline = k.pongDeadline ∨ answered ∧ k'.pongDeadline = none

theorem Waits.refl (k : Keepalive) (answered : Prop) : k.Waits k answered :=
  ⟨rfl, rfl, rfl, .inl rfl⟩

theorem Waits.mono {k k' : Keepalive} {answered answered' : Prop} (weaker : answered → answered')
    (h : k.Waits k' answered) : k.Waits k' answered' :=
  ⟨h.interval_eq, h.timeout_eq, h.nextPing_eq, h.due.imp id fun came => ⟨weaker came.1, came.2⟩⟩

theorem deadline_le_nextPing (k : Keepalive) : k.deadline ≤ k.nextPing := by
  unfold deadline
  split
  · exact Nat.min_le_right _ _
  · exact Nat.le_refl _

theorem deadline_le (k : Keepalive) {due : Nat} (known : k.pongDeadline = some due) :
    k.deadline ≤ due := by
  unfold deadline
  rw [known]
  exact Nat.min_le_left _ _

/-- After a ping at a time. -/
def pinged (k : Keepalive) (now : Nat) : Keepalive :=
  { k with
    lastPing := some now
    pongDeadline := some (now + k.timeout)
    nextPing := now + k.interval }

/-- What the timer asks for: to give up if a pong is overdue, else to ping if it is time. -/
theorem tick_cases (k : Keepalive) (now : Nat) :
    (∃ due, k.pongDeadline = some due ∧ due ≤ now ∧ k.tick now = (.timedOut, k)) ∨
      (∀ due, k.pongDeadline = some due → now < due) ∧
        (k.nextPing ≤ now ∧ k.tick now = (.ping, k.pinged now) ∨
          now < k.nextPing ∧ k.tick now = (.idle, k)) := by
  unfold tick
  by_cases overdue : k.pongDeadline.any (· ≤ now) = true
  · rw [if_pos overdue]
    obtain ⟨due, known, late⟩ := (Option.any_eq_true _ _).1 overdue
    exact .inl ⟨due, known, of_decide_eq_true late, rfl⟩
  · rw [if_neg overdue]
    refine .inr ⟨fun due known => ?_, ?_⟩
    · simpa [known] using overdue
    · by_cases time : k.nextPing ≤ now
      · rw [if_pos time]
        exact .inl ⟨time, rfl⟩
      · rw [if_neg time]
        exact .inr ⟨Nat.lt_of_not_le time, rfl⟩

/-- A keepalive with this interval and timeout. The time by which a pong is due and that of the next
ping are reckoned from the same ping. -/
structure Regular (interval timeout : Nat) (k : Keepalive) : Prop where
  interval_eq : k.interval = interval
  timeout_eq : k.timeout = timeout
  due : ∀ due, k.pongDeadline = some due → due + interval = k.nextPing + timeout

namespace Regular

variable {interval timeout : Nat} {k k' : Keepalive}

theorem start (now interval timeout : Nat) :
    Regular interval timeout (Keepalive.start now interval timeout) :=
  ⟨rfl, rfl, nofun⟩

theorem pinged (h : k.Regular interval timeout) (now : Nat) :
    (k.pinged now).Regular interval timeout := by
  refine ⟨h.interval_eq, h.timeout_eq, ?_⟩
  rintro due ⟨⟩
  rw [h.timeout_eq, show (k.pinged now).nextPing = now + interval from
    congrArg (now + ·) h.interval_eq]
  omega

theorem waits {answered : Prop} (h : k.Regular interval timeout) (waits : k.Waits k' answered) :
    k'.Regular interval timeout := by
  refine ⟨waits.interval_eq.trans h.interval_eq, waits.timeout_eq.trans h.timeout_eq,
    fun due known => ?_⟩
  rw [waits.nextPing_eq]
  rcases waits.due with same | ⟨-, none⟩
  · exact h.due due (same ▸ known)
  · rw [none] at known
    cases known

end Regular
end Keepalive

/-- Where a socket stands that had a keepalive and whose handler had heard of some pongs: it is
closing, or the keepalive still waits. -/
inductive Standing.Watched (k : Keepalive) (pongs : Nat) (st : Standing ε) : Prop where
  | ended (ended : st.Ended)
  | on {k' : Keepalive} (opened : st.socket.session.closing = false) (untold : st.told = false)
    (armed : st.socket.session.keepalive = some k')
    (before : pongs ≤ (pongsIn st.socket.channel.trace).length)
    (waits : k.Waits k' (pongs < (pongsIn st.socket.channel.trace).length))

namespace Standing.Watched

variable {k : Keepalive} {pongs : Nat} {st st' : Standing ε}

theorem aside (h : st.Watched k pongs) (session : st'.socket.session = st.socket.session)
    (told : st'.told = st.told) (grown : st.socket.channel.trace <:+ st'.socket.channel.trace) :
    st'.Watched k pongs := by
  have more := length_pongsIn_le grown
  cases h with
  | ended ended => exact .ended ⟨session ▸ ended.1, session ▸ ended.2⟩
  | on opened untold armed before waits =>
    exact .on (session ▸ opened) (told.trans untold) (session ▸ armed) (Nat.le_trans before more)
      (waits.mono fun came => Nat.lt_of_lt_of_le came more)

/-- This side closes, whatever for. -/
theorem close {s : Socket ε} {told : Bool} (h : (⟨s, told⟩ : Standing ε).Watched k pongs)
    (code : CloseCode) (reason : String) :
    Watched k pongs ⟨(s.perform (.close code reason)).2, told⟩ := by
  rcases s.perform_close code reason with same | ⟨-, begins⟩
  · rwa [same]
  · rw [begins]
    exact .ended ⟨rfl, rfl⟩

end Standing.Watched

/-- Between two runs of the timer a keepalive only loses the time by which a pong is due, when one
comes. -/
theorem Move.watched {st st' : Standing ε} (move : Move (.steady fun _ => False) st st')
    {k : Keepalive} {pongs : Nat} (h : st.Watched k pongs) : st'.Watched k pongs := by
  have grown := move.grows
  cases move with
  | work | wire | clock | occasion | note | hear => exact h.aside rfl rfl grown
  | @act s told action steady =>
    rcases action.close_or_other with ⟨code, reason, rfl⟩ | other
    · exact h.close code reason
    · exact h.aside (s.session_of_steady steady other) rfl grown
  | close code reason => exact h.close code reason
  | tick now never => exact never.elim
  | @pong s told payload opened =>
    cases h with
    | ended ended =>
      rw [show s.session.closing = true from ended.1] at opened
      cases opened
    | @on k' _ untold armed before waits =>
      have heard : (pongsIn (.callback (.pong payload) :: s.channel.trace)).length =
          (pongsIn s.channel.trace).length + 1 := by
        simp [pongsIn, Signal.pong?]
      have came : pongs < (pongsIn (.callback (.pong payload) :: s.channel.trace)).length := by
        rw [heard]
        exact Nat.lt_succ_of_le before
      have received : s.pongReceived.session.keepalive = some (k'.pongReceived s.now) :=
        congrArg (Option.map _) armed
      exact .on opened untold received (Nat.le_of_lt came)
        ⟨waits.interval_eq, waits.timeout_eq, waits.nextPing_eq, .inr ⟨came, rfl⟩⟩
  | answer payload opened =>
    rw [Socket.echoClose_of_open opened]
    exact .ended ⟨rfl, rfl⟩
  | tell | silence => exact .ended ⟨rfl, rfl⟩

/-- A conversation, and the time at which it stands. -/
structure Moment (ε σ : Type) where
  now : Nat
  talk : Conversation ε σ

namespace Moment

def socket (m : Moment ε σ) : Socket ε := { m.talk.socket with now := m.now }

def trace (m : Moment ε σ) : List (Signal ε) := m.talk.socket.channel.trace

def closing (m : Moment ε σ) : Bool := m.talk.socket.session.closing

/-- A window is offered. -/
def offer (react : React ε σ) (m : Moment ε σ) (window : Bytes) : Moment ε σ :=
  let talk : Conversation ε σ := { m.talk with socket := m.socket.record (.window window) }
  { m with talk := (talk.takeFrames react window).2 }

/-- The timer runs. -/
def timer (react : React ε σ) (m : Moment ε σ) : Moment ε σ :=
  let talk : Conversation ε σ := { m.talk with socket := m.socket.record .timer }
  { m with talk := talk.onTimer react m.now }

/-- The application acts from outside of its callbacks. -/
def act (m : Moment ε σ) (action : Action ε) : Moment ε σ :=
  { m with talk := { m.talk with socket := (m.socket.perform action).2 } }

/-- Time goes by until then. -/
def waiting (m : Moment ε σ) (later : Nat) : Moment ε σ := { m with now := later }

/-- Something is done to the channel past the socket. -/
def onChannel (m : Moment ε σ) (change : Channel ε → Channel ε) : Moment ε σ :=
  { m with talk := { m.talk with socket := { m.socket with channel := change m.socket.channel } } }

/-- What may happen while nobody but the timer closes the socket, the keepalive is left to the
server, and the timer runs whenever it is due. -/
inductive Step (react : React ε σ) : Moment ε σ → Moment ε σ → Prop where
  /-- Time goes by, until the timer is due at the latest. -/
  | wait {m : Moment ε σ} {later : Nat} (onwards : m.now ≤ later)
    (inTime : ∀ due, m.talk.socket.deadline = some due → later ≤ due) :
    Step react m (m.waiting later)
  | timer (m : Moment ε σ) : Step react m (m.timer react)
  | offer {m : Moment ε σ} {window : Bytes}
    (calm : m.closing = false → (m.offer react window).closing = false) :
    Step react m (m.offer react window)
  | act {m : Moment ε σ} {action : Action ε} (steady : action.Steady)
    (calm : m.closing = false → (m.act action).closing = false) : Step react m (m.act action)
  | work (m : Moment ε σ) (tasks : List (Task ε)) : Step react m (m.onChannel (·.run tasks))
  | wire (m : Moment ε σ) (wire : Wire) : Step react m (m.onChannel ({ · with wire }))

/-- Steps one after another. -/
abbrev Steps (react : React ε σ) : Moment ε σ → Moment ε σ → Prop :=
  Relation.ReflTransGen (Step react)

def standing (m : Moment ε σ) : Standing ε := m.talk.standing

/-- The handler heard of a pong since an earlier moment. -/
def Answered (earlier m : Moment ε σ) : Prop :=
  (pongsIn earlier.trace).length < (pongsIn m.trace).length

/-- The server gave up on the peer: it began to close, handed the close frame to the connection and
called the handler. -/
structure GaveUp (m m' : Moment ε σ) : Prop where
  now_eq : m'.now = m.now
  ended : m'.standing.Ended
  told : m'.talk.closeNotified = true
  shown : ∃ handed deeds, m'.trace =
    deeds ++ .callback (.closed .normal "ping timeout") ::
      (handed ++ .framed ⟨true, .close, CloseCode.normal.payload "ping timeout"⟩ ::
        .closing .here .normal "ping timeout" :: .timer :: m.trace)

/-- A socket that is open, with a keepalive of which nothing is overdue. -/
structure Armed (k : Keepalive) (m : Moment ε σ) : Prop where
  opened : m.closing = false
  untold : m.talk.closeNotified = false
  armed : m.talk.socket.session.keepalive = some k
  toPing : m.now ≤ k.nextPing
  toHear : ∀ due, k.pongDeadline = some due → m.now ≤ due

/-- What comes of a keepalive in one step. -/
inductive Next (k : Keepalive) (m m' : Moment ε σ) : Prop where
  | goesOn {k' : Keepalive} (armed : m'.Armed k')
    (waits : k.Waits k' (m'.now = m.now ∧ m.Answered m'))
  | pings (time : k.nextPing ≤ m.now) (notYet : ∀ due, k.pongDeadline = some due → m.now < due)
    (armed : m'.Armed (k.pinged m.now))
  | givesUp {due : Nat} (known : k.pongDeadline = some due) (late : due ≤ m.now)
    (gone : m.GaveUp m')

variable {react : React ε σ} {k : Keepalive} {m m' : Moment ε σ}

namespace Armed

/-- What the application and the peer do between two runs of the timer. -/
theorem next_of_moves (h : m.Armed k) (now : m'.now = m.now)
    (moves : Moves (.steady fun _ => False) m.standing m'.standing)
    (calm : m.closing = false → m'.closing = false) : Next k m m' := by
  have start : m.standing.Watched k (pongsIn m.trace).length :=
    .on h.opened h.untold h.armed (Nat.le_refl _) (.refl k _)
  have watched := moves.preserve (fun _ _ move => move.watched) start
  cases watched with
  | ended ended =>
    have opened : m'.standing.socket.session.closing = false := calm h.opened
    rw [ended.1] at opened
    cases opened
  | on opened untold armed before waits =>
    refine .goesOn ⟨opened, untold, armed, ?_, fun due known => ?_⟩
      (waits.mono fun came => ⟨now, came⟩)
    · rw [now, waits.nextPing_eq]
      exact h.toPing
    · rw [now]
      rcases waits.due with same | ⟨-, none⟩
      · exact h.toHear due (same ▸ known)
      · rw [none] at known
        cases known

end Armed

/-- The socket when the timer has run and left this keepalive. -/
def ticked (m : Moment ε σ) (k : Keepalive) : Socket ε :=
  { m.socket.record .timer with session := { m.talk.socket.session with keepalive := some k } }

namespace Armed

theorem tick_eq (h : m.Armed k) {tick : Tick} {k' : Keepalive}
    (asks : k.tick m.now = (tick, k')) :
    (m.socket.record .timer).tick m.now = (tick, m.ticked k') := by
  have armed : (m.socket.record .timer).session.keepalive = some k := h.armed
  unfold Socket.tick
  rw [armed]
  simp only [asks]
  rfl

/-- Nothing is due. -/
theorem next_of_idle (h : m.Armed k) (idle : k.tick m.now = (.idle, k)) :
    Next k m (m.timer react) := by
  have opened : ({ m.talk with socket := m.ticked k } :
      Conversation ε σ).socket.session.closing = false := h.opened
  have timed : m.timer react = { m with talk := { m.talk with socket := m.ticked k } } := by
    simp only [timer, Conversation.onTimer, h.tick_eq idle]
    rw [Conversation.settle_of_open opened]
  rw [timed]
  exact .goesOn ⟨h.opened, h.untold, rfl, h.toPing, h.toHear⟩ (.refl k _)

/-- The timer pings. -/
theorem timer_of_ping (react : React ε σ) (h : m.Armed k)
    (ping : k.tick m.now = (.ping, k.pinged m.now)) :
    m.timer react = { m with talk := { m.talk with
      socket := (m.ticked (k.pinged m.now)).handOver ⟨true, .ping, []⟩ .done } } := by
  have opened : ({ m.talk with socket :=
      (m.ticked (k.pinged m.now)).handOver ⟨true, .ping, []⟩ .done } :
      Conversation ε σ).socket.session.closing = false := h.opened
  have sent : ((m.ticked (k.pinged m.now)).perform (.ping [])).2 =
      (m.ticked (k.pinged m.now)).handOver ⟨true, .ping, []⟩ .done := by
    have still : (m.ticked (k.pinged m.now)).session.closing = false := h.opened
    simp [Action.ping, Socket.perform, Socket.send, still, Socket.attempt]
  simp only [timer, Conversation.onTimer, h.tick_eq ping, sent]
  rw [Conversation.settle_of_open opened]

/-- That is not a pong of the peer. -/
theorem pongs_of_ping (react : React ε σ) (h : m.Armed k)
    (ping : k.tick m.now = (.ping, k.pinged m.now)) :
    pongsIn (m.timer react).trace = pongsIn m.trace := by
  have silent : pongsIn (.framed ⟨true, .ping, []⟩ :: .timer :: m.trace) = pongsIn m.trace := by
    simp [pongsIn, Signal.pong?]
  rw [h.timer_of_ping react ping]
  exact (pongsIn_run _ _).trans silent

theorem armed_of_ping (react : React ε σ) (h : m.Armed k)
    (ping : k.tick m.now = (.ping, k.pinged m.now)) :
    (m.timer react).Armed (k.pinged m.now) := by
  rw [h.timer_of_ping react ping]
  refine ⟨h.opened, h.untold, rfl, Nat.le_add_right _ _, ?_⟩
  rintro due ⟨⟩
  exact Nat.le_add_right _ _

/-- The timer gives up. -/
theorem next_of_timeout (steady : react.Within Action.Steady) (h : m.Armed k) {due : Nat}
    (known : k.pongDeadline = some due) (late : due ≤ m.now)
    (timeout : k.tick m.now = (.timedOut, k)) : Next k m (m.timer react) := by
  let begun : Socket ε := (m.ticked k).beginClosing .here .normal "ping timeout"
    (CloseCode.normal.payload "ping timeout")
  let leaving : Conversation ε σ :=
    { m.talk with socket := begun.takeNotice.2, closeNotified := true }
  have fits : ¬ reasonLimit < "ping timeout".utf8ByteSize := by decide
  have opened : (m.ticked k).session.closing = false := h.opened
  have closed : ({ m.talk with socket := m.ticked k } : Conversation ε σ).close .normal
      "ping timeout" = { m.talk with socket := begun } := by
    simp [Conversation.close, Socket.close, fits, opened, Socket.attempt, begun]
  have untold : m.talk.closeNotified = false := h.untold
  have timed : m.timer react = ⟨m.now, leaving.call react (.closed .normal "ping timeout")⟩ := by
    simp only [timer, Conversation.onTimer, h.tick_eq timeout, closed]
    simp [Conversation.settle, Conversation.notifyClose, begun, Socket.beginClosing,
      Socket.handOver, Socket.takeNotice, untold, leaving]
  have moves : Moves (.steady fun _ => False)
      ⟨begun.takeNotice.2.record (.callback (.closed .normal "ping timeout")), true⟩
      (m.timer react).standing := by
    rw [timed]
    exact Conversation.call_moves steady leaving (.closed .normal "ping timeout")
  refine .givesUp known late ⟨rfl, ?_, ?_, ?_⟩
  · exact moves.preserve (fun _ _ move => move.ended) ⟨rfl, rfl⟩
  · rw [timed]
    exact Conversation.closeNotified_call react leaving _
  · obtain ⟨deeds, called⟩ := moves.grows
    obtain ⟨handed, begins⟩ := (m.ticked k).shown_beginClosing .here .normal "ping timeout"
      (CloseCode.normal.payload "ping timeout")
    refine ⟨handed, deeds, called.symm.trans ?_⟩
    exact congrArg (deeds ++ .callback (.closed .normal "ping timeout") :: ·) begins

end Armed

/-- What a step can be: time goes by, or the timer runs, or the conversation moves between two runs
of the timer. -/
theorem Step.cases (steady : react.Within Action.Steady) (times : Nat → Prop)
    (step : Step react m m') (honest : m.standing.Honest) :
    (∃ later, m' = m.waiting later ∧ m.now ≤ later ∧
      ∀ due, m.talk.socket.deadline = some due → later ≤ due) ∨
    m' = m.timer react ∨
    m'.now = m.now ∧ Moves (.steady times) m.standing m'.standing ∧
      (m.closing = false → m'.closing = false) := by
  have awake {st : Standing ε} (moves : Moves (.steady times) ⟨m.socket, m.talk.closeNotified⟩ st) :
      Moves (.steady times) m.standing st := .head (.clock m.now) moves
  cases step with
  | @wait later onwards inTime => exact .inl ⟨later, rfl, onwards, inTime⟩
  | timer => exact .inr (.inl rfl)
  | @offer window calm =>
    let talk : Conversation ε σ := { m.talk with socket := m.socket.record (.window window) }
    have taken : Moves (.steady times) talk.standing (m.offer react window).standing :=
      Conversation.takeFrames_moves steady talk honest window fun payload closes =>
        ⟨window, List.mem_cons_self, closes⟩
    exact .inr (.inr ⟨rfl, awake (.head (.occasion (.window window) rfl) taken), calm⟩)
  | @act action within calm => exact .inr (.inr ⟨rfl, awake (.single (.act action within)), calm⟩)
  | work tasks =>
    exact .inr (.inr ⟨rfl, awake (.single (.work tasks fun _ _ => trivial)), id⟩)
  | wire wire => exact .inr (.inr ⟨rfl, awake (.single (.wire wire)), id⟩)

/-- A closing is for good. -/
theorem Step.ended (steady : react.Within Action.Steady) (step : Step react m m')
    (ended : m.standing.Ended) : m'.standing.Ended := by
  rcases step.cases steady (fun _ => True) fun _ => ended.1 with
    ⟨later, rfl, -⟩ | rfl | ⟨-, moves, -⟩
  · exact ended
  · let talk : Conversation ε σ := { m.talk with socket := m.socket.record .timer }
    have run : Moves (.steady fun _ => True) talk.standing (m.timer react).standing :=
      Conversation.onTimer_moves steady trivial talk m.now trivial
    exact run.preserve (fun _ _ move => move.ended) ended
  · exact moves.preserve (fun _ _ move => move.ended) ended

/-- What comes of a keepalive in one step. -/
theorem Step.next (steady : react.Within Action.Steady) (step : Step react m m') (h : m.Armed k) :
    Next k m m' := by
  have honest : m.standing.Honest := fun told => absurd told (Bool.eq_false_iff.1 h.untold)
  rcases step.cases steady (fun _ => False) honest with
    ⟨later, rfl, -, inTime⟩ | rfl | ⟨now, moves, calm⟩
  · have due : later ≤ k.deadline := inTime _ (congrArg (Option.map _) h.armed)
    refine .goesOn ⟨h.opened, h.untold, h.armed, ?_, fun time known => ?_⟩ (.refl k _)
    · exact Nat.le_trans due k.deadline_le_nextPing
    · exact Nat.le_trans due (k.deadline_le known)
  · rcases k.tick_cases m.now with ⟨due, known, late, tick⟩ | ⟨notYet, ⟨time, tick⟩ | ⟨-, tick⟩⟩
    · exact h.next_of_timeout steady known late tick
    · exact .pings time notYet (h.armed_of_ping react tick)
    · exact h.next_of_idle tick
  · exact h.next_of_moves now moves calm

/-- The socket is over, or open with a keepalive of this interval and timeout. -/
def Guarded (interval timeout : Nat) (m : Moment ε σ) : Prop :=
  m.standing.Ended ∨ ∃ k, m.Armed k ∧ k.Regular interval timeout

variable {interval timeout : Nat}

/-- A step leaves the keepalive regular. Only if the timeout is no longer than the interval, the
timer may give up. -/
theorem Step.regular (steady : react.Within Action.Steady) (step : Step react m m')
    (h : m.Armed k) (regular : k.Regular interval timeout) :
    (∃ k', m'.Armed k' ∧ k'.Regular interval timeout) ∨
      timeout ≤ interval ∧ m'.standing.Ended := by
  cases step.next steady h with
  | goesOn armed waits => exact .inl ⟨_, armed, regular.waits waits⟩
  | pings time notYet armed => exact .inl ⟨_, armed, regular.pinged m.now⟩
  | givesUp known late gone =>
    -- The pong is due by now, and the next ping no earlier. Both are reckoned from the same ping.
    have due := regular.due _ known
    have toPing := h.toPing
    exact .inr ⟨by omega, gone.ended⟩

theorem Steps.guarded (steady : react.Within Action.Steady) (steps : Steps react m m')
    (h : m.Guarded interval timeout) : m'.Guarded interval timeout := by
  induction steps with
  | refl => exact h
  | tail _ step ih =>
    rcases ih with ended | ⟨k, armed, regular⟩
    · exact .inl (step.ended steady ended)
    · exact (step.regular steady armed regular).symm.imp And.right id

/-- If the interval is shorter than the timeout, the timer never gives up. -/
theorem Steps.never_ended (steady : react.Within Action.Steady) (steps : Steps react m m')
    (short : interval < timeout) (h : m.Armed k) (regular : k.Regular interval timeout) :
    ∃ k', m'.Armed k' ∧ k'.Regular interval timeout := by
  induction steps with
  | refl => exact ⟨k, h, regular⟩
  | tail _ step ih =>
    obtain ⟨k', armed, regular'⟩ := ih
    exact (step.regular steady armed regular').resolve_right fun ended =>
      absurd ended.1 (Nat.not_le.2 short)

/-- On the way to the last moment there was such a step, no later than at a time. -/
def By (react : React ε σ) (m last : Moment ε σ) (time : Nat)
    (such : Moment ε σ → Moment ε σ → Prop) : Prop :=
  ∃ earlier later, Steps react m earlier ∧ Step react earlier later ∧ such earlier later ∧
    Steps react later last ∧ later.now ≤ time

/-- If a pong is due before the next ping, then it comes in time, or the timer gives up in time, or
it is still waited for. -/
theorem Steps.waits (steady : react.Within Action.Steady) {pinged : Moment ε σ}
    (steps : Steps react pinged m) (h : pinged.Armed k) {due : Nat}
    (known : k.pongDeadline = some due) (first : due ≤ k.nextPing) :
    By react pinged m due Answered ∨ By react pinged m due GaveUp ∨
      ∃ k', m.Armed k' ∧ k'.pongDeadline = some due ∧ due ≤ k'.nextPing := by
  induction steps with
  | refl => exact .inr (.inr ⟨k, h, known, first⟩)
  | @tail m m' steps step ih =>
    rcases ih with ⟨_, _, reached, one, such, on, time⟩ | ⟨_, _, reached, one, such, on, time⟩ |
      ⟨k', armed, waits, first'⟩
    · exact .inl ⟨_, _, reached, one, such, on.tail step, time⟩
    · exact .inr (.inl ⟨_, _, reached, one, such, on.tail step, time⟩)
    · have inTime := armed.toHear due waits
      cases step.next steady armed with
      | goesOn armed' kept =>
        rcases kept.due with same | ⟨⟨now, came⟩, -⟩
        · exact .inr (.inr ⟨_, armed', same.trans waits, kept.nextPing_eq ▸ first'⟩)
        · exact .inl ⟨m, m', steps, step, came, .refl, now ▸ inTime⟩
      | pings time notYet =>
        -- Before the next ping the pong was due, so the timer has not come to a ping.
        have := notYet due waits
        omega
      | givesUp _ _ gone =>
        exact .inr (.inl ⟨m, m', steps, step, gone, .refl, gone.now_eq ▸ inTime⟩)

theorem armed_of_set {m : Moment ε σ} (opened : m.closing = false)
    (untold : m.talk.closeNotified = false) (positive : 0 < interval) (timeout : Nat) :
    (m.act (.setAutoPing interval timeout)).Armed (Keepalive.start m.now interval timeout) := by
  have still : ¬ m.socket.session.closing = true := Bool.eq_false_iff.1 opened
  have set : m.socket.setAutoPing interval timeout = .ok { m.socket with
      session := { m.talk.socket.session with
        keepalive := some (Keepalive.start m.now interval timeout) } } := by
    unfold Socket.setAutoPing
    rw [if_neg (Nat.ne_of_gt positive), if_neg still]
    rfl
  have acts : m.act (.setAutoPing interval timeout) = { m with talk := { m.talk with
      socket := (m.socket.attempt (m.socket.setAutoPing interval timeout)).2 } } := rfl
  rw [acts, set]
  exact ⟨opened, untold, rfl, Nat.le_add_right _ _, nofun⟩

/-- Where the timer pings, the socket is open, and the time by which the pong is due is set. -/
theorem armed_behind_ping (react : React ε σ) (h : m.Guarded interval timeout)
    (ping : (m.socket.tick m.now).1 = .ping) :
    ∃ k, (m.timer react).Armed k ∧ k.pongDeadline = some (m.now + timeout) ∧
      k.nextPing = m.now + interval := by
  rcases h with ended | ⟨k, armed, regular⟩
  · have idle : m.socket.session.keepalive = none := ended.2
    simp [Socket.tick, idle] at ping
  · have asks : (k.tick m.now).1 = .ping := by
      have known : m.socket.session.keepalive = some k := armed.armed
      simpa [Socket.tick, known] using ping
    rcases k.tick_cases m.now with ⟨_, -, -, tick⟩ | ⟨-, ⟨-, tick⟩ | ⟨-, tick⟩⟩
    · rw [tick] at asks
      cases asks
    · refine ⟨_, armed.armed_of_ping react tick, ?_, ?_⟩
      · exact congrArg (fun timeout => some (m.now + timeout)) regular.timeout_eq
      · exact congrArg (m.now + ·) regular.interval_eq
    · rw [tick] at asks
      cases asks

end Moment

open Moment in
/-- For every interval, every timeout and every ping of a keepalive on an open socket, whatever else
happens but that somebody closes or reconfigures it: if the timeout is no longer than the interval,
then when the timeout is over a pong came in time or the server gave up in time. If the interval is
shorter, the server never gives up, whether pongs come or not. -/
theorem missed_pong_verdict {react : React ε σ} (steady : react.Within Action.Steady)
    {start pinging last : Moment ε σ} (opened : start.closing = false)
    (untold : start.talk.closeNotified = false) {interval timeout : Nat} (positive : 0 < interval)
    (before : Steps react (start.act (.setAutoPing interval timeout)) pinging)
    (ping : (pinging.socket.tick pinging.now).1 = .ping)
    (behind : Steps react (pinging.timer react) last) :
    (timeout ≤ interval → pinging.now + timeout < last.now →
      By react (pinging.timer react) last (pinging.now + timeout) Answered ∨
        By react (pinging.timer react) last (pinging.now + timeout) GaveUp) ∧
    (interval < timeout → last.closing = false) := by
  have set := armed_of_set opened untold positive timeout
  have regular := Keepalive.Regular.start start.now interval timeout
  constructor
  · intro within past
    have guarded := Steps.guarded steady before (.inr ⟨_, set, regular⟩)
    obtain ⟨k, armed, due, next⟩ := armed_behind_ping react guarded ping
    rcases Steps.waits steady behind armed due (by omega) with came | gone | ⟨k', armed', due', -⟩
    · exact .inl came
    · exact .inr gone
    · have inTime := armed'.toHear _ due'
      omega
  · intro short
    have steps : Steps react (start.act (.setAutoPing interval timeout)) last :=
      before.trans (.head (.timer pinging) behind)
    obtain ⟨k, armed, -⟩ := Steps.never_ended steady steps short set regular
    exact armed.opened

/-- A handler that does nothing. -/
def idleHandler : React Unit Unit := fun _ _ => .done ()

/-- A WebSocket that was just opened, at time zero. -/
def openMoment : Moment Unit Unit :=
  ⟨0, { socket := { channel := {} }, handler := (), limit := 1024 }⟩

open Moment in
/-- With a ping every 3 milliseconds and a timeout of 2, a missed pong is noticed. -/
theorem missed_pong_noticed :
    let pinging := (openMoment.act (.setAutoPing 3 2)).waiting 3
    let last := (((pinging.timer idleHandler).waiting 5).timer idleHandler).waiting 6
    By idleHandler (pinging.timer idleHandler) last 5 Answered ∨
      By idleHandler (pinging.timer idleHandler) last 5 GaveUp := by
  intro pinging last
  have before : Steps idleHandler (openMoment.act (.setAutoPing 3 2)) pinging :=
    .single (.wait (by decide) (by rintro _ ⟨⟩; decide))
  have first : Step idleHandler (pinging.timer idleHandler)
      ((pinging.timer idleHandler).waiting 5) := .wait (by decide) (by rintro _ ⟨⟩; decide)
  have behind : Steps idleHandler (pinging.timer idleHandler) last :=
    .head first (.head (.timer _) (.single (.wait (by decide) (by rintro _ ⟨⟩))))
  have steady : idleHandler.Within Action.Steady := fun _ _ => trivial
  exact (missed_pong_verdict steady rfl rfl (by decide) before rfl behind).1 (by decide) (by decide)

open Moment in
/-- With a ping every 2 milliseconds and a timeout of 3, the ping at 2 is not answered, and at 6 the
server still waits. -/
theorem missed_pong_unnoticed :
    let pinging := (openMoment.act (.setAutoPing 2 3)).waiting 2
    let last := (((pinging.timer idleHandler).waiting 4).timer idleHandler).waiting 6
    Steps idleHandler (openMoment.act (.setAutoPing 2 3)) pinging ∧
      (pinging.socket.tick pinging.now).1 = .ping ∧
      Steps idleHandler (pinging.timer idleHandler) last ∧
      pinging.now + 3 < last.now ∧ pongsIn last.trace = [] ∧ last.closing = false := by
  intro pinging last
  have before : Steps idleHandler (openMoment.act (.setAutoPing 2 3)) pinging :=
    .single (.wait (by decide) (by rintro _ ⟨⟩; decide))
  have first : Step idleHandler (pinging.timer idleHandler)
      ((pinging.timer idleHandler).waiting 4) := .wait (by decide) (by rintro _ ⟨⟩; decide)
  have behind : Steps idleHandler (pinging.timer idleHandler) last :=
    .head first (.head (.timer _) (.single (.wait (by decide) (by rintro _ ⟨⟩; decide))))
  have armed : pinging.Armed (Keepalive.start 0 2 3) := ⟨rfl, rfl, rfl, by decide, nofun⟩
  have again : ((pinging.timer idleHandler).waiting 4).Armed ((Keepalive.start 0 2 3).pinged 2) :=
    ⟨rfl, rfl, rfl, by decide, by rintro _ ⟨⟩; decide⟩
  have pongs : pongsIn last.trace = pongsIn pinging.trace :=
    (again.pongs_of_ping idleHandler rfl).trans (armed.pongs_of_ping idleHandler rfl)
  exact ⟨before, rfl, behind, by decide, pongs, rfl⟩

end WebSocket
end WebServer

import WebServer.Proofs.WebSocket.MissedPongs

/-!
# Ping times

What the timer of a socket asks for is decided by what was called before, and when: a keepalive is
set, pings are sent, pongs come. A log keeps this, and `pings_on_time` reads the answers of the
timer off the log. The timer gives up if the last ping of the keepalive is unanswered and its time
is over, and in no other case. It pings if the interval is over since the last ping, or since the
keepalive was set. So if every ping is answered in time, the timer never closes a socket.
-/
namespace WebServer.WebSocket

variable {ε σ : Type}

/-- A call of a socket that may concern its keepalive. -/
inductive Call (ε : Type) where
  /-- The application acts, for instance sets a keepalive, cancels it or closes. -/
  | act (action : Action ε)
  /-- A pong comes. -/
  | pong
  /-- The timer runs. -/
  | tick
  /-- The peer's close frame is answered. -/
  | answer (code : CloseCode) (reason : String) (payload : Bytes)
  /-- The socket is over. -/
  | ended

/-- What a call is for the keepalive. -/
inductive Mark where
  | set (interval timeout : Nat)
  | removed
  | pong
  | ping
  | timedOut
  | nothing
  deriving DecidableEq, Repr

/-- Only what is not refused counts. -/
def Action.mark : Action ε → Outcome → Mark
  | .setAutoPing interval timeout, .done => .set interval timeout
  | .cancelAutoPing, _ | .close .., .done => .removed
  | _, _ => .nothing

def Tick.mark : Tick → Mark
  | .idle => .nothing
  | .ping => .ping
  | .timedOut => .timedOut

/-- Calls or marks with their times, the latest first. -/
abbrev Log (α : Type) := List (Nat × α)

namespace Socket

/-- The socket after a call at a time. -/
def meet (s : Socket ε) (now : Nat) : Call ε → Socket ε
  | .act action => ({ s with now }.perform action).2
  | .pong => { s with now }.pongReceived
  | .tick => (s.tick now).2
  | .answer code reason payload => s.echoClose code reason payload
  | .ended => s.takeNotice.2

def mark (s : Socket ε) (now : Nat) : Call ε → Mark
  | .act action => action.mark ({ s with now }.perform action).1
  | .pong => .pong
  | .tick => (s.tick now).1.mark
  | .answer .. | .ended => .removed

def after (s : Socket ε) : Log (Call ε) → Socket ε
  | [] => s
  | (now, call) :: earlier => (s.after earlier).meet now call

def log (s : Socket ε) : Log (Call ε) → Log Mark
  | [] => []
  | (now, call) :: earlier => (now, (s.after earlier).mark now call) :: s.log earlier

end Socket

namespace Log

/-- The keepalive that is installed: since when, its interval and its timeout. -/
def installed? : Log Mark → Option (Nat × Nat × Nat)
  | [] => none
  | (since, .set interval timeout) :: _ => some (since, interval, timeout)
  | (_, .removed) :: _ => none
  | (_, .pong) :: earlier | (_, .ping) :: earlier | (_, .timedOut) :: earlier
  | (_, .nothing) :: earlier => installed? earlier

/-- When the installed keepalive sent its last ping, if no pong came since then. -/
def unanswered? : Log Mark → Option Nat
  | [] => none
  | (sent, .ping) :: _ => some sent
  | (_, .set ..) :: _ | (_, .removed) :: _ | (_, .pong) :: _ => none
  | (_, .timedOut) :: earlier | (_, .nothing) :: earlier => unanswered? earlier

/-- When the installed keepalive sent its last ping, or, before the first, when it was set. -/
def latest? : Log Mark → Option Nat
  | [] => none
  | (last, .set ..) :: _ | (last, .ping) :: _ => some last
  | (_, .removed) :: _ => none
  | (_, .pong) :: earlier | (_, .timedOut) :: earlier | (_, .nothing) :: earlier => latest? earlier

/-- The last ping is unanswered, and its time is over. -/
def Overdue (log : Log Mark) (now : Nat) : Prop :=
  ∃ since interval timeout sent, log.installed? = some (since, interval, timeout) ∧
    log.unanswered? = some sent ∧ sent + timeout ≤ now

/-- An interval is over since the last ping, or since the keepalive was set. -/
def PingDue (log : Log Mark) (now : Nat) : Prop :=
  ∃ since interval timeout last, log.installed? = some (since, interval, timeout) ∧
    log.latest? = some last ∧ last + interval ≤ now

/-- Every ping whose time is over by the end of the log was followed by a pong in time. -/
def Answered (log : Log Mark) : Prop :=
  ∀ later sent earlier since interval timeout, log = later ++ (sent, .ping) :: earlier →
    installed? earlier = some (since, interval, timeout) →
    (∃ entry ∈ later, sent + timeout ≤ entry.1) →
    ∃ came, (came, .pong) ∈ later ∧ came < sent + timeout

/-- Time does not go backwards. -/
def InOrder {α : Type} (log : Log α) : Prop :=
  log.Pairwise fun later earlier => earlier.1 ≤ later.1

/-- Behind a ping that is unanswered there is no pong. -/
theorem exists_of_unanswered {log : Log Mark} {sent : Nat} (h : unanswered? log = some sent) :
    ∃ later earlier, log = later ++ (sent, .ping) :: earlier ∧
      (∀ came, (came, Mark.pong) ∉ later) ∧ installed? earlier = installed? log := by
  induction log with
  | nil => cases h
  | cons entry log ih =>
    obtain ⟨now, mark⟩ := entry
    have further (h : unanswered? log = some sent) (other : mark ≠ .pong)
        (same : installed? ((now, mark) :: log) = installed? log) :
        ∃ later earlier, (now, mark) :: log = later ++ (sent, .ping) :: earlier ∧
          (∀ came, (came, Mark.pong) ∉ later) ∧
          installed? earlier = installed? ((now, mark) :: log) := by
      obtain ⟨later, earlier, split, silent, installed⟩ := ih h
      refine ⟨(now, mark) :: later, earlier, by rw [split, List.cons_append], ?_,
        installed.trans same.symm⟩
      intro came member
      rcases List.mem_cons.1 member with first | member
      · exact other (Prod.mk.inj first).2.symm
      · exact silent came member
    cases mark with
    | set | removed | pong => cases h
    | ping =>
      obtain rfl := Option.some.inj h
      exact ⟨[], log, rfl, fun _ member => List.not_mem_nil member, rfl⟩
    | timedOut => exact further h nofun rfl
    | nothing => exact further h nofun rfl

/-- Where every ping was answered in time, none is overdue at the next call. -/
theorem Answered.not_overdue {later : Log Mark} {now : Nat} {mark : Mark} {log : Log Mark}
    (answered : Answered (later ++ (now, mark) :: log)) (other : mark ≠ .pong)
    (onwards : ∀ entry ∈ later, now ≤ entry.1) : ¬ Overdue log now := by
  rintro ⟨since, interval, timeout, sent, installed, waits, late⟩
  obtain ⟨quiet, before, split, silent, same⟩ := exists_of_unanswered waits
  have whole : later ++ (now, mark) :: log =
      (later ++ (now, mark) :: quiet) ++ (sent, .ping) :: before := by
    rw [split, List.append_assoc, List.cons_append]
  have expired : ∃ entry ∈ later ++ (now, mark) :: quiet, sent + timeout ≤ entry.1 := by
    refine ⟨(now, mark), ?_, late⟩
    simp only [List.mem_append, List.mem_cons, true_or, or_true]
  obtain ⟨came, member, inTime⟩ :=
    answered _ sent before since interval timeout whole (same.trans installed) expired
  rcases List.mem_append.1 member with after | within
  · have := onwards _ after
    simp only at this
    omega
  · rcases List.mem_cons.1 within with here | before
    · exact other (Prod.mk.inj here).2.symm
    · exact silent came before

end Log

namespace Socket

variable (s : Socket ε)

theorem after_append (later earlier : Log (Call ε)) :
    s.after (later ++ earlier) = (s.after earlier).after later := by
  induction later with
  | nil => rfl
  | cons entry later ih => simp only [List.cons_append, after, ih]

theorem log_append (later earlier : Log (Call ε)) :
    s.log (later ++ earlier) = (s.after earlier).log later ++ s.log earlier := by
  induction later with
  | nil => rfl
  | cons entry later ih => simp only [List.cons_append, log, ih, after_append]

/-- Every entry of a log belongs to a call at its time. -/
theorem exists_call_of_mem_log {calls : Log (Call ε)} {now : Nat} {mark : Mark}
    (member : (now, mark) ∈ s.log calls) : ∃ call, (now, call) ∈ calls := by
  induction calls with
  | nil => cases member
  | cons entry earlier ih =>
    rcases List.mem_cons.1 member with here | before
    · obtain ⟨rfl, -⟩ := Prod.mk.inj here
      exact ⟨entry.2, List.mem_cons_self⟩
    · obtain ⟨call, known⟩ := ih before
      exact ⟨call, List.mem_cons_of_mem _ known⟩

end Socket

/-- A keepalive is what the log says of it. -/
structure Keepalive.Recalls (k : Keepalive) (log : Log Mark) : Prop where
  installed : ∃ since, log.installed? = some (since, k.interval, k.timeout)
  due : k.pongDeadline = log.unanswered?.map (· + k.timeout)
  next : ∃ last, log.latest? = some last ∧ k.nextPing = last + k.interval

/-- The keepalive of a socket is the one that the log tells of. -/
structure Socket.Recalls (s : Socket ε) (log : Log Mark) : Prop where
  closed : s.session.closing = true → s.session.keepalive = none
  unarmed : s.session.keepalive = none → log.installed? = none
  armed : ∀ k, s.session.keepalive = some k → k.Recalls log

namespace Keepalive.Recalls

variable {k : Keepalive} {log : Log Mark} {now : Nat}

theorem start (now interval timeout : Nat) (log : Log Mark) :
    (Keepalive.start now interval timeout).Recalls ((now, .set interval timeout) :: log) :=
  ⟨⟨now, rfl⟩, rfl, now, rfl, rfl⟩

theorem pinged (h : k.Recalls log) (now : Nat) : (k.pinged now).Recalls ((now, .ping) :: log) :=
  ⟨h.installed, rfl, now, rfl, rfl⟩

theorem pongReceived (h : k.Recalls log) (now : Nat) :
    (k.pongReceived now).Recalls ((now, .pong) :: log) :=
  ⟨h.installed, rfl, h.next⟩

theorem overdue_iff (h : k.Recalls log) :
    log.Overdue now ↔ ∃ due, k.pongDeadline = some due ∧ due ≤ now := by
  obtain ⟨since, installed⟩ := h.installed
  constructor
  · rintro ⟨since', interval, timeout, sent, installed', waits, late⟩
    cases installed.symm.trans installed'
    exact ⟨sent + k.timeout, by rw [h.due, waits, Option.map_some], late⟩
  · rintro ⟨due, known, late⟩
    obtain ⟨sent, waits, rfl⟩ := Option.map_eq_some_iff.1 (h.due.symm.trans known)
    exact ⟨since, k.interval, k.timeout, sent, installed, waits, late⟩

theorem pingDue_iff (h : k.Recalls log) : log.PingDue now ↔ k.nextPing ≤ now := by
  obtain ⟨since, installed⟩ := h.installed
  obtain ⟨last, latest, next⟩ := h.next
  constructor
  · rintro ⟨since', interval, timeout, last', installed', latest', time⟩
    cases installed.symm.trans installed'
    cases latest.symm.trans latest'
    rw [next]
    exact time
  · intro time
    exact ⟨since, k.interval, k.timeout, last, installed, latest, next ▸ time⟩

/-- What the timer asks for is what the log says is due. -/
theorem tick_iff (h : k.Recalls log) :
    ((k.tick now).1 = .timedOut ↔ log.Overdue now) ∧
      ((k.tick now).1 = .ping ↔ log.PingDue now ∧ ¬ log.Overdue now) := by
  rw [h.overdue_iff, h.pingDue_iff]
  rcases k.tick_cases now with ⟨due, known, late, tick⟩ | ⟨notYet, ⟨time, tick⟩ | ⟨early, tick⟩⟩
  · have overdue : ∃ due, k.pongDeadline = some due ∧ due ≤ now := ⟨due, known, late⟩
    simp only [tick, overdue, not_true_eq_false, and_false, reduceCtorEq, iff_self, and_self]
  · have waits : ¬ ∃ due, k.pongDeadline = some due ∧ due ≤ now := by
      rintro ⟨due, known, late⟩
      have := notYet due known
      omega
    simp only [tick, waits, time, reduceCtorEq, not_false_eq_true, and_self, iff_self]
  · have waits : ¬ ∃ due, k.pongDeadline = some due ∧ due ≤ now := by
      rintro ⟨due, known, late⟩
      have := notYet due known
      omega
    have idle : ¬ k.nextPing ≤ now := Nat.not_le.2 early
    simp only [tick, waits, idle, reduceCtorEq, false_and, and_self, iff_self]

/-- The timer leaves the keepalive as the log tells it then. -/
theorem tick (h : k.Recalls log) (now : Nat) :
    (k.tick now).2.Recalls ((now, (k.tick now).1.mark) :: log) := by
  rcases k.tick_cases now with ⟨due, known, late, tick⟩ | ⟨notYet, ⟨time, tick⟩ | ⟨early, tick⟩⟩
  · rw [tick]
    exact ⟨h.installed, h.due, h.next⟩
  · rw [tick]
    exact h.pinged now
  · rw [tick]
    exact ⟨h.installed, h.due, h.next⟩

end Keepalive.Recalls

namespace Socket.Recalls

variable {s s' : Socket ε} {log : Log Mark}

/-- Nothing is left of the keepalive. -/
theorem removed (gone : s'.session.keepalive = none) (log : Log Mark) (now : Nat) :
    s'.Recalls ((now, .removed) :: log) := by
  refine ⟨fun _ => gone, fun _ => rfl, fun k armed => ?_⟩
  rw [gone] at armed
  cases armed

theorem nothing (h : s.Recalls log) (same : s'.session = s.session) (now : Nat) :
    s'.Recalls ((now, .nothing) :: log) := by
  refine ⟨?_, ?_, ?_⟩
  · rw [same]
    exact h.closed
  · rw [same]
    exact h.unarmed
  · intro k armed
    rw [same] at armed
    have recalls := h.armed k armed
    exact ⟨recalls.installed, recalls.due, recalls.next⟩

theorem act (h : s.Recalls log) (now : Nat) (action : Action ε) :
    (s.meet now (.act action)).Recalls ((now, s.mark now (.act action)) :: log) := by
  have refused : ({ s with now } : Socket ε).Recalls ((now, .nothing) :: log) := by
    apply h.nothing
    rfl
  cases action with
  | setAutoPing interval timeout =>
    simp only [meet, mark, perform, setAutoPing]
    by_cases zero : interval = 0
    · rw [if_pos zero]
      exact refused
    · rw [if_neg zero]
      by_cases closing : s.session.closing = true
      · rw [if_pos closing]
        exact refused
      · rw [if_neg closing]
        refine ⟨fun closed => absurd closed closing, fun unarmed => ?_, fun k armed => ?_⟩
        · cases unarmed
        · cases armed
          exact .start now interval timeout log
  | cancelAutoPing => exact removed rfl log now
  | close code reason =>
    simp only [meet, mark, perform, close]
    by_cases long : reasonLimit < reason.utf8ByteSize
    · rw [if_pos long]
      exact refused
    · rw [if_neg long]
      by_cases closing : s.session.closing = true
      · rw [if_pos closing]
        have recalls : ({ s with now } : Socket ε).Recalls ((now, .removed) :: log) := by
          apply removed
          exact h.closed closing
        exact recalls
      · rw [if_neg closing]
        exact removed rfl log now
  | send frame after =>
    have steady : (Action.send frame after).Steady := trivial
    exact h.nothing (session_of_steady { s with now } steady rfl) now
  | write | closeConnection | isOpen | stats =>
    apply h.nothing
    rfl

/-- A call leaves the keepalive as the log tells it then. -/
theorem meet (h : s.Recalls log) (now : Nat) (call : Call ε) :
    (s.meet now call).Recalls ((now, s.mark now call) :: log) := by
  cases call with
  | act action => exact h.act now action
  | pong =>
    refine ⟨fun closing => ?_, fun unarmed => ?_, fun k armed => ?_⟩
    · exact Option.map_eq_none_iff.2 (h.closed closing)
    · exact h.unarmed (Option.map_eq_none_iff.1 unarmed)
    · obtain ⟨before, was, rfl⟩ := Option.map_eq_some_iff.1 armed
      exact (h.armed before was).pongReceived now
  | tick =>
    cases armed : s.session.keepalive with
    | none =>
      have idle : s.tick now = (.idle, s) := by
        unfold tick
        rw [armed]
      simp only [Socket.meet, Socket.mark, idle]
      exact h.nothing rfl now
    | some k =>
      have asks : s.tick now = ((k.tick now).1,
          { s with session := { s.session with keepalive := some (k.tick now).2 } }) := by
        unfold tick
        rw [armed]
      simp only [Socket.meet, Socket.mark, asks]
      refine ⟨fun closing => ?_, nofun, ?_⟩
      · have gone := h.closed closing
        rw [armed] at gone
        cases gone
      · rintro k' ⟨⟩
        exact (h.armed k armed).tick now
  | answer code reason payload =>
    refine removed ?_ log now
    simp only [Socket.meet, echoClose]
    by_cases closing : s.session.closing = true
    · rw [if_pos closing]
      exact h.closed closing
    · rw [if_neg closing]
      rfl
  | ended => exact removed rfl log now

/-- After any calls the log tells of the keepalive. -/
theorem after (unarmed : s.session.keepalive = none) (calls : Log (Call ε)) :
    (s.after calls).Recalls (s.log calls) := by
  induction calls with
  | nil =>
    refine ⟨fun _ => unarmed, fun _ => rfl, fun k armed => ?_⟩
    change s.session.keepalive = some k at armed
    rw [unarmed] at armed
    cases armed
  | cons entry earlier ih => exact ih.meet entry.1 entry.2

/-- What the timer asks for is what the log says is due. -/
theorem tick_iff (h : s.Recalls log) (now : Nat) :
    ((s.tick now).1 = .timedOut ↔ log.Overdue now) ∧
      ((s.tick now).1 = .ping ↔ log.PingDue now ∧ ¬ log.Overdue now) := by
  cases armed : s.session.keepalive with
  | none =>
    have idle : (s.tick now).1 = .idle := by
      unfold tick
      rw [armed]
    have gone := h.unarmed armed
    have notDue : ¬ log.PingDue now := by
      rintro ⟨since, interval, timeout, last, installed, -⟩
      cases gone.symm.trans installed
    have notOver : ¬ log.Overdue now := by
      rintro ⟨since, interval, timeout, sent, installed, -⟩
      cases gone.symm.trans installed
    simp only [idle, notDue, notOver, reduceCtorEq, false_and, and_self, iff_self]
  | some k =>
    have asks : (s.tick now).1 = (k.tick now).1 := by
      unfold tick
      rw [armed]
    rw [asks]
    exact (h.armed k armed).tick_iff

end Socket.Recalls

/-- Only a timer that gives up closes a socket. -/
theorem Conversation.open_of_onTimer (react : React ε σ) {c : Conversation ε σ} {now : Nat}
    (opened : c.socket.session.closing = false) (hopes : (c.socket.tick now).1 ≠ .timedOut) :
    (c.onTimer react now).socket.session.closing = false := by
  have ticked : (c.socket.tick now).2.session.closing = false :=
    (c.socket.closing_tick now).trans opened
  unfold onTimer
  generalize c.socket.tick now = asked at hopes ticked
  obtain ⟨tick, socket⟩ := asked
  cases tick with
  | timedOut => exact absurd rfl hopes
  | idle =>
    simp only
    rw [settle_of_open ticked]
    exact ticked
  | ping =>
    have pinged : (socket.perform (.ping [])).2.session.closing = false :=
      (socket.session_perform rfl).1.trans ticked
    simp only
    rw [settle_of_open pinged]
    exact pinged

/-- Whatever is called on a socket that had no keepalive: the timer gives up at a time exactly if
the keepalive that is installed then sent its last ping at least its timeout before and no pong came
since. It pings exactly if otherwise at least the interval is over since the last ping of that
keepalive, or, for its first ping, since it was set. So if time goes on and every ping is answered
before its timeout is over, then the timer never gives up, and closes no conversation. -/
theorem pings_on_time {s : Socket ε} (unarmed : s.session.keepalive = none)
    (calls : Log (Call ε)) :
    (∀ now, (((s.after calls).tick now).1 = .timedOut ↔ (s.log calls).Overdue now) ∧
      (((s.after calls).tick now).1 = .ping ↔
        (s.log calls).PingDue now ∧ ¬ (s.log calls).Overdue now)) ∧
    (calls.InOrder → (s.log calls).Answered →
      ∀ later now earlier, calls = later ++ (now, .tick) :: earlier →
        ((s.after earlier).tick now).1 ≠ .timedOut ∧
        ∀ (react : React ε σ) (c : Conversation ε σ),
          c.socket.session = (s.after earlier).session → c.socket.session.closing = false →
          (c.onTimer react now).socket.session.closing = false) := by
  constructor
  · intro now
    exact (Socket.Recalls.after unarmed calls).tick_iff now
  · rintro ordered answered later now earlier rfl
    have recalls := Socket.Recalls.after unarmed earlier
    have onwards : ∀ entry ∈ ((s.after earlier).meet now .tick).log later, now ≤ entry.1 := by
      intro entry member
      obtain ⟨call, made⟩ := Socket.exists_call_of_mem_log _ member
      have apart := (List.pairwise_append.1 ordered).2.2
      exact apart _ made _ List.mem_cons_self
    have other : ((s.after earlier).tick now).1.mark ≠ .pong := by
      cases ((s.after earlier).tick now).1 <;> decide
    rw [s.log_append] at answered
    have notOver := answered.not_overdue other onwards
    have hopes : ((s.after earlier).tick now).1 ≠ .timedOut := by
      intro gaveUp
      exact notOver ((recalls.tick_iff now).1.1 gaveUp)
    refine ⟨hopes, fun react c same opened => c.open_of_onTimer react opened ?_⟩
    have asks : (c.socket.tick now).1 = ((s.after earlier).tick now).1 := by
      unfold Socket.tick
      rw [same]
      cases (s.after earlier).session.keepalive <;> rfl
    rw [asks]
    exact hopes

/-- A ping at 3 is answered at 4, so the timer does not give up at 5. -/
theorem answered_ping_keeps_open :
    let s : Socket Unit := { channel := {} }
    let earlier : Log (Call Unit) := [(4, .pong), (3, .tick), (0, .act (.setAutoPing 3 2))]
    let calls : Log (Call Unit) := (5, .tick) :: earlier
    s.session.keepalive = none ∧ calls.InOrder ∧ (s.log calls).Answered ∧
      s.log calls = [(5, .nothing), (4, .pong), (3, .ping), (0, .set 3 2)] ∧
      ((s.after earlier).tick 5).1 ≠ .timedOut := by
  intro s earlier calls
  have log : s.log calls = [(5, .nothing), (4, .pong), (3, .ping), (0, .set 3 2)] := by decide
  have ordered : calls.InOrder := by
    simp [Log.InOrder, calls, earlier]
  have answered : (s.log calls).Answered := by
    rw [log]
    intro later sent before since interval timeout split installed expired
    rcases later with _ | ⟨_, _ | ⟨_, _ | ⟨_, _ | ⟨_, later⟩⟩⟩⟩ <;> simp at split
    obtain ⟨rfl, rfl, rfl, rfl⟩ := split
    cases installed
    exact ⟨4, List.mem_cons_of_mem _ List.mem_cons_self, by decide⟩
  exact ⟨rfl, ordered, answered, log,
    ((pings_on_time (σ := Unit) rfl calls).2 ordered answered [] 5 earlier rfl).1⟩

end WebServer.WebSocket

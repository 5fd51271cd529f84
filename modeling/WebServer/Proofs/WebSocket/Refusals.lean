import WebServer.Proofs.Connection.Regime
import WebServer.Proofs.Stream.Calm
import WebServer.Proofs.WebSocket.Outgoing

/-!
# Refused calls

A frame, a close or a keepalive may be refused. If the steps of such a call are taken one by one,
no check comes behind a change, so a refused call leaves the socket as it was: its session, its
queue, its wire and all completions that wait there. Hence it does not matter to a socket whether a
handler or an application makes the calls that are refused, and what was to run after a frame that
is refused never runs (`refusals_change_nothing`).
-/
namespace WebServer
namespace WebSocket

variable {ε σ : Type}

/-- A step of a call. -/
inductive Step (ε : Type) where
  /-- Refuses the call in some sessions. -/
  | refuse (when : Session → Bool) (fault : Misuse)
  /-- Ends the call in some sessions, with nothing left to do. -/
  | leave (when : Session → Bool)
  | change (effect : Socket ε → Socket ε)

namespace Step

/-- Takes steps one by one. What was changed before the call is refused stays changed. -/
def runAll (s : Socket ε) : List (Step ε) → Outcome × Socket ε
  | [] => (.done, s)
  | .refuse when fault :: steps =>
    if when s.session then (.refused fault, s) else runAll s steps
  | .leave when :: steps => if when s.session then (.done, s) else runAll s steps
  | .change effect :: steps => runAll (effect s) steps

/-- No check comes behind a change. -/
def Ordered : List (Step ε) → Prop
  | [] => True
  | .refuse .. :: steps | .leave _ :: steps => Ordered steps
  | .change _ :: steps => ∀ step ∈ steps, ∃ effect, step = .change effect

variable {steps : List (Step ε)} {s : Socket ε} {fault : Misuse}

/-- Changes alone are not refused. -/
theorem runAll_changes (changes : ∀ step ∈ steps, ∃ effect, step = .change effect) (s : Socket ε) :
    (runAll s steps).1 = .done := by
  induction steps generalizing s with
  | nil => rfl
  | cons step steps ih =>
    obtain ⟨⟨effect, rfl⟩, others⟩ := List.forall_mem_cons.1 changes
    exact ih others (effect s)

/-- Steps in that order change nothing if one of them refuses the call. -/
theorem runAll_of_refused (ordered : Ordered steps)
    (refused : (runAll s steps).1 = .refused fault) : (runAll s steps).2 = s := by
  induction steps with
  | nil => rfl
  | cons step steps ih =>
    cases step with
    | refuse when fault =>
      rw [runAll] at refused ⊢
      split
      · rfl
      · rename_i passed
        rw [if_neg passed] at refused
        exact ih ordered refused
    | leave when =>
      rw [runAll] at refused ⊢
      split
      · rfl
      · rename_i passed
        rw [if_neg passed] at refused
        exact ih ordered refused
    | change effect =>
      rw [runAll, runAll_changes ordered] at refused
      cases refused

end Step

namespace Action

/-- The steps of a call that may be refused. -/
def steps? : Action ε → Option (List (Step ε))
  | .send frame after => some
    [.refuse (fun _ => frame.opcode.isControl && controlLimit < frame.payload.length)
        (.payloadTooLong frame.payload.length),
      .refuse (·.closing) .closed,
      .change fun s => s.handOver frame after]
  | .close code reason => some
    [.refuse (fun _ => reasonLimit < reason.utf8ByteSize) (.reasonTooLong reason.utf8ByteSize),
      .leave (·.closing),
      .change fun s => { s with session.closing := true },
      .change fun s => { s with session.keepalive := none },
      .change fun s => { s with session.notice := some (code, reason) },
      .change fun s => s.record (.closing .here code reason),
      .change fun s => s.handOver ⟨true, .close, code.payload reason⟩ (.close .done)]
  | .setAutoPing interval timeout => some
    [.refuse (fun _ => interval = 0) .zeroInterval,
      .refuse (·.closing) .closed,
      .change fun s =>
        { s with session.keepalive := some (Keepalive.start s.now interval timeout) }]
  | .cancelAutoPing | .write .. | .closeConnection | .isOpen | .stats => none

/-- Why a call is refused by a socket that is closing or not. -/
inductive Refused (closing : Bool) : Action ε → Misuse → Prop
  | payload {frame : Frame} {after : Completion ε} (long : ¬ frame.Short) :
    Refused closing (.send frame after) (.payloadTooLong frame.payload.length)
  | frame {frame : Frame} {after : Completion ε} (short : frame.Short) (parting : closing = true) :
    Refused closing (.send frame after) .closed
  | reason {code : CloseCode} {reason : String} (long : reasonLimit < reason.utf8ByteSize) :
    Refused closing (.close code reason) (.reasonTooLong reason.utf8ByteSize)
  | interval {timeout : Nat} : Refused closing (.setAutoPing 0 timeout) .zeroInterval
  | keepalive {interval timeout : Nat} (positive : 0 < interval) (parting : closing = true) :
    Refused closing (.setAutoPing interval timeout) .closed

/-- What a call does to a socket that does not refuse it. -/
inductive Done (s : Socket ε) : Action ε → Socket ε → Prop
  /-- One frame is handed over, if the connection is still open. -/
  | send {frame : Frame} {after : Completion ε} {s' : Socket ε}
    (handedOver : s.channel.isOpen = true → s.HandedOver frame s')
    (session : s'.session = s.session) (now : s'.now = s.now) : Done s (.send frame after) s'
  /-- So is the close frame, the first time; the keepalive ends and the notice is left. -/
  | close {code : CloseCode} {reason : String} {s' : Socket ε} (opened : s.session.closing = false)
    (handedOver : s.channel.isOpen = true →
      s.HandedOver ⟨true, .close, code.payload reason⟩ s')
    (session : s'.session = { closing := true, notice := some (code, reason) })
    (now : s'.now = s.now) : Done s (.close code reason) s'
  | closeAgain {code : CloseCode} {reason : String} (parting : s.session.closing = true) :
    Done s (.close code reason) s
  | setAutoPing {interval timeout : Nat} :
    Done s (.setAutoPing interval timeout)
      { s with session.keepalive := some (Keepalive.start s.now interval timeout) }

end Action

section Calls

variable {s : Socket ε} {action : Action ε} {steps : List (Step ε)} {fault : Misuse}

/-- Step by step, a call comes out the same and leaves the same socket behind. -/
theorem Socket.perform_steps (calls : action.steps? = some steps) (s : Socket ε) :
    s.perform action = Step.runAll s steps := by
  cases action with
  | send frame after =>
    obtain rfl := Option.some.inj calls
    simp only [perform, send, Step.runAll]
    split
    · rfl
    · split <;> rfl
  | close code reason =>
    obtain rfl := Option.some.inj calls
    simp only [perform, close, Step.runAll, decide_eq_true_iff]
    split
    · rfl
    · split <;> rfl
  | setAutoPing interval timeout =>
    obtain rfl := Option.some.inj calls
    simp only [perform, setAutoPing, Step.runAll, decide_eq_true_iff]
    split
    · rfl
    · split <;> rfl
  | cancelAutoPing | write | closeConnection | isOpen | stats => cases calls

theorem Action.steps_ordered (calls : action.steps? = some steps) : Step.Ordered steps := by
  cases action with
  | send | close | setAutoPing =>
    obtain rfl := Option.some.inj calls
    simp [Step.Ordered]
  | cancelAutoPing | write | closeConnection | isOpen | stats => cases calls

/-- Only a call that has steps is refused. -/
theorem Socket.steps_of_refused (refused : (s.perform action).1 = .refused fault) :
    ∃ steps, action.steps? = some steps := by
  cases action with
  | send | close | setAutoPing => exact ⟨_, rfl⟩
  | cancelAutoPing | write | closeConnection | isOpen | stats => cases refused

/-- What is refused changes nothing. -/
theorem Socket.perform_of_refused (refused : (s.perform action).1 = .refused fault) :
    (s.perform action).2 = s := by
  obtain ⟨steps, calls⟩ := steps_of_refused refused
  rw [s.perform_steps calls] at refused ⊢
  exact Step.runAll_of_refused (Action.steps_ordered calls) refused

/-- A call comes out in one of two ways: it is refused for a reason that there is, or it is done. -/
theorem Socket.perform_judged (calls : action.steps? = some steps) (s : Socket ε) :
    (∃ fault, action.Refused s.session.closing fault ∧ s.perform action = (.refused fault, s)) ∨
      (∀ fault, ¬ action.Refused s.session.closing fault) ∧ (s.perform action).1 = .done ∧
        action.Done s (s.perform action).2 := by
  cases action with
  | send frame after =>
    by_cases short : frame.Short
    · have fits := Frame.short_iff.1 short
      cases parting : s.session.closing with
      | true =>
        exact .inl ⟨.closed, .frame short rfl, by simp [perform, send, fits, parting, attempt]⟩
      | false =>
        have sent : s.perform (.send frame after) = (.done, s.handOver frame after) := by
          simp [perform, send, fits, parting, attempt]
        rw [sent]
        refine .inr ⟨fun fault refused => ?_, rfl,
          .send (fun opened => handedOver_handOver opened frame after) rfl rfl⟩
        cases refused with
        | payload long => exact long short
        | frame _ parting => cases parting
    · have long : (frame.opcode.isControl && controlLimit < frame.payload.length) = true :=
        not_not.1 (mt Frame.short_iff.2 short)
      exact .inl ⟨_, .payload short, by simp only [perform, send, if_pos long, attempt]⟩
  | close code reason =>
    by_cases long : reasonLimit < reason.utf8ByteSize
    · exact .inl ⟨_, .reason long, by simp only [perform, close, if_pos long, attempt]⟩
    · refine .inr ⟨fun fault refused => ?_, ?_⟩
      · cases refused with
        | reason tooLong => exact long tooLong
      · cases parting : s.session.closing with
        | true =>
          have same : s.perform (.close code reason) = (.done, s) := by
            simp [perform, close, long, parting, attempt]
          rw [same]
          exact ⟨rfl, .closeAgain parting⟩
        | false =>
          have closed : s.perform (.close code reason) =
              (.done, s.beginClosing .here code reason (code.payload reason)) := by
            simp [perform, close, long, parting, attempt]
          rw [closed]
          exact ⟨rfl, .close parting
            (fun opened => handedOver_beginClosing opened .here code reason _) rfl rfl⟩
  | setAutoPing interval timeout =>
    by_cases zero : interval = 0
    · subst zero
      exact .inl ⟨_, .interval, rfl⟩
    · cases parting : s.session.closing with
      | true =>
        exact .inl ⟨_, .keepalive (Nat.pos_of_ne_zero zero) rfl,
          by simp [perform, setAutoPing, zero, parting, attempt]⟩
      | false =>
        have set : s.perform (.setAutoPing interval timeout) = (.done, { s with
            session.keepalive := some (Keepalive.start s.now interval timeout) }) := by
          simp [perform, setAutoPing, zero, parting, attempt]
        rw [set]
        refine .inr ⟨fun fault refused => ?_, rfl, .setAutoPing⟩
        cases refused with
        | interval => exact zero rfl
        | keepalive _ parting => cases parting
  | cancelAutoPing | write | closeConnection | isOpen | stats => cases calls

end Calls

/-- Whether something was refused. -/
def Outcome.isRefused : Outcome → Bool
  | .refused _ => true
  | .done | .isOpen _ | .stats _ => false

theorem Socket.perform_of_isRefused {s : Socket ε} {action : Action ε}
    (refused : (s.perform action).1.isRefused = true) : (s.perform action).2 = s := by
  cases outcome : (s.perform action).1 with
  | refused fault => exact perform_of_refused outcome
  | done | isOpen | stats =>
    rw [outcome] at refused
    cases refused

namespace Script

/-- The calls that a script makes, and how they come out. -/
def calls (s : Socket ε) : Script ε σ → List (Action ε × Outcome)
  | .done _ | .panic _ => []
  | .note event next => calls (s.note event) next
  | .act action next =>
    (action, (s.perform action).1) :: calls (s.perform action).2 (next (s.perform action).1)

/-- The script without the calls that are refused. It goes on as it would behind them. -/
def heeded (s : Socket ε) : Script ε σ → Script ε σ
  | .done state => .done state
  | .panic state => .panic state
  | .note event next => .note event (heeded (s.note event) next)
  | .act action next =>
    if (s.perform action).1.isRefused then heeded s (next (s.perform action).1)
    else .act action fun outcome => heeded (s.perform action).2 (next outcome)

/-- It makes all other calls in the same order, and they come out the same. -/
theorem calls_heeded (s : Socket ε) (script : Script ε σ) :
    (script.heeded s).calls s = (script.calls s).filter (!·.2.isRefused) := by
  induction script generalizing s with
  | done | panic => rfl
  | note event next ih => exact ih (s.note event)
  | act action next ih =>
    rw [heeded, calls]
    by_cases refused : (s.perform action).1.isRefused = true
    · rw [if_pos refused, Socket.perform_of_isRefused refused,
        List.filter_cons_of_neg (by simp [refused])]
      exact ih _ s
    · rw [if_neg refused, List.filter_cons_of_pos (by simp [refused]), calls, ih]

/-- It ends in the same way and leaves the same socket behind. -/
theorem run_heeded (s : Socket ε) (script : Script ε σ) :
    (script.heeded s).run s = script.run s := by
  induction script generalizing s with
  | done | panic => rfl
  | note event next ih => exact ih (s.note event)
  | act action next ih =>
    rw [heeded]
    by_cases refused : (s.perform action).1.isRefused = true
    · rw [if_pos refused, ih _ s, run]
      simp only [Socket.perform_of_isRefused refused]
    · rw [if_neg refused, run, run]
      exact ih _ _

end Script
end WebSocket

variable {app : App}

/-- The WebSocket of a connection refuses an action. -/
def Active.refuses (active : Active app.Handler) (action : WebSocket.Action app.Event)
    (host : Host app) : Bool :=
  match active with
  | .http _ => false
  | .webSocket conversation =>
    ((conversation.resume host.channel host.now).socket.perform action).1.isRefused

theorem Active.act_of_refuses {active : Active app.Handler} {action : WebSocket.Action app.Event}
    {host : Host app} (refused : active.refuses action host = true) :
    active.act action host = (active, host) := by
  cases active with
  | http pending => rfl
  | webSocket conversation =>
    have same := WebSocket.Socket.perform_of_isRefused refused
    simp only [act, resume, same]
    rfl

namespace Connection

variable {config : Config} {c : Connection app (Active app.Handler)}
  {incidents : List (Incident app)}

/-- An incident is a call that the WebSocket refuses. -/
def refuses (c : Connection app (Active app.Handler)) : Incident app → Bool
  | .act action => c.protocol.refuses action c.host
  | _ => false

theorem meet_of_refuses {incident : Incident app} (refused : c.refuses incident = true) :
    c.meet config incident = c := by
  cases incident with
  | act action =>
    have same : c.protocol.act action c.host = (c.protocol, c.host) :=
      Active.act_of_refuses refused
    simp only [meet, same]
  | ready | timer | hangUp | drained | wire | source | clock | tables | work => cases refused

/-- What happens to a connection, without the calls that its WebSocket refuses. -/
def heeded (config : Config) (c : Connection app (Active app.Handler)) :
    List (Incident app) → List (Incident app)
  | [] => []
  | incident :: incidents =>
    if c.refuses incident then heeded config c incidents
    else incident :: heeded config (c.meet config incident) incidents

theorem heeded_sublist : (c.heeded config incidents).Sublist incidents := by
  induction incidents generalizing c with
  | nil => exact .slnil
  | cons incident incidents ih =>
    rw [heeded]
    split
    · exact ih.cons incident
    · exact ih.cons_cons incident

theorem meetAll_heeded :
    c.meetAll config (c.heeded config incidents) = c.meetAll config incidents := by
  induction incidents generalizing c with
  | nil => rfl
  | cons incident incidents ih =>
    have first : c.meetAll config (incident :: incidents) =
        (c.meet config incident).meetAll config incidents := rfl
    rw [heeded, first]
    split
    · rename_i refused
      rw [meet_of_refuses refused]
      exact ih
    · exact ih

/-- None of the calls that are left is refused. -/
theorem refuses_of_heeded {before after : List (Incident app)} {incident : Incident app}
    (left : c.heeded config incidents = before ++ incident :: after) :
    (c.meetAll config before).refuses incident = false := by
  induction incidents generalizing c before with
  | nil => simp [heeded] at left
  | cons first incidents ih =>
    rw [heeded] at left
    split at left
    · exact ih left
    · rename_i kept
      cases before with
      | nil =>
        obtain rfl := (List.cons.inj left).1
        exact Bool.eq_false_iff.2 kept
      | cons second before =>
        obtain ⟨rfl, others⟩ := List.cons.inj left
        change ((c.meet config first).meetAll config before).refuses incident = false
        exact ih others

end Connection

open WebSocket (Action Keepalive Script Socket Step)

/-- Whatever state a socket is in, a frame, a close or a keepalive that it is asked for is refused
exactly if there is a reason, and then nothing at all is changed, although the steps of the call are
taken one by one; otherwise it is done, and just what was asked for: one frame is handed over, the
closing begins with one, or the keepalive is another. A close again does nothing. So a script of a
handler runs as if it did not make the calls that are refused, and a connection comes to the same
whether an application makes such calls or not. -/
theorem refusals_change_nothing {ε σ : Type} (s : Socket ε) (config : Config)
    (c : Connection app (Active app.Handler)) :
    (∀ (action : Action ε) steps, action.steps? = some steps →
      s.perform action = Step.runAll s steps ∧
        ((∃ fault, action.Refused s.session.closing fault ∧
            s.perform action = (.refused fault, s)) ∨
          (∀ fault, ¬ action.Refused s.session.closing fault) ∧ (s.perform action).1 = .done ∧
            action.Done s (s.perform action).2)) ∧
      (∀ (action : Action ε) fault, (s.perform action).1 = .refused fault →
        (s.perform action).2 = s) ∧
      (∀ script : Script ε σ, (script.heeded s).run s = script.run s ∧
        (script.heeded s).calls s = (script.calls s).filter (!·.2.isRefused)) ∧
      ∀ incidents, c.meetAll config (c.heeded config incidents) = c.meetAll config incidents ∧
        (c.heeded config incidents).Sublist incidents ∧
        ∀ before incident after, c.heeded config incidents = before ++ incident :: after →
          (c.meetAll config before).refuses incident = false :=
  ⟨fun _ _ calls => ⟨Socket.perform_steps calls s, Socket.perform_judged calls s⟩,
    fun _ _ => Socket.perform_of_refused,
    fun script => ⟨script.run_heeded s, script.calls_heeded s⟩,
    fun _ => ⟨Connection.meetAll_heeded, Connection.heeded_sublist,
      fun _ _ _ => Connection.refuses_of_heeded⟩⟩

/-- While a write waits and a pong is due, a ping and a reason are too long and a keepalive has no
interval. Of such calls and a text between them, only the text matters. -/
theorem refused_calls_left_out :
    let keepalive : Keepalive := { Keepalive.start 0 9 5 with pongDeadline := some 14 }
    let channel : Channel Unit := { queue := [⟨[0x81, 0x00], .note () .done⟩], unsent := 2 }
    let s : Socket Unit := { session := { keepalive := some keepalive }, channel }
    let ping : Action Unit := .send ⟨true, .ping, List.replicate 126 0⟩ (.note () .done)
    let close : Action Unit := .close .normal (String.ofList (List.replicate 124 'x'))
    let idle : Action Unit := .setAutoPing 0 5
    let c : Connection bareApp (Active Unit) := {
      host := { channel }
      protocol := .webSocket ⟨s.session, (), none, 9, false⟩
      chunk := 9 }
    s.perform ping = (.refused (.payloadTooLong 126), s) ∧
      s.perform close = (.refused (.reasonTooLong 124), s) ∧
      s.perform idle = (.refused .zeroInterval, s) ∧
      (Action.text "hi").Done s (s.perform (.text "hi")).2 ∧
      c.meetAll {} [.act ping, .act (.text "hi"), .act close, .act idle] =
        c.meetAll {} [.act (.text "hi")] := by
  intro keepalive channel s ping close idle c
  obtain ⟨calls, refused, -, together⟩ := @refusals_change_nothing bareApp Unit Unit s {} c
  have sent : (Action.text "hi").Done s (s.perform (.text "hi")).2 := by
    obtain ⟨-, ⟨fault, refuses, -⟩ | ⟨-, -, done⟩⟩ := calls (.text "hi") _ rfl
    · cases refuses with
      | payload long => exact absurd nofun long
      | frame _ parting => cases parting
    · exact done
  have left : c.heeded {} [.act ping, .act (.text "hi"), .act close, .act idle] =
      [.act (.text "hi")] := by
    have first : c.refuses (.act ping) = true := by decide +kernel
    have text : c.refuses (.act (.text "hi")) = false := by decide +kernel
    have second : (c.meet {} (.act (.text "hi"))).refuses (.act close) = true := by decide +kernel
    have last : (c.meet {} (.act (.text "hi"))).refuses (.act idle) = true := by decide +kernel
    simp [Connection.heeded, first, text, second, last]
  have same := (together [.act ping, .act (.text "hi"), .act close, .act idle]).1
  rw [left] at same
  exact ⟨Prod.ext (by decide +kernel) (refused ping (.payloadTooLong 126) (by decide +kernel)),
    Prod.ext (by decide +kernel) (refused close (.reasonTooLong 124) (by decide +kernel)),
    Prod.ext rfl (refused idle .zeroInterval rfl), sent, same.symm⟩

end WebServer

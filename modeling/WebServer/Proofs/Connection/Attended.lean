import WebServer.Proofs.Connection.HandlerLife
import WebServer.Proofs.Connection.LifeCycle
import WebServer.Proofs.WebSocket.Idle

/-!
# What is handled, and when

A connection of a server handles something only for a window that its protocol was shown while the
channel was open (`Attended`). Once it is closed it is shown none, so what comes later handles
nothing: the handler of a WebSocket is told of the end, and that is all. But a window that was shown
is served to its end. The channel may close in the middle of it, and the requests that the window
still holds are passed to the application all the same.
-/
namespace WebServer

variable {ε : Type} {app : App}

/-- A trace that has grown, but nothing was handled. -/
abbrev Unhandled (trace trace' : List (Signal ε)) : Prop :=
  Grows (fun signal => signal.isHandling = false) trace trace'

theorem Grows.unhandled {trace trace' : List (Signal ε)} (idle : Idle trace trace') :
    Unhandled trace trace' := idle.mono fun _ known => known.1

/-- Whatever is handled is handled for a window that was shown while the channel was open, and the
protocol is not called again before it. -/
def Attended (trace : List (Signal ε)) : Prop :=
  ∀ later signal earlier, trace = later ++ signal :: earlier → signal.isHandling = true →
    ∃ between window before, earlier = between ++ .window window :: before ∧
      (∀ other ∈ between, other.isOccasion = false) ∧ .shut ∉ before

namespace Attended

variable {trace new : List (Signal ε)}

theorem nil : Attended ([] : List (Signal ε)) := by
  intro later signal earlier same
  simp at same

/-- Where a signal stands in a trace that has grown. -/
theorem place {later earlier : List (Signal ε)} {signal : Signal ε}
    (same : new ++ trace = later ++ signal :: earlier) :
    (∃ between, new = later ++ signal :: between ∧ earlier = between ++ trace) ∨
      ∃ rest, trace = rest ++ signal :: earlier := by
  rcases List.append_eq_append_iff.1 same with ⟨rest, -, behind⟩ | ⟨rest, inNew, behind⟩
  · exact .inr ⟨rest, behind⟩
  · cases rest with
    | nil => exact .inr ⟨[], behind.symm⟩
    | cons first between =>
      obtain ⟨rfl, rfl⟩ := List.cons.inj behind
      exact .inl ⟨between, inNew, rfl⟩

theorem grow {trace' : List (Signal ε)} (h : Attended trace) (grown : Unhandled trace trace') :
    Attended trace' := by
  obtain ⟨new, rfl, silent⟩ := grown
  intro later signal earlier same handling
  rcases place same with ⟨between, rfl, -⟩ | ⟨rest, old⟩
  · rw [silent signal (List.mem_append_right _ List.mem_cons_self)] at handling
    cases handling
  · exact h _ _ _ old handling

/-- A window is shown while the channel is open, and things are handled for it. -/
theorem window (h : Attended trace) (opened : .shut ∉ trace) (window : Bytes)
    (calm : ∀ signal ∈ new, signal.isOccasion = false) :
    Attended (new ++ .window window :: trace) := by
  intro later signal earlier same handling
  rcases place same with ⟨between, rfl, rfl⟩ | ⟨rest, old⟩
  · refine ⟨between, window, trace, rfl, fun other member => calm other ?_, opened⟩
    exact List.mem_append_right _ (List.mem_cons_of_mem _ member)
  · cases rest with
    | nil =>
      obtain ⟨rfl, rfl⟩ := List.cons.inj old
      cases handling
    | cons first rest => exact h _ _ _ (List.cons.inj old).2 handling

end Attended

/-! ### Whether the channel was closed -/

namespace Channel

variable {ch ch' : Channel ε}

/-- The trace of an open channel does not say that it closed. -/
def Unshut (ch : Channel ε) : Prop := ch.isOpen = true → .shut ∉ ch.trace

theorem Unshut.record (h : ch.Unshut) (signal : Signal ε) (other : signal ≠ .shut) :
    (ch.record signal).Unshut := by
  intro isOpen shut
  rcases List.mem_cons.1 shut with rfl | earlier
  · exact other rfl
  · exact h isOpen earlier

theorem Unshut.act (h : ch.Unshut) (task : Task ε) : (task.act ch).2.Unshut := by
  have unfailing {data rest : Bytes} {attempts trace : List (Signal ε)}
      (offered : Attempts data attempts rest) (unshut : .shut ∉ trace) :
      .shut ∉ attempts ++ trace := by
    intro shut
    rcases List.mem_append.1 shut with later | earlier
    · obtain ⟨_, _, same, -⟩ := offered.offers _ later
      cases same
    · exact unshut earlier
  refine @Task.act_preserves ε (fun _ _ ch => ch.Unshut) (fun _ _ _ _ h => h.record _ nofun) ?_
    (fun _ _ _ job _ h => h.record (.wrote job.data) nofun) ?_ [] [] ch task h
  · intro _ _ ch h isOpen
    rw [isOpen_shut] at isOpen
    cases isOpen
  · intro _ _ ch completion ch' offering h
    cases offering with
    | nothing => exact h
    | sent wire isOpen first offered =>
      intro _ shut
      rcases List.mem_cons.1 shut with same | earlier
      · cases same
      · exact unfailing offered (h isOpen) earlier
    | blocked wire isOpen first offered => exact fun _ => unfailing offered (h isOpen)
    | failed =>
      intro isOpen
      cases isOpen

theorem Unshut.run (h : ch.Unshut) (tasks : List (Task ε)) : (ch.run tasks).Unshut := by
  refine Stage.run_induction (motive := fun ch tasks => ch.Unshut → (ch.run tasks).Unshut) ?_ ?_
    ch tasks h
  · intro ch h
    rwa [Channel.run]
  · intro ch task tasks ih h
    rw [Stage.run_cons]
    exact ih (h.act task)

theorem Unshut.uses (h : ch.Unshut) (uses : ch.Uses ch') : ch'.Unshut := by
  induction uses with
  | nothing => exact h
  | report _ signal report ih =>
    apply ih.record signal
    rintro rfl
    cases report
  | work _ tasks ih => exact ih.run tasks

end Channel

/-! ### What the protocol of a server does beside taking windows -/

namespace Active

variable (active : Active app.Handler) (host : Host app)

theorem idle_finish : Idle host.channel.trace (active.finish host).2.channel.trace := by
  cases active with
  | http pending => exact .refl _
  | webSocket conversation =>
    exact ((conversation.resume host.channel host.now).idles_finish app.react).trace

theorem idle_timer (now : Nat) :
    Idle host.channel.trace (active.timer now host).2.channel.trace := by
  cases active with
  | http pending => exact .refl _
  | webSocket conversation =>
    exact ((conversation.resume host.channel host.now).idles_onTimer app.react now).trace

theorem idle_act (action : WebSocket.Action app.Event) :
    Idle host.channel.trace (active.act action host).2.channel.trace := by
  cases active with
  | http pending => exact .refl _
  | webSocket conversation =>
    exact (conversation.resume host.channel host.now).socket.idle_perform action

end Active

namespace Connection

variable {c : Connection app (Active app.Handler)}

/-- What a connection of a server does without being shown a window handles nothing. -/
theorem enact_unhandled (config : Config) (c : Connection app (Active app.Handler))
    {deed : Deed app (Active app.Handler)} (other : deed ≠ .consult) :
    Unhandled c.host.channel.trace (c.enact (serving app config) deed).host.channel.trace := by
  have told := c.protocol.idle_finish (c.host.record .peerClosed)
  cases deed with
  | consult => exact absurd rfl other
  | ended => exact .of_cons .peerClosed rfl told.unhandled
  | vanished => exact .of_cons .peerClosed rfl (told.trans (Idle.run _ _)).unhandled
  | timer now =>
    exact .of_cons .timer rfl (c.protocol.idle_timer (c.host.record .timer) now).unhandled
  | work tasks => exact (Idle.run _ tasks).unhandled
  | read | drop | wire | clock | tables | altered => exact .refl _

theorem tearDown_unhandled (config : Config) (c : Connection app (Active app.Handler)) :
    Unhandled c.host.channel.trace (c.tearDown (serving app config)).host.channel.trace := by
  have closed : Idle c.host.channel.trace c.close.host.channel.trace := .run _ _
  have told := c.protocol.idle_finish (c.close.host.record .tornDown)
  exact closed.unhandled.trans (.of_cons .tornDown rfl told.unhandled)

/-- What every deed of a connection of a server preserves that is due, and every action on its
WebSocket, holds whatever happens to it. -/
theorem meetAll_preserve {config : Config} {P : Connection app (Active app.Handler) → Prop}
    (deeds : ∀ c deed, Deed.Due c deed → P c → P (c.enact (serving app config) deed))
    (acts : ∀ c action, P c → P (c.meet config (.act action))) (holds : P c)
    (incidents : List (Incident app)) : P (c.meetAll config incidents) := by
  have goes {c : Connection app (Active app.Handler)} (holds : P c)
      (episode : Episode app (Active app.Handler)) :
      P (c.undergo (serving app config) episode) :=
    (undergo_gets (serving app config) c episode).preserve deeds holds
  induction incidents generalizing c with
  | nil => exact holds
  | cons incident incidents ih =>
    refine ih ?_
    cases incident with
    | ready event => exact goes holds (.ready event)
    | timer now => exact goes holds (.timer now)
    | hangUp => exact goes holds .hangUp
    | drained => exact goes holds .woken
    | wire wire => exact goes holds (.wire wire)
    | source source => exact goes holds (.source source)
    | clock now => exact goes holds (.clock now)
    | tables tables => exact goes holds (.tables tables)
    | work tasks => exact goes holds (.work tasks)
    | act action => exact acts c action holds

/-- Whatever happens, things are handled for windows that were shown while the channel was open. -/
theorem attended_meetAll (config : Config)
    (h : Attended c.host.channel.trace ∧ c.host.channel.Unshut) (incidents : List (Incident app)) :
    Attended (c.meetAll config incidents).host.channel.trace ∧
      (c.meetAll config incidents).host.channel.Unshut := by
  refine meetAll_preserve
    (P := fun c => Attended c.host.channel.trace ∧ c.host.channel.Unshut) ?_ ?_ h incidents
  · intro c deed due ⟨attended, unshut⟩
    have proper : (serving app config).Proper := serving_proper config
    constructor
    · rcases Classical.em (deed = .consult) with rfl | other
      · have opened : c.host.channel.isOpen = true := by
          simpa [isClosed, Host.isOpen] using due.2
        obtain ⟨new, grown, calm⟩ :=
          (proper.consume c.protocol c.inbound (c.host.record (.window c.inbound))).grows
        have whole := attended.window (unshut opened) c.inbound calm
        rw [show Signal.window c.inbound :: c.host.channel.trace =
          (c.host.record (.window c.inbound)).channel.trace from rfl, ← grown] at whole
        simp only [enact, consult]
        split <;> exact whole
      · exact attended.grow (enact_unhandled config c other)
    · obtain ⟨wire, shown, uses, -, occasions⟩ := enact_uses proper c deed
      refine Channel.Unshut.uses (fun isOpen shut => ?_) uses
      rcases List.mem_append.1 shut with called | earlier
      · cases occasions _ called
      · exact unshut isOpen earlier
  · intro c action ⟨attended, unshut⟩
    exact ⟨attended.grow (c.protocol.idle_act c.host action).unhandled,
      unshut.uses (c.protocol.act_uses c.host action)⟩

/-- Once a connection is closed, nothing is handled any more. -/
theorem unhandled_of_closed (config : Config) (closed : c.isClosed = true)
    (incidents : List (Incident app)) :
    Unhandled c.host.channel.trace (c.meetAll config incidents).host.channel.trace := by
  have proper : (serving app config).Proper := serving_proper config
  refine (meetAll_preserve (P := fun after => after.isClosed = true ∧
    Unhandled c.host.channel.trace after.host.channel.trace) ?_ ?_ ⟨closed, .refl _⟩ incidents).2
  · intro after deed due ⟨closed, silent⟩
    refine ⟨(enact_onward proper after deed).closed closed, ?_⟩
    rcases Classical.em (deed = .consult) with rfl | other
    · rw [due.2] at closed
      cases closed
    · exact silent.trans (enact_unhandled config after other)
  · intro after action ⟨closed, silent⟩
    refine ⟨?_, silent.trans (after.protocol.idle_act after.host action).unhandled⟩
    simp only [isClosed, Host.isOpen, Bool.not_eq_true'] at closed ⊢
    exact (after.protocol.act_uses after.host action).closed closed

end Connection

/-! ### A window that was shown is served to its end -/

/-- A route or a socket route of the application is called. -/
def Signal.appeal? : Signal ε → Option (Signal ε)
  | .handled route request captures => some (.handled route request captures)
  | .asked route request captures => some (.asked route request captures)
  | _ => none

def appealsIn (trace : List (Signal ε)) : List (Signal ε) := seenIn Signal.appeal? trace

theorem Grows.appealsIn_eq {trace trace' : List (Signal ε)} (h : Unhandled trace trace') :
    appealsIn trace' = appealsIn trace := by
  refine h.seenIn_eq fun signal known => ?_
  cases signal <;> first | rfl | cases known

/-- Two hosts with the same tables, on which the same was asked of the application since their
traces were these. -/
structure Host.Abreast (since since' : List (Signal app.Event)) (host host' : Host app) :
    Prop where
  tables_eq : host.tables = host'.tables
  appeals : ∃ appeals, appealsIn host.channel.trace = appealsIn since ++ appeals ∧
    appealsIn host'.channel.trace = appealsIn since' ++ appeals

/-- Two connections go on in the same way, perhaps with different conversations. -/
inductive Sequel.Alike {σ : Type} : Sequel σ → Sequel σ → Prop where
  | next : Alike .next .next
  | close : Alike .close .close
  | upgraded (conversation conversation' : WebSocket.Paused σ) :
    Alike (.upgraded conversation) (.upgraded conversation')

theorem Sequel.Alike.ofClose {σ : Type} (closes : Bool) :
    Alike (Sequel.ofClose closes : Sequel σ) (.ofClose closes) := by
  cases closes with
  | false => exact .next
  | true => exact .close

namespace Host.Abreast

variable {since since' : List (Signal app.Event)} {host host' : Host app}

/-- Work on the channels asks nothing. -/
theorem work (h : host.Abreast since since' host') {ch ch' : Channel app.Event}
    (same : appealsIn ch.trace = appealsIn host.channel.trace)
    (same' : appealsIn ch'.trace = appealsIn host'.channel.trace) :
    Abreast since since' { host with channel := ch } { host' with channel := ch' } := by
  obtain ⟨appeals, asked, asked'⟩ := h.appeals
  exact ⟨h.tables_eq, appeals, same.trans asked, same'.trans asked'⟩

theorem write (h : host.Abreast since since' host') (data : Bytes) :
    (host.write data).Abreast since since' (host'.write data) := by
  have silent (ch : Channel app.Event) : appealsIn (ch.write data).trace = appealsIn ch.trace :=
    (Idle.run ch _).unhandled.appealsIn_eq
  exact h.work (silent _) (silent _)

theorem adopt (h : host.Abreast since since' host') {α : Type} (dispatched : Dispatched app α) :
    (host.adopt dispatched).2.Abreast since since' (host'.adopt dispatched).2 := by
  obtain ⟨appeals, asked, asked'⟩ := h.appeals
  have shown (ch : Channel app.Event) :
      appealsIn (ch.recordAll dispatched.signals).trace =
        appealsIn ch.trace ++ dispatched.signals.filterMap Signal.appeal? := by
    rw [Channel.recordAll_eq, appealsIn, seenIn_append]
    exact congrArg _ (congrArg (List.filterMap _) (List.reverse_reverse _))
  refine ⟨rfl, appeals ++ dispatched.signals.filterMap Signal.appeal?, ?_, ?_⟩
  · exact (shown _).trans (by rw [asked, List.append_assoc])
  · exact (shown _).trans (by rw [asked', List.append_assoc])

theorem turnDown (h : host.Abreast since since' host') (failure : Http.Failure) (close : Bool) :
    (host.turnDown failure close).1.Alike (host'.turnDown failure close).1 ∧
      (host.turnDown failure close).2.Abreast since since' (host'.turnDown failure close).2 := by
  refine ⟨.ofClose _, ?_⟩
  simp only [Host.turnDown, reject, ← h.tables_eq]
  exact h.write _

/-- The greeting of a handler asks nothing. -/
theorem greeted (h : host.Abreast since since' host') (key : String) (handler : app.Handler)
    (limit : Nat) :
    Abreast since since'
      { host with channel := (host.greeted key handler limit).socket.channel }
      { host' with channel := (host'.greeted key handler limit).socket.channel } := by
  have silent (host : Host app) :
      appealsIn (host.greeted key handler limit).socket.channel.trace =
        appealsIn host.channel.trace := by
    let written := host.channel.write (WebSocket.Handshake.response key).toBytes
    have greeted : Idle (.callback .opened :: written.trace)
        (host.greeted key handler limit).socket.channel.trace :=
      (WebSocket.Conversation.idles_start app.react _).trace
    have called : appealsIn (.callback .opened :: written.trace) = appealsIn written.trace :=
      (seenIn_cons _ _).trans (List.append_nil _)
    have answered : appealsIn written.trace = appealsIn host.channel.trace :=
      (Idle.run host.channel _).unhandled.appealsIn_eq
    rw [greeted.unhandled.appealsIn_eq, called, answered]
  exact h.work (silent host) (silent host')

theorem answer (h : host.Abreast since since' host') (config : Config) (request : Http.Request)
    (body : Bytes) :
    (host.answer config request body).1.Alike (host'.answer config request body).1 ∧
      (host.answer config request body).2.Abreast since since'
        (host'.answer config request body).2 := by
  rw [answer_eq, answer_eq, ← h.tables_eq]
  cases request.attachBody body with
  | error fault => exact h.turnDown _ _
  | ok whole =>
    simp only
    split
    · rw [openSocket_eq, openSocket_eq, ← h.tables_eq]
      cases WebSocket.Handshake.validate whole with
      | error fault => exact h.turnDown _ _
      | ok key =>
        have asked := h.adopt (App.routeSocket host.tables whole)
        simp only
        cases (App.routeSocket host.tables whole).result with
        | error failure => exact asked.turnDown _ _
        | ok handler => exact ⟨.upgraded _ _, asked.greeted key handler _⟩
    · have routed := h.adopt (App.tryRoute host.tables whole)
      cases (App.tryRoute host.tables whole).result with
      | error failure => exact routed.turnDown _ _
      | ok response => exact ⟨.ofClose _, routed.write _⟩

/-- Whatever became of the channel, the requests in a window are passed to the application. -/
theorem serveWindow (h : host.Abreast since since' host') (config : Config) (pending : Pending)
    (window : Bytes) :
    (WebServer.serveWindow config pending window host).2.Abreast since since'
      (WebServer.serveWindow config pending window host').2 := by
  induction pending, window using serveWindow_induction generalizing host host' with
  | head window ih =>
    have rejected (failure : Http.Failure) (closes : Bool) :
        (host.reject failure closes).Abreast since since' (host'.reject failure closes) := by
      rw [reject, reject, ← h.tables_eq]
      exact h.write _
    rw [serveWindow_none, serveWindow_none]
    split
    · exact h
    · exact rejected _ _
    · rename_i fault rest opening
      simp only
      split
      · exact rejected _ _
      · exact ih _ _ (Opening.length_rest_lt (.inr ⟨_, opening⟩)) (rejected _ _)
    · rename_i request length rest opening
      exact ih _ _ (Opening.length_rest_lt (.inl ⟨_, _, opening⟩)) h
  | body request length window ih =>
    rw [serveWindow_some, serveWindow_some]
    split
    · exact h
    · rename_i body rest split
      have shorter := (Bytes.splitExactly?_length split).2
      obtain ⟨alike, abreast⟩ := h.answer config request body
      generalize host.answer config request body = answered at alike abreast
      generalize host'.answer config request body = answered' at alike abreast
      obtain ⟨sequel, after⟩ := answered
      obtain ⟨sequel', after'⟩ := answered'
      cases alike with
      | next => exact ih rest (by omega) abreast
      | close => exact abreast
      | upgraded => exact abreast

end Host.Abreast

/-- What route is called, or that the channel closes. -/
def Signal.landmark? {ε : Type} : Signal ε → Option (Option Nat)
  | .handled route _ _ => some (some route)
  | .shut => some none
  | _ => none

/-! ### What may come behind a close -/

/-- What a handler heard in its life, and at last of the end. -/
theorem WebSocket.Life.heard {st : WebSocket.Standing ε} (h : WebSocket.Life st) :
    ∃ heard told, callbacksIn st.socket.channel.trace = heard ++ told ∧
      (∀ callback ∈ heard, (Signal.callback callback : Signal ε).isHandling = true) ∧
      told.length ≤ 1 := by
  have handling {middle : List WebSocket.Callback}
      (during : ∀ callback ∈ middle, callback.isDuring = true) :
      ∀ callback ∈ WebSocket.Callback.opened :: middle,
        (Signal.callback callback : Signal ε).isHandling = true := by
    intro callback member
    rcases List.mem_cons.1 member with rfl | later
    · rfl
    · have known := during callback later
      cases callback <;> first | rfl | cases known
  cases h with
  | going _ _ _ _ begun | leaving _ _ _ _ begun =>
    obtain ⟨middle, callbacks, during⟩ := begun
    exact ⟨_, [], by rw [callbacks, List.append_nil], handling during, Nat.zero_le _⟩
  | ended _ _ lived =>
    obtain ⟨middle, callbacks, during⟩ := lived.callbacks
    exact ⟨_, _, callbacks, handling during, Nat.le_refl _⟩

/-- Where nothing is handled, the handler is at most told of the end, and once. -/
theorem Grows.callbacks {trace trace' : List (Signal ε)} (h : Unhandled trace trace')
    {heard told : List WebSocket.Callback} (callbacks : callbacksIn trace' = heard ++ told)
    (handling : ∀ callback ∈ heard, (Signal.callback callback : Signal ε).isHandling = true) :
    ∃ behind, callbacksIn trace' = callbacksIn trace ++ behind ∧ behind.length ≤ told.length := by
  obtain ⟨new, rfl, silent⟩ := h
  refine ⟨callbacksIn new, seenIn_append new trace, ?_⟩
  simp only [seenIn_append] at callbacks
  have ends : ∀ callback ∈ callbacksIn new,
      (Signal.callback callback : Signal ε).isHandling = false := by
    intro callback member
    obtain ⟨signal, shown, called⟩ := List.mem_filterMap.1 member
    cases signal with
    | callback called' =>
      cases Option.some.inj called
      exact silent _ (List.mem_reverse.1 shown)
    | _ => cases called
  rcases List.append_eq_append_iff.1 callbacks with ⟨between, rfl, same⟩ | ⟨between, -, rfl⟩
  · cases between with
    | nil => exact Nat.le_of_eq (congrArg List.length same)
    | cons callback between =>
      have first := handling callback (List.mem_append_right _ List.mem_cons_self)
      have shown : callback ∈ seenIn Signal.callback? new := same ▸ List.mem_cons_self
      rw [ends callback shown] at first
      cases first
  · exact List.length_append.symm ▸ Nat.le_add_left _ _

namespace Connection

/-- Whatever happens to a connection of a server, a route is called or asked, and a handler is
called back with anything but the end, only for a window that was shown while the connection was
open, and before the protocol is called again. Once the connection is closed, nothing of this
happens any more; the handler may then be told of the end, once. But the requests in a window are
passed to the application in the same way whether the channel is open or not, so that a window in
which the connection closes is served to its end. -/
theorem handled_for_open_windows (config : Config) (wire : Wire) (tables : app.Tables)
    (now chunk : Nat) (incidents : List (Incident app)) :
    let c := (fresh wire tables now chunk).meetAll config incidents
    Attended c.host.channel.trace ∧
      (c.isClosed = true → ∀ more,
        let last := (c.meetAll config more).tearDown (serving app config)
        Unhandled c.host.channel.trace last.host.channel.trace ∧
          ∃ behind, callbacksIn last.host.channel.trace =
            callbacksIn c.host.channel.trace ++ behind ∧ behind.length ≤ 1) ∧
      ∀ (pending : Pending) (window : Bytes) (host host' : Host app), host.tables = host'.tables →
        ∃ appeals,
          appealsIn (serveWindow config pending window host).2.channel.trace =
            appealsIn host.channel.trace ++ appeals ∧
          appealsIn (serveWindow config pending window host').2.channel.trace =
            appealsIn host'.channel.trace ++ appeals := by
  intro c
  refine ⟨?_, fun closed more => ?_, fun pending window host host' tables_eq => ?_⟩
  · exact (attended_meetAll config ⟨.nil, fun _ => List.not_mem_nil⟩ incidents).1
  · have later := (unhandled_of_closed config closed more).trans (tearDown_unhandled config _)
    refine ⟨later, ?_⟩
    have fresh : (fresh wire tables now chunk).Has (living app false []).Holds :=
      ⟨rfl, rfl, rfl, rfl⟩
    have within (incidents : List (Incident app)) :
        ∀ incident ∈ incidents, incident.Within (living app false []).scope := by
      rintro (_ | _) _ <;> simp [Incident.Within, living]
    have sound : (living app false []).Sound := living_sound false []
    have alive : c.Has (living app false []).Holds := sound.meetAll config fresh (within incidents)
    have torn := (sound.keeps config).tearDown (sound.meetAll config alive (within more))
    unfold Has at torn
    cases active : ((c.meetAll config more).tearDown (serving app config)).protocol with
    | http pending =>
      rw [active] at torn
      obtain ⟨behind, same, shorter⟩ := later.callbacks (torn.2.2.1.trans (List.append_nil _).symm)
        (List.forall_mem_nil _)
      exact ⟨behind, same, Nat.le_trans shorter (Nat.zero_le _)⟩
    | webSocket conversation =>
      rw [active] at torn
      obtain ⟨heard, told, callbacks, handling, once⟩ := torn.1.heard
      obtain ⟨behind, same, shorter⟩ := later.callbacks callbacks handling
      exact ⟨behind, same, Nat.le_trans shorter once⟩
  · have abreast : host.Abreast host.channel.trace host'.channel.trace host' :=
      ⟨tables_eq, [], (List.append_nil _).symm, (List.append_nil _).symm⟩
    exact (abreast.serveWindow config pending window).appeals

/-- Two requests arrive at once, and the wire fails under the answer to the first. The second one is
passed to its route all the same, behind the close. -/
theorem handled_behind_close :
    let path (whole : String) : String → Option Captures :=
      fun path => if path = whole then some [] else none
    let tables : politeApp.Tables :=
      { routes := [⟨0, "/a", path "/a", [], ()⟩, ⟨1, "/b", path "/b", [], ()⟩] }
    let arrived := Text.encode "GET /a HTTP/1.1\r\n\r\nGET /b HTTP/1.1\r\n\r\n"
    let c := (fresh { broken := true } tables 0 4096).meetAll {}
      [.source { arrived }, .ready { readable := true }]
    ∃ later request captures earlier,
      c.host.channel.trace = later ++ .handled 1 request captures :: earlier ∧ .shut ∈ earlier := by
  intro path tables arrived c
  let arriving := (fresh { broken := true } tables 0 4096).meet {} (.source { arrived })
  let host := arriving.host.record (.window arrived)
  let served := serveWindow {} none arrived host
  have waits : (Active.ofStop arrived served.1).move = .wait := by decide +kernel
  have trace : c.host.channel.trace = served.2.channel.trace := by
    have read : arriving.source.readAll arriving.chunk [] = (.more, arrived, {}) := by
      decide +kernel
    let reading := { arriving with source := {}, inbound := arrived }
    have offered : reading.process (serving politeApp {}) =
        { reading with host := served.2, protocol := (Active.ofStop arrived served.1).protocol
                       inbound := arrived.drop (Active.ofStop arrived served.1).used } := by
      have consumed : (serving politeApp {}).consume reading.protocol reading.inbound host =
          (⟨(Active.ofStop arrived served.1).used, (Active.ofStop arrived served.1).protocol,
            .wait⟩, served.2) := by
        rw [← waits]
        rfl
      exact offer_of_open (serving politeApp {}) (by decide +kernel) rfl _ consumed
    change (arriving.onEvent (serving politeApp {}) { readable := true }).host.channel.trace = _
    rw [onEvent_readable rfl rfl, read]
    simp only
    exact congrArg (fun c => (c.settle false).host.channel.trace) offered
  have marks : served.2.channel.trace.filterMap Signal.landmark? = [some 1, none, some 0] := by
    decide +kernel
  obtain ⟨later, second, earlier, split, -, called, marks⟩ := List.filterMap_eq_cons_iff.1 marks
  obtain ⟨between, close, before, split', -, closes, -⟩ := List.filterMap_eq_cons_iff.1 marks
  have shut : .shut ∈ earlier := by
    cases close with
    | shut => exact split' ▸ List.mem_append_right _ List.mem_cons_self
    | _ => cases closes
  cases second with
  | handled route request captures =>
    cases called
    exact ⟨later, request, captures, earlier, trace.trans split, shut⟩
  | _ => cases called

end Connection
end WebServer

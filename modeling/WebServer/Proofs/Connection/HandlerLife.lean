import WebServer.Proofs.Connection.Handling
import WebServer.Proofs.WebSocket.Heeding

/-!
# The handler of a connection that was upgraded

A connection begins with requests, and no handler of a WebSocket is called while it serves them.
With the upgrade the life of a handler begins, and all that happens to the connection from then on
are moves of its conversation, which make it go its way. When the connection is torn down, the life
is over. No close frame of the peer escapes it: as long as nobody began to close, none that can be
read was in what the WebSocket was shown (`Heeded`).
-/
namespace WebServer

open WebSocket (Aside Begun CloseCode CloseFrameIn Farewell Life Lived)

variable {ε : Type} {app : App}

namespace WebSocket

/-- A handler whose life goes on knows of no end, or the socket is closing. -/
theorem Life.honest {st : Standing ε} (h : Life st) : st.Honest := by
  intro told
  cases h with
  | going untold | leaving untold => exact absurd told (Bool.eq_false_iff.1 untold)
  | ended _ closing => exact closing

/-- Somebody who was told of the end has had a whole life. -/
theorem Life.lived {st : Standing ε} (h : Life st) (told : st.told = true) :
    ∃ code reason earlier later, Lived st.socket.channel.trace code reason earlier later := by
  cases h with
  | going untold | leaving untold => exact absurd told (Bool.eq_false_iff.1 untold)
  | ended _ _ lived => exact ⟨_, _, _, _, lived⟩

theorem Lived.callbacks {trace earlier later : List (Signal ε)} {code : CloseCode}
    {reason : String} (h : Lived trace code reason earlier later) :
    ∃ middle, callbacksIn trace = .opened :: (middle ++ [.closed code reason]) ∧
      ∀ callback ∈ middle, callback.isDuring = true := by
  obtain ⟨middle, callbacks, during⟩ := h.begun
  refine ⟨middle, ?_, during⟩
  rw [h.trace_eq]
  simp only [seenIn_append, seenIn_cons, callbacks, h.silent, List.append_nil]
  rfl

/-- A handler that was told of the beginning but not of the end has a socket that tells how it
began to close. -/
theorem Life.attested {st : Standing ε} (h : Life st) (begun : Begun st.socket.channel.trace) :
    st.socket.Attested False := by
  intro closing
  have closing := closing.resolve_left id
  cases h with
  | going untold opened =>
    rw [opened] at closing
    cases closing
  | leaving untold closing notice closed =>
    rw [closed]
    exact List.cons_ne_nil _ _
  | ended told closing lived =>
    obtain ⟨middle, callbacks, -⟩ := lived.callbacks
    obtain ⟨middle', callbacks', during⟩ := begun
    rw [callbacks] at callbacks'
    obtain rfl := (List.cons.inj callbacks').2
    cases during _ (List.mem_append_right _ List.mem_cons_self)

end WebSocket

/-- No WebSocket was opened yet. -/
def Unheard (trace : List (Signal ε)) : Prop := callbacksIn trace = [] ∧ closingsIn trace = []

theorem Unheard.aside {trace trace' : List (Signal ε)} (h : Unheard trace)
    (aside : Aside trace trace') : Unheard trace' :=
  ⟨aside.callbacks_eq.trans h.1, aside.closings_eq.trans h.2⟩

/-- A window that the WebSocket was shown, before its handler was told of the end. -/
def ShownIn (trace : List (Signal ε)) (window : Bytes) : Prop :=
  ∃ earlier, .window window :: earlier <:+ trace ∧ Begun earlier

/-- As long as nobody began to close, no close frame that can be read was in what the WebSocket was
shown. -/
def Heeded (trace : List (Signal ε)) : Prop :=
  closingsIn trace = [] → ∀ window payload said, ShownIn trace window →
    CloseFrameIn window payload → CloseCode.ofPayload? payload ≠ some said

namespace Heeded

variable {trace new earlier : List (Signal ε)}

theorem of_unheard (unheard : callbacksIn trace = []) : Heeded trace := by
  rintro - window payload said ⟨earlier, ⟨new, rfl⟩, middle, callbacks, -⟩
  simp [seenIn_append, seenIn_cons, callbacks] at unheard

theorem cons (h : Heeded trace) {signal : Signal ε} (other : ∀ window, signal ≠ .window window) :
    Heeded (signal :: trace) := by
  rintro none window payload said ⟨earlier, suffix, begun⟩
  rw [closingsIn, seenIn_cons, List.append_eq_nil_iff] at none
  rcases List.suffix_cons_iff.1 suffix with same | suffix
  · exact absurd (List.cons.inj same).1.symm (other window)
  · exact h none.1 window payload said ⟨earlier, suffix, begun⟩

theorem append (h : Heeded trace) (calm : ∀ signal ∈ new, signal.isOccasion = false) :
    Heeded (new ++ trace) := by
  induction new with
  | nil => exact h
  | cons signal new ih =>
    obtain ⟨first, others⟩ := List.forall_mem_cons.1 calm
    refine (ih others).cons ?_
    rintro window rfl
    cases first

theorem uses {ch ch' : Channel ε} (h : Heeded ch.trace) (uses : ch.Uses ch') :
    Heeded ch'.trace := by
  obtain ⟨new, grown, calm⟩ := uses.grows
  rw [grown]
  exact h.append calm

/-- If what comes of a window tells of a closing, in case it holds a close frame, it is heeded. -/
theorem window (h : Heeded trace) {window : Bytes}
    (calm : ∀ signal ∈ new, signal.isOccasion = false)
    (heeds : Begun trace → ∀ payload said, CloseFrameIn window payload →
      CloseCode.ofPayload? payload = some said →
        closingsIn (new ++ .window window :: trace) ≠ []) :
    Heeded (new ++ .window window :: trace) := by
  intro none
  have shown : Heeded (.window window :: trace) := by
    rintro none' other payload said ⟨earlier, suffix, begun⟩ holds read
    rcases List.suffix_cons_iff.1 suffix with same | suffix
    · obtain ⟨window_eq, rfl⟩ := List.cons.inj same
      obtain rfl := Signal.window.inj window_eq
      exact heeds begun payload said holds read none
    · rw [closingsIn, seenIn_cons, List.append_eq_nil_iff] at none'
      exact h none'.1 other payload said ⟨earlier, suffix, begun⟩ holds read
  exact shown.append calm none

/-- So was it before, unless it began to close since. -/
theorem before (h : Heeded (new ++ earlier)) (none : closingsIn new = []) : Heeded earlier := by
  rintro none' window payload said ⟨start, suffix, begun⟩
  refine h ?_ window payload said ⟨start, suffix.trans (List.suffix_append _ _), begun⟩
  rw [closingsIn, seenIn_append]
  exact List.append_eq_nil_iff.2 ⟨none', none⟩

end Heeded

/-- Serving requests tells nothing of the life of a handler. -/
theorem Host.Serving.aside {works : Task app.Event → Prop} {host host' : Host app}
    (h : Serving works host host') : Aside host.channel.trace host'.channel.trace := by
  cases h with
  | write data => exact .of_extends (Channel.run_extends _ _)
  | adopt dispatched dispatch =>
    simp only [Host.adopt, Channel.recordAll_eq]
    refine .append (fun signal member => ?_) _
    have known := dispatch signal (List.mem_reverse.1 member)
    cases signal <;> first | rfl | cases known
  | occasion signal occasion => exact .cons (signal.isAside_of_occasion occasion) _
  | work tasks => exact .of_extends (Channel.run_extends _ tasks)
  | wire | clock | tables => exact .refl _

/-- No handler of a WebSocket was called, or one lives. If the end is `known`, the handler was told
of it. What was seen in the `past` is still in the trace. -/
def living (app : App) (known : Bool) (past : List (Signal app.Event)) : Regime app where
  served host := known = false ∧ past = [] ∧ Unheard host.channel.trace
  talking st := Life st ∧ (known = true → st.told = true) ∧ past <:+ st.socket.channel.trace

theorem living_sound (known : Bool) (past : List (Signal app.Event)) :
    (living app known past).Sound where
  react := WebSocket.React.within_true app.react
  ping := trivial
  timer _ := trivial
  flush := trivial
  close := trivial
  serves := by
    rintro host host' step ⟨unknown, none, unheard⟩
    exact ⟨unknown, none, unheard.aside step.aside⟩
  begins := by
    rintro host ⟨unknown, none, callbacks, closings⟩
    exact ⟨.opened rfl callbacks closings, by simp [unknown], none ▸ List.nil_suffix⟩
  moves := by
    rintro st st' move ⟨life, told, grown⟩
    exact ⟨move.life life, fun isKnown => move.told (told isKnown), grown.trans move.grows⟩
  honest := fun _ h => h.1.honest

namespace Connection

variable {c : Connection app (Active app.Handler)} {known : Bool} {past : List (Signal app.Event)}

/-- When the connection of a WebSocket is torn down, the handler is told of the end at the
latest. -/
theorem tearDown_living (config : Config) (h : c.Has (living app known past).Holds)
    {conversation : WebSocket.Paused app.Handler} (active : c.protocol = .webSocket conversation) :
    (c.tearDown (serving app config)).Has (living app true c.host.channel.trace).Holds := by
  have onwards : c.Has (living app false c.host.channel.trace).Holds := by
    rw [Has, active] at h ⊢
    exact ⟨h.1, nofun, List.suffix_refl _⟩
  have torn := ((living_sound false _).keeps config).tearDown onwards
  have finished : (c.tearDown (serving app config)).protocol =
      ((Active.webSocket conversation).finish (c.close.host.record .tornDown)).1 := by
    rw [← active]
    rfl
  rw [Has, finished] at torn ⊢
  exact ⟨torn.1, fun _ => Active.told_finish (.webSocket conversation) _, torn.2.2⟩

/-- Only the handler of a WebSocket can be told of the end. -/
theorem lived_of_living (h : c.Has (living app true past).Holds) :
    past <:+ c.host.channel.trace ∧
      ∃ code reason earlier later, Lived c.host.channel.trace code reason earlier later := by
  unfold Has at h
  cases active : c.protocol with
  | http pending =>
    rw [active] at h
    cases h.1
  | webSocket conversation =>
    rw [active] at h
    exact ⟨h.2.2, h.1.lived (h.2.1 rfl)⟩

/-- A window that is shown to a conversation which goes on is heeded. -/
theorem heeded_of_consume (config : Config) {active : Active app.Handler} {host : Host app}
    (alive : (living app false []).Holds active host) (heeded : Heeded host.channel.trace)
    (window : Bytes) :
    Heeded (active.consume config window (host.record (.window window))).2.channel.trace := by
  have uses := active.consume_uses config (host.record (.window window)) window
  obtain ⟨new, grown, calm⟩ := uses.grows
  rw [grown]
  refine heeded.window calm fun begun payload said holds read => ?_
  cases active with
  | http pending =>
    obtain ⟨middle, callbacks, -⟩ := begun
    obtain ⟨-, -, unheard, -⟩ := alive
    rw [unheard] at callbacks
    cases callbacks
  | webSocket conversation =>
    obtain ⟨frame, held, close, rfl⟩ := holds
    have attested : ((conversation.resume host.channel host.now).socket.record
        (.window window)).Attested False :=
      (alive.1.attested begun).of_same rfl ((seenIn_cons _ _).trans (List.append_nil _))
    have closes := WebSocket.Conversation.closes_of_closeFrame app.react held close read
      (c := conversation.resume (host.record (.window window)).channel host.now) attested
    rw [show new ++ .window window :: host.channel.trace = _ from grown.symm,
      Active.consume_webSocket]
    exact closes

/-- A server heeds the close frames of its peers. -/
theorem heeding_keeps (config : Config) : (serving app config).Keeps fun active host =>
    (living app false []).Holds active host ∧ Heeded host.channel.trace where
  consume window := fun ⟨alive, heeded⟩ => ⟨((living_sound false []).keeps config).consume window
    alive, heeded_of_consume config alive heeded window⟩
  peerClosed := by
    rintro active host ⟨alive, heeded⟩
    have shown : Heeded (host.record .peerClosed).channel.trace := heeded.cons nofun
    exact ⟨((living_sound false []).keeps config).peerClosed alive,
      shown.uses (active.finish_uses _)⟩
  tornDown := by
    rintro active host ⟨alive, heeded⟩
    have shown : Heeded (host.record .tornDown).channel.trace := heeded.cons nofun
    exact ⟨((living_sound false []).keeps config).tornDown alive,
      shown.uses (active.finish_uses _)⟩
  timer := by
    rintro active host now ⟨alive, heeded⟩
    have shown : Heeded (host.record .timer).channel.trace := heeded.cons nofun
    exact ⟨((living_sound false []).keeps config).timer now alive,
      shown.uses (active.timer_uses _ now)⟩
  flush := fun ⟨alive, heeded⟩ =>
    ⟨((living_sound false []).keeps config).flush alive, heeded.uses (.work .nothing _)⟩
  close := fun ⟨alive, heeded⟩ =>
    ⟨((living_sound false []).keeps config).close alive, heeded.uses (.work .nothing _)⟩

/-- A connection of a server that heeds the close frames of its peer. -/
def Heeds (c : Connection app (Active app.Handler)) : Prop :=
  c.Has fun active host => (living app false []).Holds active host ∧ Heeded host.channel.trace

theorem Heeds.meetAll (config : Config) (h : c.Heeds) (incidents : List (Incident app)) :
    (c.meetAll config incidents).Heeds := by
  induction incidents generalizing c with
  | nil => exact h
  | cons incident incidents ih =>
    refine ih ?_
    have keeps : (serving app config).Keeps _ := heeding_keeps config
    have within : incident.Within (living app false []).scope := by
      cases incident <;> simp [Incident.Within, living]
    have alive := (living_sound false []).meet config h.1 within
    cases incident with
    | ready event => exact keeps.onEvent h event
    | timer now => exact keeps.onTimer h now
    | hangUp => exact keeps.hangUp h
    | drained => exact keeps.closeIfDrained h
    | wire | source | clock | tables => exact ⟨alive, h.2⟩
    | work tasks => exact ⟨alive, h.2.uses (.work .nothing tasks)⟩
    | act action => exact ⟨alive, h.2.uses (c.protocol.act_uses c.host action)⟩

/-- Whatever happens to a connection of a server: while it serves requests, no handler of a
WebSocket is called. Once it is upgraded, the handler is called with `opened` first, then only with
messages, pings and pongs, and when the connection is torn down it was called with `closed` exactly
once and with nothing behind that, whatever happens later. What it was told of the end is what
this side closed with, if this side closed first; else what the peer's close frame said, if one
came; else that there was no close. At no time has the WebSocket been shown a close frame that can
be read, unless somebody began to close. -/
theorem handler_life (config : Config) (wire : Wire) (tables : app.Tables) (now chunk : Nat)
    (before behind : List (Incident app)) :
    let c := (fresh wire tables now chunk).meetAll config before
    let last := (c.tearDown (serving app config)).meetAll config behind
    Heeded c.host.channel.trace ∧
      match c.protocol with
      | .http _ => callbacksIn c.host.channel.trace = []
      | .webSocket _ =>
        ∃ middle code reason earlier later,
          callbacksIn last.host.channel.trace = .opened :: (middle ++ [.closed code reason]) ∧
            (∀ callback ∈ middle, callback.isDuring = true) ∧
            last.host.channel.trace = later ++ .callback (.closed code reason) :: earlier ∧
            Farewell earlier code reason ∧ Heeded earlier ∧
            callbacksIn c.host.channel.trace <+: callbacksIn last.host.channel.trace := by
  intro c last
  have within (incidents : List (Incident app)) (known : Bool) (past : List (Signal app.Event)) :
      ∀ incident ∈ incidents, incident.Within (living app known past).scope := by
    rintro (_ | _) _ <;> simp [Incident.Within, living]
  have fresh : (fresh wire tables now chunk).Heeds :=
    ⟨⟨rfl, rfl, rfl, rfl⟩, Heeded.of_unheard rfl⟩
  have heeds : c.Heeds := fresh.meetAll config before
  have alive : c.Has (living app false []).Holds := heeds.1
  refine ⟨heeds.2, ?_⟩
  split
  · rename_i active
    rw [Has, active] at alive
    exact alive.2.2.1
  · rename_i conversation active
    have torn := tearDown_living config alive active
    have ended := (living_sound true _).meetAll config torn (within behind _ _)
    obtain ⟨⟨new, grows⟩, code, reason, earlier, later, lived⟩ := lived_of_living ended
    obtain ⟨middle, callbacks, during⟩ := lived.callbacks
    have heeded : Heeded last.host.channel.trace :=
      (Heeds.meetAll config ((heeding_keeps config).tearDown heeds) behind).2
    refine ⟨middle, code, reason, earlier, later, callbacks, during, lived.trace_eq,
      lived.farewell, ?_, ?_⟩
    · rw [lived.trace_eq, List.append_cons] at heeded
      refine heeded.before ?_
      rw [closingsIn, seenIn_append]
      exact List.append_eq_nil_iff.2 ⟨rfl, lived.final⟩
    · rw [← grows]
      simp only [seenIn_append]
      exact List.prefix_append _ _

end Connection
end WebServer

import WebServer.Proofs.Connection.Lagging

/-!
# Connections that are about to close

Once a connection drains, or its WebSocket is over, nothing more is written on it, and the
application is not called again but for being told of the end, whatever is still read and whichever
timers run. What was written until then is sent as far as the wire takes it; behind the last of it
the connection closes. The property of a connection that says so is kept by everything that happens
to it, as long as no read and no write fails (`Departing`), and between two events nothing is
missing but that close (`Departed`). A handler that was not told of the end by then is told when the
connection is torn down.
-/
namespace WebServer

open WebSocket (Action Callback Conversation React)

variable {ε σ : Type} {app : App}

/-- No attempt to read fails. -/
def Source.Works (s : Source) : Prop := ∀ answer ∈ s.answers, answer ≠ .fails

namespace Source

variable {s : Source}

theorem Works.read (h : s.Works) (size : Nat) :
    (s.read size).1 ≠ .fails ∧ (s.read size).2.Works := by
  have taken (s : Source) (size : Nat) :
      (s.take size).1 ≠ .fails ∧ (s.take size).2.answers = s.answers := by
    unfold take
    split
    · split <;> exact ⟨nofun, rfl⟩
    · exact ⟨nofun, rfl⟩
  unfold Works at h ⊢
  unfold Source.read
  cases answers : s.answers with
  | nil =>
    obtain ⟨works, same⟩ := taken s size
    exact ⟨works, by simp [same, answers]⟩
  | cons answer others =>
    rw [answers] at h
    obtain ⟨first, rest⟩ := List.forall_mem_cons.1 h
    cases answer with
    | limit count =>
      obtain ⟨works, same⟩ := taken { s with answers := others } (min count size)
      exact ⟨works, by simpa [same] using rest⟩
    | interrupted | wouldBlock => exact ⟨nofun, rest⟩
    | fails => exact absurd rfl first

theorem Works.readAll (h : s.Works) (chunk : Nat) (gathered : Bytes) :
    (s.readAll chunk gathered).1 ≠ .failed ∧ (s.readAll chunk gathered).2.2.Works := by
  fun_induction Source.readAll s chunk gathered with
  | case1 s gathered s' reading | case2 s gathered b bs s' reading | case5 s gathered s' reading =>
    have next := (h.read chunk).2
    rw [reading] at next
    exact ⟨by simp, next⟩
  | case3 s gathered b bs s' reading gathered' long ih | case4 s gathered s' reading ih =>
    have next := (h.read chunk).2
    rw [reading] at next
    exact ih next
  | case6 s gathered s' reading => exact absurd (by rw [reading]) (h.read chunk).1

end Source

/-- What is left of a connection that closes: what was written on it, the calls that were made and
those still to be made, and whether it became a WebSocket. -/
structure Legacy (ε : Type) where
  written : Bytes
  calls : List (Signal ε)
  upgraded : Bool

/-- A channel on which so much was written, while so much is still to be told, and which closes
behind that: as the connection drains, or by its last write. -/
structure Channel.Leaving (draining : Bool) (owed : List Callback) (legacy : Legacy ε)
    (ch : Channel ε) : Prop where
  leaves : draining = true ∧ ch.Waits ∨ ch.Closing []
  written_eq : writtenIn ch.trace = legacy.written
  calls_eq : callsIn ch.trace ++ owed.map .callback = legacy.calls

namespace Channel.Leaving

variable {draining : Bool} {owed : List Callback} {legacy : Legacy ε} {ch : Channel ε}

theorem plain (h : ch.Leaving draining owed legacy) : ch.Plain :=
  h.leaves.elim (fun waits => waits.2.plain) fun closing => closing.plain

theorem drains (h : ch.Leaving draining owed legacy) : ch.Leaving true owed legacy :=
  ⟨h.leaves.imp (fun waits => ⟨rfl, waits.2⟩) id, h.written_eq, h.calls_eq⟩

/-- What neither calls the application nor concerns the wire makes no difference. -/
theorem record (h : ch.Leaving draining owed legacy) {signal : Signal ε}
    (none : signal.written = []) (nothing : signal.accepted = [])
    (works : signal.isFailure = false) (silent : signal.call? = .none) :
    (ch.record signal).Leaving draining owed legacy := by
  refine ⟨?_, by simp [Channel.record, none, h.written_eq], ?_⟩
  · exact h.leaves.imp (fun waits => ⟨waits.1, waits.2.record none nothing works⟩)
      fun closing => closing.record none nothing works
  · simpa [Channel.record, silent] using h.calls_eq

/-- The occasion on which a protocol runs makes no difference. -/
theorem occasion (h : ch.Leaving draining owed legacy) {signal : Signal ε}
    (occasion : signal.isOccasion = true) : (ch.record signal).Leaving draining owed legacy := by
  obtain ⟨none, nothing, works, silent⟩ : signal.written = [] ∧ signal.accepted = [] ∧
      signal.isFailure = false ∧ signal.call? = none := by
    cases signal <;> first | exact ⟨rfl, rfl, rfl, rfl⟩ | cases occasion
  exact h.record none nothing works silent

theorem tell {callback : Callback} (h : ch.Leaving draining (callback :: owed) legacy) :
    (ch.record (.callback callback)).Leaving draining owed legacy := by
  refine ⟨?_, by simp [Channel.record, Signal.written, h.written_eq], ?_⟩
  · exact h.leaves.imp (fun waits => ⟨waits.1, waits.2.record rfl rfl rfl⟩)
      fun closing => closing.record rfl rfl rfl
  · simpa [Channel.record, Signal.call?, Signal.isCall] using h.calls_eq

/-- What was still to be told is told, and the application notes what it likes. -/
theorem told (h : ch.Leaving draining owed legacy) (notes : List ε) :
    (ch.recordAll (owed.map .callback ++ notes.map .note)).Leaving draining [] legacy := by
  have noted {ch : Channel ε} (h : ch.Leaving draining [] legacy) :
      (ch.recordAll (notes.map .note)).Leaving draining [] legacy := by
    induction notes generalizing ch with
    | nil => exact h
    | cons event notes ih => exact ih (h.record rfl rfl rfl rfl)
  induction owed generalizing ch with
  | nil => exact noted h
  | cons callback owed ih => exact ih h.tell

theorem hushed (h : ch.Leaving draining owed legacy) {c : Conversation ε σ}
    (hushed : c.Hushed ch owed) :
    c.socket.channel.Leaving draining c.pause.owed legacy := by
  obtain ⟨notes, channel⟩ := hushed.channel
  rw [channel, WebSocket.Paused.owed_of_told hushed.told]
  exact h.told notes

theorem flush (h : ch.Leaving draining owed legacy) : ch.flush.Leaving draining owed legacy := by
  refine ⟨?_, ?_, (congrArg (· ++ _) (callsIn_run _ _)).trans h.calls_eq⟩
  · exact h.leaves.imp (fun ⟨drains, waits⟩ => ⟨drains, waits.flush⟩) fun closing => closing.flush
  · exact (h.plain.run_silent (by simp [Task.Silent])).2.trans h.written_eq

theorem withWire (h : ch.Leaving draining owed legacy) {wire : Wire}
    (sustaining : wire.Sustaining) : Leaving draining owed legacy { ch with wire } :=
  ⟨h.leaves.imp (fun ⟨drains, waits⟩ => ⟨drains, waits.withWire sustaining⟩)
    fun closing => closing.withWire sustaining, h.written_eq, h.calls_eq⟩

/-- With everything sent, the channel may close. -/
theorem close (h : ch.Leaving true owed legacy) (empty : ch.queue = []) :
    ch.close.Leaving true owed legacy := by
  rcases h.leaves with ⟨-, waits⟩ | closing
  · have written_eq : writtenIn ch.close.trace = writtenIn ch.trace :=
      (waits.plain.run_silent (by simp [Task.Silent, Completion.Silent])).2
    refine ⟨.inr ?_, written_eq.trans h.written_eq,
      (congrArg (· ++ _) (callsIn_run _ _)).trans h.calls_eq⟩
    rw [close_eq_shut]
    exact .shut waits empty _
  · rwa [close_eq_shut, shut_of_closed (closing.closed_of_empty empty)]

theorem sent (h : ch.Leaving draining owed legacy) (closed : ch.isOpen = false) :
    acceptedIn ch.trace = legacy.written := by
  rcases h.leaves with ⟨-, waits⟩ | closing
  · rw [waits.isOpen] at closed
    cases closed
  · exact (closing.sent closed).trans h.written_eq

end Channel.Leaving

namespace Active

/-- A protocol that does nothing any more, if the connection drains as it says. -/
def Over (draining : Bool) : Active σ → Prop
  | .http _ => draining = true
  | .webSocket conversation => conversation.Over

/-- What is still to be told of the end. -/
def owed : Active σ → List Callback
  | .http _ => []
  | .webSocket conversation => conversation.owed

def isUpgraded : Active σ → Bool
  | .http _ => false
  | .webSocket _ => true

theorem Over.drains {draining : Bool} {active : Active σ} (h : active.Over draining) :
    active.Over true := by
  cases active with
  | http pending => rfl
  | webSocket conversation => exact h

/-- Who was told of the end of the stream is over, and knows. -/
theorem over_finish (active : Active app.Handler) (host : Host app) :
    (active.finish host).1.Over true ∧ (active.finish host).1.owed = [] ∧
      (active.finish host).1.isUpgraded = active.isUpgraded := by
  cases active with
  | http pending => exact ⟨rfl, rfl, rfl⟩
  | webSocket conversation =>
    obtain ⟨finished, told⟩ := WebSocket.Conversation.over_finish app.react
      (conversation.resume host.channel host.now)
    exact ⟨finished, WebSocket.Paused.owed_of_told told, rfl⟩

/-- The end of the stream means nothing to it but what is still to be told, and it stays so. -/
theorem Over.finish (modest : React.Within Action.Modest app.react) {draining : Bool}
    {active : Active app.Handler} (h : active.Over draining) {host : Host app}
    {legacy : Legacy app.Event} (leaving : host.channel.Leaving draining active.owed legacy) :
    (active.finish host).1.Over draining ∧
      (active.finish host).2.channel.Leaving draining [] legacy ∧
      (active.finish host).2.isOpen = host.isOpen := by
  cases active with
  | http pending => exact ⟨h, leaving, rfl⟩
  | webSocket conversation =>
    have finished : conversation.Over := h
    have hushed := finished.finish modest host.channel host.now
    have left := leaving.hushed hushed
    rw [WebSocket.Paused.owed_of_told hushed.told] at left
    exact ⟨hushed.over, left, hushed.isOpen_eq⟩

end Active

namespace Connection

/-- A connection that closes behind what was written, and calls the application no more but for
telling it of the end. -/
structure Departing (legacy : Legacy app.Event) (c : Connection app (Active app.Handler)) :
    Prop where
  channel : c.host.channel.Leaving c.draining c.protocol.owed legacy
  finished : c.protocol.Over c.draining
  source : c.source.Works
  upgraded_eq : c.protocol.isUpgraded = legacy.upgraded

/-- Between two events it is closed, unless something still waits to be sent. -/
structure Departed (legacy : Legacy app.Event) (c : Connection app (Active app.Handler)) : Prop
    extends Departing legacy c where
  closed_of_empty : c.host.channel.queue = [] → c.isClosed = true

variable {legacy : Legacy app.Event} {c : Connection app (Active app.Handler)} {config : Config}

namespace Departing

/-- If it does not drain, its last write closes it. -/
theorem of_going (h : c.Departing legacy) (going : c.draining = false) : c.Departed legacy := by
  have closing := h.channel.leaves.resolve_left fun waits => by simp [going] at waits
  refine ⟨h, fun empty => ?_⟩
  simp [isClosed, Host.isOpen, closing.closed_of_empty empty]

section

variable (modest : React.Within Action.Modest app.react)

include modest

/-- A WebSocket that is over takes nothing of what is offered. -/
theorem offer (h : c.Departing legacy) {conversation : WebSocket.Paused app.Handler}
    (active : c.protocol = .webSocket conversation) (handovers : Nat) :
    (c.offer (serving app config) handovers).Departing legacy := by
  by_cases nothing : c.inbound = []
  · rwa [offer_of_nil _ nothing]
  · cases closed : c.isClosed with
    | true => rwa [offer_of_closed _ closed]
    | false =>
      obtain ⟨channel, finished, source, upgraded⟩ := h
      rw [active] at channel finished upgraded
      have ended : conversation.Over := finished
      have shown : (c.host.record (.window c.inbound)).channel.Leaving c.draining
          conversation.owed legacy := channel.occasion rfl
      obtain ⟨after, took, hushed⟩ := ended.takeFrames modest
        (c.host.record (.window c.inbound)).channel (c.host.record (.window c.inbound)).now
        c.inbound
      have consumed := Active.consume_webSocket config conversation c.inbound
        (c.host.record (.window c.inbound))
      rw [← active] at consumed
      simp only [took] at consumed
      rw [offer_of_open (serving app config) nothing closed _ consumed]
      exact ⟨(shown.hushed hushed).drains, hushed.over, source, upgraded⟩

theorem process (h : c.Departing legacy) : (c.process (serving app config)).Departing legacy := by
  unfold Connection.process
  split
  · exact ⟨h.channel, h.finished, h.source, h.upgraded_eq⟩
  · rename_i goesOn
    cases active : c.protocol with
    | http pending =>
      have drains := h.finished
      rw [active] at drains
      exact absurd drains goesOn
    | webSocket conversation => exact h.offer modest active _

theorem endOfStream (h : c.Departing legacy) :
    (c.endOfStream (serving app config)).Departing legacy := by
  have shown : (c.host.record .peerClosed).channel.Leaving true c.protocol.owed legacy :=
    h.channel.drains.occasion rfl
  obtain ⟨finished, leaving, -⟩ := h.finished.drains.finish modest shown
  obtain ⟨-, told, upgraded⟩ := Active.over_finish c.protocol (c.host.record .peerClosed)
  refine ⟨?_, finished, h.source, upgraded.trans h.upgraded_eq⟩
  show (c.protocol.finish (c.host.record .peerClosed)).2.channel.Leaving true
    (c.protocol.finish (c.host.record .peerClosed)).1.owed legacy
  rwa [told]

end

theorem closeIfDrained (h : c.Departing legacy) : c.closeIfDrained.Departed legacy := by
  unfold Connection.closeIfDrained
  cases drains : c.draining with
  | false => exact h.of_going drains
  | true =>
    cases queue : c.host.channel.queue with
    | cons job jobs =>
      simp only [Channel.hasPending, queue, List.isEmpty_cons, Bool.not_false, Bool.not_true,
        Bool.and_false, Bool.false_eq_true, if_false]
      refine ⟨h, fun empty => ?_⟩
      rw [queue] at empty
      cases empty
    | nil =>
      simp only [Channel.hasPending, queue, List.isEmpty_nil, Bool.not_true, Bool.not_false,
        Bool.and_true, if_true]
      have channel := h.channel
      have finished := h.finished
      rw [drains] at channel finished
      refine ⟨⟨?_, ?_, h.source, h.upgraded_eq⟩, fun _ => ?_⟩
      · show (c.host.channel.close).Leaving c.draining c.protocol.owed legacy
        rw [drains]
        exact channel.close queue
      · show c.protocol.Over c.draining
        rwa [drains]
      · show (!c.host.close.isOpen) = true
        rw [Host.isOpen_close]
        rfl

theorem settle (h : c.Departing legacy) (writable : Bool) :
    (c.settle writable).Departed legacy := by
  unfold Connection.settle
  cases writable with
  | false => exact h.closeIfDrained
  | true =>
    have flushed : ({ c with host := c.host.flush } : Connection app _).Departing legacy :=
      ⟨h.channel.flush, h.finished, h.source, h.upgraded_eq⟩
    exact flushed.closeIfDrained

end Departing

namespace Departed

section

variable (modest : React.Within Action.Modest app.react)

include modest

theorem onEvent (h : c.Departed legacy) {event : Readiness} (stays : event.hangup = false) :
    (c.onEvent (serving app config) event).Departed legacy := by
  unfold Connection.onEvent
  rw [stays]
  split
  · exact h
  · simp only [Bool.false_eq_true, if_false]
    split
    · obtain ⟨works, later⟩ := h.source.readAll c.chunk []
      generalize c.source.readAll c.chunk [] = read at works later ⊢
      obtain ⟨readEnd, bytes, source⟩ := read
      have reads : ({ c with source, inbound := c.inbound ++ bytes } :
          Connection app _).Departing legacy := ⟨h.channel, h.finished, later, h.upgraded_eq⟩
      cases readEnd with
      | more => exact (reads.process modest).settle _
      | ended => exact ((reads.process modest).endOfStream modest).settle _
      | failed => exact absurd rfl works
    · exact h.toDeparting.settle _

theorem onTimer (h : c.Departed legacy) (now : Nat) :
    (c.onTimer (serving app config) now).Departed legacy := by
  unfold Connection.onTimer
  split
  · exact h
  · rename_i goesOn
    simp only [Bool.or_eq_true, not_or, Bool.not_eq_true] at goesOn
    refine Departing.closeIfDrained ?_
    obtain ⟨channel, finished, source, upgraded⟩ := h.toDeparting
    cases active : c.protocol with
    | http pending =>
      rw [active, goesOn.1] at finished
      cases finished
    | webSocket conversation =>
      rw [active] at channel finished upgraded
      have ended : conversation.Over := finished
      have shown : (c.host.record .timer).channel.Leaving c.draining conversation.owed legacy :=
        channel.occasion rfl
      have hushed := ended.onTimer modest (c.host.record .timer).channel
        (c.host.record .timer).now now
      exact ⟨shown.hushed hushed, hushed.over, source, upgraded⟩

/-- When a connection is torn down that is closed, what is still owed is told, and nothing more. -/
theorem tearDown (config : Config) (h : c.Departed legacy) (closed : c.isClosed = true) :
    acceptedIn (c.tearDown (serving app config)).host.channel.trace = legacy.written ∧
      callsIn (c.tearDown (serving app config)).host.channel.trace = legacy.calls ∧
      (c.tearDown (serving app config)).isClosed = true := by
  have closedHost : c.host.isOpen = false := by simpa [isClosed] using closed
  have same : c.close = c := by rw [Connection.close, Host.close_of_closed closedHost]
  have shown : (c.host.record .tornDown).channel.Leaving c.draining c.protocol.owed legacy :=
    h.channel.occasion rfl
  obtain ⟨-, leaving, isOpen⟩ := h.finished.finish modest shown
  have shut : (c.protocol.finish (c.host.record .tornDown)).2.isOpen = false :=
    isOpen.trans closedHost
  have torn : (c.tearDown (serving app config)).host =
      (c.protocol.finish (c.host.record .tornDown)).2 := by
    unfold Connection.tearDown
    rw [same]
    rfl
  rw [isClosed, torn, shut]
  exact ⟨leaving.sent shut, (List.append_nil _).symm.trans leaving.calls_eq, rfl⟩

end

/-- An action on a WebSocket that is over comes to nothing. -/
theorem act (h : c.Departed legacy) {action : Action app.Event} (modest : action.Modest) :
    (c.meet config (.act action)).Departed legacy := by
  obtain ⟨⟨channel, finished, source, upgraded⟩, closed⟩ := h
  simp only [meet]
  cases active : c.protocol with
  | http pending =>
    rw [active] at channel finished upgraded
    exact ⟨⟨channel, finished, source, upgraded⟩, closed⟩
  | webSocket conversation =>
    rw [active] at channel finished upgraded
    have ended : conversation.Over := finished
    obtain ⟨keepalive, performed⟩ := ended.perform modest c.host.channel c.host.now
    simp only [Active.act, Active.resume, performed]
    exact ⟨⟨channel, ⟨ended.closing, ended.known⟩, source, upgraded⟩, closed⟩

theorem withWire (h : c.Departed legacy) {wire : Wire} (sustaining : wire.Sustaining) :
    Departed legacy { c with host := { c.host with channel := { c.host.channel with wire } } } :=
  ⟨⟨h.channel.withWire sustaining, h.finished, h.source, h.upgraded_eq⟩, h.closed_of_empty⟩

theorem withSource (h : c.Departed legacy) {source : Source} (works : source.Works) :
    Departed legacy { c with source } :=
  ⟨⟨h.channel, h.finished, works, h.upgraded_eq⟩, h.closed_of_empty⟩

theorem withHost (h : c.Departed legacy) {host : Host app}
    (same : host.channel = c.host.channel) : Departed legacy { c with host } := by
  refine ⟨⟨?_, h.finished, h.source, h.upgraded_eq⟩, ?_⟩
  · simpa only [same] using h.channel
  · simpa only [isClosed, Host.isOpen, same] using h.closed_of_empty

end Departed
end Connection
end WebServer

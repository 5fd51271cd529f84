import WebServer.Proofs.Stream.Offers
import WebServer.Server.Checking

/-!
# What a connection goes through

What happens to a connection in its life is a list of episodes. A protocol may hold more in its
states than another one and do the same (`Protocol.Extends`); then a connection goes through the
same with the one and with the other, if what is held in addition is forgotten
(`forgetting_undergo`). So nothing is different about a connection whose protocol remembers its
failures.
-/
namespace WebServer

variable {app : App} {π ρ : Type}

/-- Something that a connection goes through. -/
inductive Episode (app : App) (π : Type) where
  /-- The socket becomes ready. -/
  | ready (event : Readiness)
  | timer (now : Nat)
  /-- Waiting for the socket fails. -/
  | hangUp
  /-- Somebody asks to see whether everything was sent. -/
  | woken
  /-- Bytes arrive, or the end of the stream, and reads are answered in other ways. -/
  | source (source : Source)
  | wire (wire : Wire)
  | clock (now : Nat)
  | tables (tables : app.Tables)
  /-- Somebody writes, flushes or closes through a handle of the connection. -/
  | work (tasks : List (Task app.Event))
  /-- The protocol changes through something that others share with it. -/
  | altered (next : π)

/-- The same episode for protocols with other states. -/
def Episode.map (f : π → ρ) : Episode app π → Episode app ρ
  | .ready event => .ready event
  | .timer now => .timer now
  | .hangUp => .hangUp
  | .woken => .woken
  | .source later => .source later
  | .wire later => .wire later
  | .clock now => .clock now
  | .tables later => .tables later
  | .work tasks => .work tasks
  | .altered next => .altered (f next)

/-- A protocol that does what another one does, while its states hold more. -/
structure Protocol.Extends (wide : Protocol app ρ) (forget : ρ → π) (protocol : Protocol app π) :
    Prop where
  handovers : wide.handovers = protocol.handovers
  consume : ∀ {p window host}, protocol.consume (forget p) window host =
    (⟨(wide.consume p window host).1.used, forget (wide.consume p window host).1.protocol,
      (wide.consume p window host).1.move⟩, (wide.consume p window host).2)
  peerClosed : ∀ {p host}, protocol.peerClosed (forget p) host =
    (forget (wide.peerClosed p host).1, (wide.peerClosed p host).2)
  timer : ∀ {p now host}, protocol.timer (forget p) now host =
    (forget (wide.timer p now host).1, (wide.timer p now host).2)

namespace Connection

def undergo (protocol : Protocol app π) (c : Connection app π) :
    Episode app π → Connection app π
  | .ready event => c.onEvent protocol event
  | .timer now => c.onTimer protocol now
  | .hangUp => c.hangUp protocol
  | .woken => c.closeIfDrained
  | .source source => { c with source }
  | .wire wire => { c with host := { c.host with channel := { c.host.channel with wire } } }
  | .clock now => { c with host := { c.host with now } }
  | .tables tables => { c with host := { c.host with tables } }
  | .work tasks => { c with host := { c.host with channel := c.host.channel.run tasks } }
  | .altered next => { c with protocol := next }

def undergoAll (protocol : Protocol app π) (c : Connection app π)
    (episodes : List (Episode app π)) : Connection app π := episodes.foldl (undergo protocol) c

/-- The connection with what is left of the state of its protocol. -/
def forgetting (forget : ρ → π) (c : Connection app ρ) : Connection app π where
  host := c.host
  source := c.source
  inbound := c.inbound
  protocol := forget c.protocol
  draining := c.draining
  readClosed := c.readClosed
  chunk := c.chunk

section Forgetting

variable {wide : Protocol app ρ} {forget : ρ → π} {protocol : Protocol app π}
  (same : wide.Extends forget protocol) (c : Connection app ρ)

include same

/-- One turn of offering a window. -/
theorem forgetting_turn {window : Bytes} (inbound : c.inbound = window) (some : window ≠ [])
    (opened : ¬ c.isClosed = true) {said : Consumed ρ} {host : Host app}
    (taken : wide.consume c.protocol window (c.host.record (.window window)) = (said, host))
    (handovers : Nat) :
    (c.forgetting forget).offer protocol handovers =
      let next := { c.forgetting forget with host, protocol := forget said.protocol }
      match said.used, said.move with
      | used, .wait => { next with inbound := window.drop used }
      | _, .close => { next with inbound := [], draining := true }
      | used + 1, .switch =>
        offer protocol { next with inbound := window.drop (used + 1) } protocol.handovers
      | 0, .switch =>
        match handovers with
        | 0 => next
        | handovers + 1 => offer protocol next handovers := by
  subst inbound
  have consumed := @Protocol.Extends.consume _ _ _ _ _ _ same c.protocol c.inbound
    (c.host.record (.window c.inbound))
  rw [taken] at consumed
  obtain ⟨used, later, move⟩ := said
  refine (offer_of_open protocol (c := c.forgetting forget) some (Bool.eq_false_iff.2 opened)
    handovers consumed).trans ?_
  cases move with
  | wait | close => rfl
  | switch =>
    cases used with
    | zero => cases handovers <;> rfl
    | succ used => rfl

theorem forgetting_offer (handovers : Nat) :
    (c.offer wide handovers).forgetting forget =
      (c.forgetting forget).offer protocol handovers := by
  fun_induction offer wide c handovers with
  | case1 c handovers nothing => exact (offer_of_nil protocol nothing handovers).symm
  | case2 c handovers b bs inbound closed => exact (offer_of_closed protocol closed handovers).symm
  | case3 c handovers b bs inbound opened said host taken next waits =>
    rw [forgetting_turn same c inbound (List.cons_ne_nil b bs) opened taken, waits]
    rfl
  | case4 c handovers b bs inbound opened said host taken next closes =>
    rw [forgetting_turn same c inbound (List.cons_ne_nil b bs) opened taken, closes]
    rfl
  | case5 c handovers b bs inbound opened said host taken next used used_eq switches ih =>
    rw [forgetting_turn same c inbound (List.cons_ne_nil b bs) opened taken, switches, used_eq,
      ← same.handovers]
    exact ih
  | case6 c b bs inbound opened said host taken next used_eq switches =>
    rw [forgetting_turn same c inbound (List.cons_ne_nil b bs) opened taken, switches, used_eq]
    simp [forgetting, inbound, next]
  | case7 c b bs inbound opened said host taken next used_eq switches handovers ih =>
    rw [forgetting_turn same c inbound (List.cons_ne_nil b bs) opened taken, switches, used_eq]
    rw [ih]
    simp [forgetting, inbound, next]

theorem forgetting_process :
    (c.process wide).forgetting forget = (c.forgetting forget).process protocol := by
  unfold process
  by_cases draining : c.draining = true
  · rw [if_pos draining, if_pos (show (c.forgetting forget).draining = true from draining)]
    rfl
  · rw [if_neg draining, if_neg (show ¬ (c.forgetting forget).draining = true from draining),
      ← same.handovers]
    exact forgetting_offer same c _

theorem forgetting_tellPeerClosed :
    (c.tellPeerClosed wide).forgetting forget =
      (c.forgetting forget).tellPeerClosed protocol := by
  simp only [tellPeerClosed, forgetting, same.peerClosed]

theorem forgetting_hangUp :
    (c.hangUp wide).forgetting forget = (c.forgetting forget).hangUp protocol :=
  congrArg close (forgetting_tellPeerClosed same c)

theorem forgetting_endOfStream :
    (c.endOfStream wide).forgetting forget = (c.forgetting forget).endOfStream protocol :=
  forgetting_tellPeerClosed same { c with readClosed := true, draining := true, inbound := [] }

omit same in
theorem forgetting_closeIfDrained :
    c.closeIfDrained.forgetting forget = (c.forgetting forget).closeIfDrained := by
  unfold closeIfDrained
  exact apply_ite (forgetting forget) _ _ _

omit same in
theorem forgetting_settle (writable : Bool) :
    (c.settle writable).forgetting forget = (c.forgetting forget).settle writable := by
  cases writable with
  | false => exact forgetting_closeIfDrained c
  | true => exact forgetting_closeIfDrained { c with host := c.host.flush }

theorem forgetting_onEvent (event : Readiness) :
    (c.onEvent wide event).forgetting forget = (c.forgetting forget).onEvent protocol event := by
  unfold onEvent
  by_cases closed : c.isClosed = true
  · rw [if_pos closed, if_pos (show (c.forgetting forget).isClosed = true from closed)]
  · rw [if_neg closed, if_neg (show ¬ (c.forgetting forget).isClosed = true from closed)]
    by_cases hangup : event.hangup = true
    · rw [if_pos hangup, if_pos hangup]
      exact forgetting_hangUp same c
    · rw [if_neg hangup, if_neg hangup]
      by_cases reads : (event.readable && !c.readClosed) = true
      · rw [if_pos reads,
          if_pos (show (event.readable && !(c.forgetting forget).readClosed) = true from reads),
          show (c.forgetting forget).source = c.source from rfl,
          show (c.forgetting forget).chunk = c.chunk from rfl]
        generalize c.source.readAll c.chunk [] = read
        obtain ⟨readEnd, bytes, source⟩ := read
        have processed := forgetting_process same { c with source, inbound := c.inbound ++ bytes }
        cases readEnd with
        | more => exact (forgetting_settle _ _).trans (congrArg (settle · event.writable) processed)
        | ended =>
          refine (forgetting_settle _ _).trans (congrArg (settle · event.writable) ?_)
          exact (forgetting_endOfStream same _).trans (congrArg (endOfStream protocol) processed)
        | failed => exact forgetting_hangUp same _
      · rw [if_neg reads,
          if_neg (show ¬ (event.readable && !(c.forgetting forget).readClosed) = true from reads)]
        exact forgetting_settle c _

theorem forgetting_onTimer (now : Nat) :
    (c.onTimer wide now).forgetting forget = (c.forgetting forget).onTimer protocol now := by
  unfold onTimer
  by_cases rests : (c.draining || c.isClosed) = true
  · rw [if_pos rests, if_pos (show ((c.forgetting forget).draining ||
      (c.forgetting forget).isClosed) = true from rests)]
  · rw [if_neg rests, if_neg (show ¬ ((c.forgetting forget).draining ||
      (c.forgetting forget).isClosed) = true from rests)]
    refine (forgetting_closeIfDrained _).trans (congrArg closeIfDrained ?_)
    simp only [forgetting, same.timer]

/-- A connection goes through the same with the one protocol and with the other. -/
theorem forgetting_undergo (place : π → ρ) (placed : ∀ next, forget (place next) = next)
    (episode : Episode app π) :
    (c.undergo wide (episode.map place)).forgetting forget =
      (c.forgetting forget).undergo protocol episode := by
  cases episode with
  | ready event => exact forgetting_onEvent same c event
  | timer now => exact forgetting_onTimer same c now
  | hangUp => exact forgetting_hangUp same c
  | woken => exact forgetting_closeIfDrained c
  | source | wire | clock | tables | work => rfl
  | altered next => simp only [Episode.map, undergo, forgetting, placed]

end Forgetting

/-- A connection goes through the same whether or not its protocol remembers that it failed. -/
theorem forgetting_undergo_watched (protocol : Protocol app π)
    (fails : π → Bytes → Host app → Bool) (c : Connection app (π × Bool))
    (episode : Episode app π) :
    (c.undergo (protocol.watched fails)
      (episode.map fun next => (next, c.protocol.2))).forgetting Prod.fst =
        (c.forgetting Prod.fst).undergo protocol episode := by
  have same : (protocol.watched fails).Extends Prod.fst protocol := ⟨rfl, rfl, rfl, rfl⟩
  exact forgetting_undergo same c (fun next => (next, c.protocol.2)) (fun _ => rfl) episode

end Connection
end WebServer

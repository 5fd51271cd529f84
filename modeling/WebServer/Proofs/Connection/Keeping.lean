import WebServer.Connection

/-!
# What a connection keeps

A connection does nothing to its protocol and its host but by the functions of the protocol, and by
flushing and closing the channel. So what these keep, every event of the connection keeps.
-/
namespace WebServer

variable {app : App} {π : Type}

/-- A property of the state of a protocol and of its host that the protocol keeps, whatever it is
told, and that stays when the channel is flushed or closed. -/
structure Protocol.Keeps (protocol : Protocol app π) (P : π → Host app → Prop) : Prop where
  consume : ∀ {p host} (window : Bytes), P p host →
    P (protocol.consume p window (host.record (.window window))).1.protocol
      (protocol.consume p window (host.record (.window window))).2
  peerClosed : ∀ {p host}, P p host →
    P (protocol.peerClosed p (host.record .peerClosed)).1
      (protocol.peerClosed p (host.record .peerClosed)).2
  tornDown : ∀ {p host}, P p host →
    P (protocol.tornDown p (host.record .tornDown)).1
      (protocol.tornDown p (host.record .tornDown)).2
  timer : ∀ {p host} (now : Nat), P p host →
    P (protocol.timer p now (host.record .timer)).1 (protocol.timer p now (host.record .timer)).2
  flush : ∀ {p host}, P p host → P p host.flush
  close : ∀ {p host}, P p host → P p host.close

/-- The property holds of the protocol and the host of a connection. -/
def Connection.Has (P : π → Host app → Prop) (c : Connection app π) : Prop := P c.protocol c.host

namespace Protocol.Keeps

variable {protocol : Protocol app π} {P : π → Host app → Prop} (keeps : protocol.Keeps P)
  {c : Connection app π}

include keeps

theorem consumed (h : c.Has P) {window : Bytes} {consumed : Consumed π} {host : Host app}
    (taken : protocol.consume c.protocol window (c.host.record (.window window)) =
      (consumed, host)) : P consumed.protocol host := by
  have kept := keeps.consume window h
  rwa [taken] at kept

theorem offer (h : c.Has P) (handovers : Nat) : (c.offer protocol handovers).Has P := by
  fun_induction Connection.offer protocol c handovers
  case case1 | case2 => exact h
  case case3 taken _ _ | case4 taken _ _ | case6 taken _ _ _ => exact keeps.consumed h taken
  case case5 taken _ _ _ _ ih => exact ih (keeps.consumed h taken)
  case case7 taken _ _ _ _ ih => exact ih (keeps.consumed h taken)

theorem process (h : c.Has P) : (c.process protocol).Has P := by
  unfold Connection.process
  split
  · exact h
  · exact keeps.offer h _

theorem tellPeerClosed (h : c.Has P) : (c.tellPeerClosed protocol).Has P := keeps.peerClosed h

theorem hangUp (h : c.Has P) : (c.hangUp protocol).Has P :=
  keeps.close (keeps.tellPeerClosed h)

theorem endOfStream (h : c.Has P) : (c.endOfStream protocol).Has P := keeps.peerClosed h

theorem closeIfDrained (h : c.Has P) : c.closeIfDrained.Has P := by
  unfold Connection.closeIfDrained
  split
  · exact keeps.close h
  · exact h

theorem settle (h : c.Has P) (writable : Bool) : (c.settle writable).Has P := by
  unfold Connection.settle
  split
  · exact keeps.closeIfDrained (keeps.flush h)
  · exact keeps.closeIfDrained h

theorem onEvent (h : c.Has P) (event : Readiness) : (c.onEvent protocol event).Has P := by
  unfold Connection.onEvent
  split
  · exact h
  · split
    · exact keeps.hangUp h
    · split
      · generalize c.source.readAll c.chunk [] = read
        obtain ⟨readEnd, bytes, source⟩ := read
        have processed : (({ c with source, inbound := c.inbound ++ bytes } :
            Connection app π).process protocol).Has P := keeps.process h
        cases readEnd with
        | more => exact keeps.settle processed _
        | ended => exact keeps.settle (keeps.endOfStream processed) _
        | failed => exact keeps.hangUp h
      · exact keeps.settle h _

theorem onTimer (h : c.Has P) (now : Nat) : (c.onTimer protocol now).Has P := by
  unfold Connection.onTimer
  split
  · exact h
  · exact keeps.closeIfDrained (keeps.timer now h)

theorem tearDown (h : c.Has P) : (c.tearDown protocol).Has P :=
  keeps.tornDown (keeps.close h)

end Protocol.Keeps
end WebServer

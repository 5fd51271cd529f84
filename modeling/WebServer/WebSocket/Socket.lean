import WebServer.Connection.Channel
import WebServer.WebSocket.Keepalive
import WebServer.WebSocket.Script

/-!
# Sockets

The sending side of a WebSocket: it sends frames, starts the closing handshake and keeps the
connection alive. Closing starts at most once; from then on no frame is sent and no keepalive runs.
-/
namespace WebServer.WebSocket

structure Session where
  keepalive : Option Keepalive := none
  closing : Bool := false
  /-- The code and reason of a close from this side, until the handler is told. -/
  notice : Option (CloseCode × String) := none
  deriving DecidableEq, Repr

/-- A session together with its connection and the clock. -/
structure Socket (ε : Type) where
  session : Session := {}
  channel : Channel ε
  now : Nat := 0
  deriving DecidableEq, Repr

namespace Socket

variable {ε : Type}

def isOpen (s : Socket ε) : Bool := !s.session.closing && s.channel.isOpen

def note (s : Socket ε) (event : ε) : Socket ε := { s with channel := s.channel.note event }

def record (s : Socket ε) (signal : Signal ε) : Socket ε :=
  { s with channel := s.channel.record signal }

/-- Hands a frame to the channel. -/
def handOver (s : Socket ε) (frame : Frame) (after : Completion ε) : Socket ε :=
  { s with channel := (s.channel.record (.framed frame)).writeThen frame.encode after }

/-- Sends a frame, unless its payload is too long for its kind or the socket is closing. -/
def send (s : Socket ε) (frame : Frame) (after : Completion ε) : Except Misuse (Socket ε) :=
  if frame.opcode.isControl && controlLimit < frame.payload.length then
    .error (.payloadTooLong frame.payload.length)
  else if s.session.closing then .error .closed
  else .ok (s.handOver frame after)

/-- Stops the keepalive for good and sends the close frame. Once that is out, the connection
closes. The handler is still to be told of a close from this side. -/
def beginClosing (s : Socket ε) (origin : Origin) (code : CloseCode) (reason : String)
    (payload : Bytes) : Socket ε :=
  let notice := if origin = .here then some (code, reason) else s.session.notice
  let closing := { s.record (.closing origin code reason) with
    session := { keepalive := none, closing := true, notice } }
  closing.handOver ⟨true, .close, payload⟩ (.close .done)

/-- Starts the closing handshake. On a socket that is closing already this does nothing. -/
def close (s : Socket ε) (code : CloseCode) (reason : String) : Except Misuse (Socket ε) :=
  let length := reason.utf8ByteSize
  if reasonLimit < length then .error (.reasonTooLong length)
  else if s.session.closing then .ok s
  else .ok (s.beginClosing .here code reason (code.payload reason))

/-- Answers the peer's close frame, which says this code and reason, with its own payload. -/
def echoClose (s : Socket ε) (code : CloseCode) (reason : String) (payload : Bytes) :
    Socket ε :=
  if s.session.closing then s else s.beginClosing .peer code reason payload

/-- Starts a keepalive in place of any other. -/
def setAutoPing (s : Socket ε) (interval timeout : Nat) : Except Misuse (Socket ε) :=
  if interval = 0 then .error .zeroInterval
  else if s.session.closing then .error .closed
  else
    let keepalive := some (Keepalive.start s.now interval timeout)
    .ok { s with session := { s.session with keepalive } }

def cancelAutoPing (s : Socket ε) : Socket ε :=
  { s with session := { s.session with keepalive := none } }

/-- When the last ping was sent and the last pong came. -/
def stats (s : Socket ε) : Option (Option Nat × Option Nat) :=
  s.session.keepalive.map fun k => (k.lastPing, k.lastPong)

def deadline (s : Socket ε) : Option Nat := s.session.keepalive.map Keepalive.deadline

/-- What the keepalive asks for at a time. -/
def tick (s : Socket ε) (now : Nat) : Tick × Socket ε :=
  match s.session.keepalive with
  | none => (.idle, s)
  | some k =>
    let (tick, k) := k.tick now
    (tick, { s with session := { s.session with keepalive := some k } })

def pongReceived (s : Socket ε) : Socket ε :=
  let keepalive := s.session.keepalive.map (·.pongReceived s.now)
  { s with session := { s.session with keepalive } }

/-- The socket is closed for good. Gives the notice of a close from this side, if there is one that
was not taken before. -/
def takeNotice (s : Socket ε) : Option (CloseCode × String) × Socket ε :=
  (s.session.notice, { s with session := { keepalive := none, closing := true, notice := none } })

/-- The outcome of something that may be refused. What is refused changes nothing. -/
def attempt (s : Socket ε) : Except Misuse (Socket ε) → Outcome × Socket ε
  | .ok s => (.done, s)
  | .error fault => (.refused fault, s)

/-- Performs an action of a handler. -/
def perform (s : Socket ε) : Action ε → Outcome × Socket ε
  | .send frame after => s.attempt (s.send frame after)
  | .close code reason => s.attempt (s.close code reason)
  | .setAutoPing interval timeout => s.attempt (s.setAutoPing interval timeout)
  | .cancelAutoPing => (.done, s.cancelAutoPing)
  | .write data after => (.done, { s with channel := s.channel.writeThen data after })
  | .closeConnection => (.done, { s with channel := s.channel.close })
  | .isOpen => (.isOpen s.isOpen, s)
  | .stats => (.stats s.stats, s)

end Socket

/-- How a script ends. -/
inductive Ending (σ : Type) where
  | returned (state : σ)
  | panicked (state : σ)
  deriving DecidableEq, Repr

/-- The state that the handler is left in. -/
def Ending.state {σ : Type} : Ending σ → σ
  | .returned state | .panicked state => state

/-- Runs a script on a socket. -/
def Script.run {ε σ : Type} (s : Socket ε) : Script ε σ → Ending σ × Socket ε
  | .done state => (.returned state, s)
  | .panic state => (.panicked state, s)
  | .note event next => run (s.note event) next
  | .act action next =>
    let (outcome, s) := s.perform action
    run s (next outcome)

end WebServer.WebSocket

import WebServer.WebSocket.Socket

/-!
# Conversations

A WebSocket from its opening to its end: frames become messages, messages become calls of the
handler, and whatever ends the conversation is told to the handler once. A frame that breaks the
rules ends it with a code for the kind of fault.
-/
namespace WebServer.WebSocket

/-- A fault of the peer that ends the conversation. -/
inductive Violation where
  | frame (fault : FrameFault)
  /-- A new message begins before the last one ended. -/
  | interrupted
  /-- A continuation without a message to continue. -/
  | nothingToContinue
  | messageTooBig
  | notUtf8
  deriving DecidableEq, Repr

namespace Violation

def code : Violation → CloseCode
  | .frame fault => fault.closeCode
  | .interrupted | .nothingToContinue => .protocolError
  | .messageTooBig => .tooBig
  | .notUtf8 => .invalidPayload

def reason : Violation → String
  | .frame fault => fault.message
  | .interrupted => "data frame inside a fragmented message"
  | .nothingToContinue => "continuation without a message in progress"
  | .messageTooBig => "message too big"
  | .notUtf8 => "text is not UTF-8"

end Violation

/-- What a handler does when it is called back. -/
abbrev React (ε σ : Type) := σ → Callback → Script ε σ

structure Conversation (ε σ : Type) where
  socket : Socket ε
  handler : σ
  /-- The opcode of a message that is still incomplete, and what has come of it. -/
  assembling : Option (Opcode × Bytes) := none
  /-- The most bytes that a message may have. -/
  limit : Nat
  /-- The handler was told of the end. -/
  closeNotified : Bool := false

namespace Conversation

variable {ε σ : Type}

/-- Closes with a code and a reason, unless the reason is too long. -/
def close (c : Conversation ε σ) (code : CloseCode) (reason : String) : Conversation ε σ :=
  { c with socket := (c.socket.attempt (c.socket.close code reason)).2 }

/-- Calls the handler. If it panics, the socket closes. -/
def call (react : React ε σ) (c : Conversation ε σ) (callback : Callback) : Conversation ε σ :=
  let (ending, socket) := (react c.handler callback).run (c.socket.record (.callback callback))
  let c := { c with socket, handler := ending.state }
  match ending with
  | .returned _ => c
  | .panicked _ => c.close .internal "internal error"

/-- Tells the handler of the end, the first time. -/
def notifyClose (react : React ε σ) (c : Conversation ε σ) (code : CloseCode) (reason : String) :
    Conversation ε σ :=
  if c.closeNotified then c
  else call react { c with closeNotified := true } (.closed code reason)

/-- If this side began to close, tells the handler. -/
def settle (react : React ε σ) (c : Conversation ε σ) : Conversation ε σ :=
  if !c.socket.session.closing then c
  else
    let (notice, socket) := c.socket.takeNotice
    let c := { c with socket }
    match notice with
    | some (code, reason) => c.notifyClose react code reason
    | none => c

/-- Ends the conversation because of a fault of the peer. -/
def fail (react : React ε σ) (c : Conversation ε σ) (violation : Violation) :
    Conversation ε σ :=
  (c.close violation.code violation.reason).settle react

/-- Tells the handler that the conversation begins. -/
def start (react : React ε σ) (c : Conversation ε σ) : Conversation ε σ :=
  (c.call react .opened).settle react

/-- The message that a complete payload is. -/
def toMessage (opcode : Opcode) (payload : Bytes) : Except Violation Message :=
  if opcode = .text then
    match Text.decode? payload with
    | none => .error .notUtf8
    | some text => .ok (.text text)
  else .ok (.binary payload)

/-- Hands a complete message to the handler. -/
def deliver (react : React ε σ) (c : Conversation ε σ) (opcode : Opcode) (payload : Bytes) :
    Conversation ε σ :=
  match toMessage opcode payload with
  | .error violation => c.fail react violation
  | .ok message => c.call react (.message message)

/-- Adds a payload to the message that is still incomplete. -/
def gather (react : React ε σ) (c : Conversation ε σ) (opcode : Opcode) (done payload : Bytes)
    (fin : Bool) : Conversation ε σ :=
  if c.limit < done.length + payload.length then c.fail react .messageTooBig
  else if fin then deliver react { c with assembling := none } opcode (done ++ payload)
  else { c with assembling := some (opcode, done ++ payload) }

/-- Takes a frame of the peer. -/
def onFrame (react : React ε σ) (c : Conversation ε σ) (frame : Frame) : Conversation ε σ :=
  match frame.opcode, c.assembling with
  | .text, some _ | .binary, some _ => c.fail react .interrupted
  | .text, none | .binary, none =>
    if frame.fin then c.deliver react frame.opcode frame.payload
    else c.gather react frame.opcode [] frame.payload false
  | .continuation, none => c.fail react .nothingToContinue
  | .continuation, some (opcode, done) => c.gather react opcode done frame.payload frame.fin
  | .close, _ =>
    match CloseCode.ofPayload? frame.payload with
    | none => c.fail react (.frame .badClosePayload)
    | some (code, reason) =>
      let socket := c.socket.echoClose code reason frame.payload
      notifyClose react { c with socket } code reason
  | .ping, _ => c.call react (.ping frame.payload)
  | .pong, _ => call react { c with socket := c.socket.pongReceived } (.pong frame.payload)

/-- Takes frames from the window until the conversation is over or no whole frame is left. Gives
the bytes that are left; `none` once it is over. -/
def takeFrames (react : React ε σ) (c : Conversation ε σ) (window : Bytes) :
    Option Bytes × Conversation ε σ :=
  let c := c.settle react
  if c.socket.session.closing then (none, c)
  else
    match _h : Frame.decode c.limit window with
    | .error fault => (none, c.fail react (.frame fault))
    | .ok none => (some window, c)
    | .ok (some (frame, used)) => takeFrames react (c.onFrame react frame) (window.drop used)
termination_by window.length
decreasing_by
  have := Frame.decode_used _h
  simp only [List.length_drop]; omega

/-- The peer is gone. Without a notice of a close from this side, the handler hears of an abnormal
end. -/
def finish (react : React ε σ) (c : Conversation ε σ) : Conversation ε σ :=
  let (notice, socket) := c.socket.takeNotice
  let (code, reason) := notice.getD (.abnormal, "")
  notifyClose react { c with socket } code reason

/-- Does what is due: sends a ping, or gives up on a peer that does not answer. -/
def onTimer (react : React ε σ) (c : Conversation ε σ) (now : Nat) : Conversation ε σ :=
  let (tick, socket) := c.socket.tick now
  let c := { c with socket }
  settle react <| match tick with
    | .idle => c
    | .ping => { c with socket := (socket.perform (.ping [])).2 }
    | .timedOut => c.close .normal "ping timeout"

end Conversation

/-- A conversation between two events, while the connection keeps the channel and the clock. -/
structure Paused (σ : Type) where
  session : Session
  handler : σ
  assembling : Option (Opcode × Bytes)
  limit : Nat
  closeNotified : Bool
  deriving DecidableEq, Repr

def Conversation.pause {ε σ : Type} (c : Conversation ε σ) : Paused σ where
  session := c.socket.session
  handler := c.handler
  assembling := c.assembling
  limit := c.limit
  closeNotified := c.closeNotified

def Paused.resume {ε σ : Type} (p : Paused σ) (channel : Channel ε) (now : Nat) :
    Conversation ε σ where
  socket := { session := p.session, channel, now }
  handler := p.handler
  assembling := p.assembling
  limit := p.limit
  closeNotified := p.closeNotified

end WebServer.WebSocket

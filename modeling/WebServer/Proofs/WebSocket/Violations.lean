import WebServer.Proofs.Stream.Offers
import WebServer.Proofs.Text.Utf8
import WebServer.Proofs.WebSocket.Onward

/-!
# Violations of the protocol

A stream of frames goes on until the first one that breaks a rule; `Offends` says which rule that
is. Then the conversation is over (`violation_ends`), however the stream is cut: one close frame is
written, with a code for the kind of fault, the handler is told of it once, and what stands behind
in the stream is not looked at.
-/
namespace WebServer

variable {ε σ : Type}

namespace WebSocket

/-- The number of the code with which a violation is answered. -/
def Violation.number : Violation → UInt16
  | .frame (.tooBig ..) | .messageTooBig => 1009
  | .notUtf8 => 1007
  | .frame _ | .interrupted | .nothingToContinue => 1002

theorem Violation.code_eq (violation : Violation) :
    violation.code = .ofCode violation.number ∧ violation.code.code = violation.number := by
  cases violation with
  | frame fault => cases fault <;> exact ⟨rfl, rfl⟩
  | interrupted | nothingToContinue | messageTooBig | notUtf8 => exact ⟨rfl, rfl⟩

/-- The close frame that answers a violation. -/
def Violation.answer (violation : Violation) : Frame :=
  ⟨true, .close, Bytes.ofNatBE 2 violation.number.toNat ++ Text.encode violation.reason⟩

theorem Violation.answer_eq (violation : Violation) :
    violation.answer = ⟨true, .close, violation.code.payload violation.reason⟩ := by
  rw [answer, CloseCode.payload, violation.code_eq.2]

/-- The frame at the beginning of these bytes breaks a rule, with a message in progress or not. -/
inductive Offends (limit : Nat) : Option (Opcode × Bytes) → Bytes → Violation → Prop where
  /-- The frame breaks a rule for frames, before its payload is there. -/
  | frame {progress : Option (Opcode × Bytes)} {bytes : Bytes} {fault : FrameFault}
    (breaks : Frame.Breaks limit bytes fault) : Offends limit progress bytes (.frame fault)
  | badClosePayload {progress : Option (Opcode × Bytes)} {taken rest : Bytes} {half : UInt8}
    (on : Frame.FrameOn limit taken ⟨true, .close, [half]⟩) :
    Offends limit progress (taken ++ rest) (.frame .badClosePayload)
  | interrupted {message : Opcode × Bytes} {opcode : Opcode} {fin : Bool}
    {taken rest payload : Bytes} (on : Frame.FrameOn limit taken ⟨fin, opcode, payload⟩)
    (data : opcode = .text ∨ opcode = .binary) :
    Offends limit (some message) (taken ++ rest) .interrupted
  | nothingToContinue {fin : Bool} {taken rest payload : Bytes}
    (on : Frame.FrameOn limit taken ⟨fin, .continuation, payload⟩) :
    Offends limit none (taken ++ rest) .nothingToContinue
  | messageTooBig {opcode : Opcode} {fin : Bool} {taken rest done payload : Bytes}
    (on : Frame.FrameOn limit taken ⟨fin, .continuation, payload⟩)
    (exceeds : limit < done.length + payload.length) :
    Offends limit (some (opcode, done)) (taken ++ rest) .messageTooBig
  | notUtf8 {taken rest payload : Bytes} (on : Frame.FrameOn limit taken ⟨true, .text, payload⟩)
    (noText : ∀ text, Text.encode text ≠ payload) : Offends limit none (taken ++ rest) .notUtf8
  | joinedNotUtf8 {taken rest done payload : Bytes}
    (on : Frame.FrameOn limit taken ⟨true, .continuation, payload⟩)
    (within : done.length + payload.length ≤ limit)
    (noText : ∀ text, Text.encode text ≠ done ++ payload) :
    Offends limit (some (.text, done)) (taken ++ rest) .notUtf8

/-- A payload is a message, or one that is none because it is not UTF-8. -/
theorem Message.exists_or_noText {opcode : Opcode} (data : opcode = .text ∨ opcode = .binary)
    (payload : Bytes) : (∃ message : Message, opcode = message.opcode ∧ payload = message.bytes) ∨
      opcode = .text ∧ ∀ text, Text.encode text ≠ payload := by
  rcases data with rfl | rfl
  · by_cases known : ∃ text, Text.encode text = payload
    · obtain ⟨text, rfl⟩ := known
      exact .inl ⟨.text text, rfl, rfl⟩
    · exact .inr ⟨rfl, fun text same => known ⟨text, same⟩⟩
  · exact .inl ⟨.binary payload, rfl, rfl⟩

/-- A stream goes on for a while, and then it ends before a frame is whole, or there is a close
frame that can be read, or the first violation. -/
def Resolved (limit : Nat) (progress : Option (Opcode × Bytes)) (bytes : Bytes) : Prop :=
  ∃ before rest callbacks later, bytes = before ++ rest ∧
    GoesOn limit progress before callbacks later ∧
    (Frame.decode limit rest = .ok none ∨
      (∃ taken behind payload said, rest = taken ++ behind ∧
        Frame.FrameOn limit taken ⟨true, .close, payload⟩ ∧
        CloseCode.ofPayload? payload = some said) ∨
      ∃ violation, Offends limit later rest violation)

namespace Resolved

variable {limit : Nat} {progress next : Option (Opcode × Bytes)} {taken rest : Bytes}

theorem of_offends {violation : Violation} (h : Offends limit progress rest violation) :
    Resolved limit progress rest :=
  ⟨[], rest, [], progress, rfl, .here progress, .inr (.inr ⟨violation, h⟩)⟩

theorem behind (h : Resolved limit next rest)
    (goesOn : ∀ {before callbacks later}, GoesOn limit next before callbacks later →
      ∃ callbacks, GoesOn limit progress (taken ++ before) callbacks later) :
    Resolved limit progress (taken ++ rest) := by
  obtain ⟨before, tail, callbacks, later, rfl, onward, ends⟩ := h
  obtain ⟨all, onward'⟩ := goesOn onward
  exact ⟨taken ++ before, tail, all, later, (List.append_assoc ..).symm, onward', ends⟩

/-- Behind a frame with data. -/
theorem of_data {fin : Bool} {opcode : Opcode} {payload : Bytes}
    (data : opcode = .text ∨ opcode = .binary)
    (on : Frame.FrameOn limit taken ⟨fin, opcode, payload⟩) (idle : Resolved limit none rest)
    (begun : Resolved limit (some (opcode, payload)) rest) :
    Resolved limit progress (taken ++ rest) :=
  match progress, fin with
  | some _, _ => .of_offends (.interrupted on data)
  | none, false => begun.behind fun onward => ⟨_, .first on data onward⟩
  | none, true => by
    rcases Message.exists_or_noText data payload with ⟨message, rfl, rfl⟩ | ⟨rfl, noText⟩
    · exact idle.behind fun onward => ⟨_, .whole on onward⟩
    · exact .of_offends (.notUtf8 on noText)

/-- Behind a fragment that is not the first one. -/
theorem of_continuation {fin : Bool} {payload : Bytes}
    (data : ∀ message ∈ progress, message.1 = .text ∨ message.1 = .binary)
    (on : Frame.FrameOn limit taken ⟨fin, .continuation, payload⟩) (idle : Resolved limit none rest)
    (longer : ∀ opcode done, (opcode, done) ∈ progress →
      Resolved limit (some (opcode, done ++ payload)) rest) :
    Resolved limit progress (taken ++ rest) :=
  match progress with
  | none => .of_offends (.nothingToContinue on)
  | some (opcode, done) => by
    rcases Nat.lt_or_ge limit (done.length + payload.length) with exceeds | within
    · exact .of_offends (.messageTooBig on exceeds)
    · cases fin with
      | false => exact (longer opcode done rfl).behind fun onward => ⟨_, .fragment on within onward⟩
      | true =>
        rcases Message.exists_or_noText (data _ rfl) (done ++ payload) with
          ⟨message, rfl, joined⟩ | ⟨rfl, noText⟩
        · exact idle.behind fun onward => ⟨_, .last on within joined onward⟩
        · exact .of_offends (.joinedNotUtf8 on within noText)

end Resolved

/-- Nothing else happens in a stream, as the message in progress is always one of text or of
bytes. -/
theorem resolved (limit : Nat) {progress : Option (Opcode × Bytes)}
    (data : ∀ message ∈ progress, message.1 = .text ∨ message.1 = .binary) (bytes : Bytes) :
    Resolved limit progress bytes := by
  induction hl : bytes.length using Nat.strongRecOn generalizing progress bytes with
  | ind length ih =>
    match decoded : Frame.decode limit bytes with
    | .error fault => exact .of_offends (.frame (Frame.decode_eq_error_iff.1 decoded))
    | .ok none => exact ⟨[], bytes, [], progress, rfl, .here progress, .inl decoded⟩
    | .ok (some (⟨fin, opcode, payload⟩, used)) =>
      obtain ⟨taken, rest, on, rfl, rfl⟩ := Frame.decode_eq_some_iff.1 decoded
      have shorter : rest.length < length := by
        have := Frame.decode_used decoded
        rw [← hl, List.length_append]
        omega
      have control : opcode.isControl = true → fin = true := by
        cases on with
        | of read rules => exact fun control => (rules control).1
      have onward {next : Option (Opcode × Bytes)}
          (data : ∀ message ∈ next, message.1 = .text ∨ message.1 = .binary) :
          Resolved limit next rest := ih rest.length shorter data rest rfl
      have idle : Resolved limit none rest := onward nofun
      cases opcode with
      | ping =>
        obtain rfl := control rfl
        exact (onward data).behind fun onward => ⟨_, .ping on onward⟩
      | pong =>
        obtain rfl := control rfl
        exact (onward data).behind fun onward => ⟨_, .pong on onward⟩
      | close =>
        obtain rfl := control rfl
        cases said : CloseCode.ofPayload? payload with
        | some said' =>
          exact ⟨[], taken ++ rest, [], progress, rfl, .here progress,
            .inr (.inl ⟨taken, rest, payload, said', rfl, on, said⟩)⟩
        | none =>
          match payload with
          | [half] => exact .of_offends (.badClosePayload on)
      | continuation =>
        exact .of_continuation data on idle fun opcode done among =>
          onward fun _ same => by
            obtain rfl := Option.some.inj same
            exact data (opcode, done) among
      | text =>
        exact .of_data (.inl rfl) on idle (onward fun _ same => .inl (by
          obtain rfl := Option.some.inj same
          rfl))
      | binary =>
        exact .of_data (.inr rfl) on idle (onward fun _ same => .inr (by
          obtain rfl := Option.some.inj same
          rfl))

variable {react : React ε σ} {c c' : Conversation ε σ}

/-- A conversation is over because of a violation: the close frame is handed over, and written if
the channel is open for it, the handler is told, and nothing more. -/
structure EndedFor (violation : Violation) (c c' : Conversation ε σ) : Prop where
  finished : c'.socket.session = .finished
  told : c'.closeNotified = true
  callbacks_eq : callbacksIn c'.socket.channel.trace =
    callbacksIn c.socket.channel.trace ++ [.closed (.ofCode violation.number) violation.reason]
  frames_eq : framesIn c'.socket.channel.trace =
    framesIn c.socket.channel.trace ++ [violation.answer]
  wrote : c.socket.channel.isOpen = true →
    (.wrote violation.answer.encode :: .framed violation.answer ::
      .closing .here (.ofCode violation.number) violation.reason :: c.socket.channel.trace) <:+
        c'.socket.channel.trace

namespace Conversation

/-- What the handler does once the conversation is over changes nothing about that. -/
theorem call_of_over (react : React ε σ) {c : Conversation ε σ}
    (finished : c.socket.session = .finished) (callback : Callback) :
    (c.call react callback).socket.session = .finished ∧
      framesIn (c.call react callback).socket.channel.trace =
        framesIn c.socket.channel.trace ∧
      c.socket.channel.trace <:+ (c.call react callback).socket.channel.trace := by
  have moves := @call_moves ε σ {} react react.within_true c callback
  have kept := moves.preserve
    (P := fun st => st.socket.session = .finished ∧
      framesIn st.socket.channel.trace = framesIn c.socket.channel.trace)
    (fun st st' move h =>
      ⟨move.finished h.1, (move.silenced (congrArg Session.closing h.1)).trans h.2⟩)
    ⟨finished, (seenIn_cons _ _).trans (List.append_nil _)⟩
  exact ⟨kept.1, kept.2, (List.suffix_cons _ _).trans moves.grows⟩

/-- A violation closes the socket and tells the handler. -/
theorem fail_eq (react : React ε σ) {c : Conversation ε σ}
    (opened : c.socket.session.closing = false) (untold : c.closeNotified = false)
    {violation : Violation} (fits : violation.reason.utf8ByteSize ≤ reasonLimit) :
    c.fail react violation = call react
      { c with
        socket := (c.socket.beginClosing .here (.ofCode violation.number) violation.reason
          violation.answer.payload).takeNotice.2
        closeNotified := true }
      (.closed (.ofCode violation.number) violation.reason) := by
  have closed : c.close violation.code violation.reason =
      { c with socket := (c.socket.beginClosing .here violation.code violation.reason
          (violation.code.payload violation.reason)) } := by
    simp [close, Socket.close, Nat.not_lt.2 fits, opened, Socket.attempt]
  have payload : violation.code.payload violation.reason = violation.answer.payload :=
    congrArg Frame.payload violation.answer_eq.symm
  rw [fail, closed, payload, violation.code_eq.1]
  simp [settle, notifyClose, untold, Socket.beginClosing, Socket.handOver, Socket.takeNotice]

theorem endedFor_fail (react : React ε σ) {c : Conversation ε σ}
    (opened : c.socket.session.closing = false) (untold : c.closeNotified = false)
    {violation : Violation} (fits : violation.reason.utf8ByteSize ≤ reasonLimit) :
    EndedFor violation c (c.fail react violation) := by
  let begun := c.socket.beginClosing .here (.ofCode violation.number) violation.reason
    violation.answer.payload
  let told : Conversation ε σ := { c with socket := begun.takeNotice.2, closeNotified := true }
  have same : c.fail react violation =
      told.call react (.closed (.ofCode violation.number) violation.reason) :=
    fail_eq react opened untold fits
  obtain ⟨finished, frames, grown⟩ : _ ∧ _ ∧ _ :=
    told.call_of_over react rfl (.closed (.ofCode violation.number) violation.reason)
  have callbacks : callbacksIn begun.channel.trace = callbacksIn c.socket.channel.trace :=
    (c.socket.aside_beginClosing _ _ _ _).callbacks_eq.trans
      ((seenIn_cons _ _).trans (List.append_nil _))
  have framed : framesIn begun.channel.trace =
      framesIn c.socket.channel.trace ++ [violation.answer] := by
    refine (framesIn_run _ _).trans ((seenIn_cons _ _).trans ?_)
    exact congrArg (· ++ [violation.answer]) ((seenIn_cons _ _).trans (List.append_nil _))
  rw [same]
  exact {
    finished
    told := Conversation.closeNotified_call _ _ _
    callbacks_eq := (told.callbacks_call react _).trans (congrArg (· ++ _) callbacks)
    frames_eq := frames.trans framed
    wrote := fun isOpen =>
      List.IsSuffix.trans
        (@Channel.wrote_suffix ε ((c.socket.channel.record
          (.closing .here (.ofCode violation.number) violation.reason)).record
            (.framed violation.answer))
          isOpen violation.answer.encode (.close .done)) grown }

/-- What is over has nothing left to settle. -/
theorem settle_of_over (react : React ε σ) {c : Conversation ε σ}
    (finished : c.socket.session = .finished) : c.settle react = c := by
  obtain ⟨⟨session, channel, now⟩, handler, assembling, limit, told⟩ := c
  obtain rfl : session = .finished := finished
  rfl

/-- A text that is none is not delivered. -/
theorem deliver_of_noText (react : React ε σ) (c : Conversation ε σ) {payload : Bytes}
    (noText : ∀ text, Text.encode text ≠ payload) :
    c.deliver react .text payload = c.fail react .notUtf8 := by
  have refused : toMessage .text payload = .error .notUtf8 := by
    simp [toMessage, Text.decode?_eq_none noText]
  rw [deliver, refused]

end Conversation

namespace Offends

variable {limit : Nat} {progress : Option (Opcode × Bytes)} {wrong : Bytes} {violation : Violation}

/-- What is said of a violation fits a close frame. -/
theorem reason_fits (h : Offends limit progress wrong violation) :
    violation.reason.utf8ByteSize ≤ reasonLimit := by
  cases h with
  | frame breaks => exact message_le_of_decode (Frame.decode_eq_error_iff.2 breaks)
  | badClosePayload | interrupted | nothingToContinue | messageTooBig | notUtf8 | joinedNotUtf8 =>
    decide

/-- The conversation fails because of the violation, and looks at nothing behind it. -/
theorem takeFrames (h : Offends limit progress wrong violation) (react : React ε σ)
    {c : Conversation ε σ} (limit_eq : c.limit = limit) (progress_eq : c.assembling = progress)
    (opened : c.socket.session.closing = false) (untold : c.closeNotified = false) :
    ∃ assembling, c.takeFrames react wrong =
      (none, Conversation.fail react { c with assembling } violation) := by
  have fits := h.reason_fits
  have failing {taken rest : Bytes} {frame : Frame} (assembling : Option (Opcode × Bytes))
      (on : Frame.FrameOn c.limit taken frame)
      (taking : c.onFrame react frame = Conversation.fail react { c with assembling } violation) :
      ∃ assembling, c.takeFrames react (taken ++ rest) =
        (none, Conversation.fail react { c with assembling } violation) := by
    have ended : EndedFor violation { c with assembling }
        (Conversation.fail react { c with assembling } violation) :=
      @Conversation.endedFor_fail ε σ react { c with assembling } opened untold violation fits
    have closed : (Conversation.fail react { c with assembling } violation).socket.session.closing =
        true := congrArg Session.closing ended.finished
    refine ⟨assembling, ?_⟩
    rw [Conversation.takeFrames_cons react opened on, taking, Conversation.takeFrames_eq,
      Conversation.settle_of_over react ended.finished, if_pos closed]
  subst limit_eq
  cases h with
  | frame breaks =>
    refine ⟨c.assembling, ?_⟩
    rw [Conversation.takeFrames_eq, Conversation.settle_of_open opened,
      if_neg (Bool.eq_false_iff.1 opened), Frame.decode_eq_error_iff.2 breaks]
  | badClosePayload on => exact failing c.assembling on rfl
  | @interrupted message opcode fin _ _ payload on data =>
    refine failing c.assembling on ?_
    obtain ⟨socket, handler, _, limit, told⟩ := c
    obtain rfl := progress_eq
    rcases data with rfl | rfl <;> rfl
  | nothingToContinue on =>
    refine failing c.assembling on ?_
    obtain ⟨socket, handler, _, limit, told⟩ := c
    obtain rfl := progress_eq
    rfl
  | @messageTooBig opcode fin _ _ done payload on exceeds =>
    refine failing c.assembling on ?_
    rw [c.onFrame_continuation react progress_eq, Conversation.gather, if_pos exceeds]
  | @notUtf8 _ _ payload on noText =>
    refine failing c.assembling on ?_
    rw [show Opcode.text = (Message.text "").opcode from rfl,
      c.onFrame_message react progress_eq (.text "") true payload, if_pos rfl]
    exact c.deliver_of_noText react noText
  | @joinedNotUtf8 _ _ done payload on within noText =>
    refine failing none on ?_
    rw [c.onFrame_continuation react progress_eq, c.gather_of_le react _ within, if_pos rfl]
    exact Conversation.deliver_of_noText react _ noText

end Offends

end WebSocket

variable {app : App} {π : Type}

/-- Shows a protocol a stream piece by piece, each piece behind what was left of those before, as
long as it waits for more. Then gives the window with which it stopped to wait, and what it said. -/
def Protocol.feed (protocol : Protocol app π) (p : π) (left : Bytes) (host : Host app) :
    List Bytes → Option (Bytes × Consumed π) × Host app
  | [] => (none, host)
  | piece :: pieces =>
    let (consumed, host) := protocol.consume p (left ++ piece) host
    match consumed.move with
    | .wait => feed protocol consumed.protocol ((left ++ piece).drop consumed.used) host pieces
    | .switch | .close => (some (left ++ piece, consumed), host)

namespace WebSocket

/-- A WebSocket that takes no more of the whole stream stops at the first piece with which it knows
that, and takes all that it was shown. -/
theorem feed_of_takeFrames (config : Config) {paused : Paused app.Handler} {host : Host app}
    {left : Bytes} {pieces : List Bytes} {after : Conversation app.Event app.Handler}
    (waits : (paused.resume host.channel host.now).takeFrames app.react left =
      (some left, paused.resume host.channel host.now))
    (whole : (paused.resume host.channel host.now).takeFrames app.react (left ++ pieces.flatten) =
      (none, after)) :
    ∃ window, (serving app config).feed (.webSocket paused) left host pieces =
      (some (window, ⟨window.length, .webSocket after.pause, .close⟩),
        { host with channel := after.socket.channel }) := by
  induction pieces generalizing paused host left with
  | nil =>
    rw [List.flatten_nil, List.append_nil, waits] at whole
    cases whole
  | cons piece pieces ih =>
    rw [List.flatten_cons, ← List.append_assoc, Conversation.takeFrames_append] at whole
    have again := Conversation.takeFrames_append app.react (paused.resume host.channel host.now)
      (left ++ piece) []
    have clock := Conversation.now_takeFrames app.react (paused.resume host.channel host.now)
      (left ++ piece)
    have suffix {rest : Bytes} : _ → rest <:+ left ++ piece :=
      Conversation.takeFrames_suffix app.react (paused.resume host.channel host.now)
    have consumed : (serving app config).consume (.webSocket paused) (left ++ piece) host = _ :=
      Active.consume_webSocket config paused (left ++ piece) host
    rw [List.append_nil] at again
    rw [Protocol.feed, consumed]
    generalize (paused.resume host.channel host.now).takeFrames app.react (left ++ piece) = taken
      at whole again clock suffix ⊢
    obtain ⟨_ | rest, next⟩ := taken
    · obtain rfl : next = after := (Prod.mk.inj whole).2
      exact ⟨left ++ piece, rfl⟩
    · simp only [List.append_nil] at again whole
      have resumed : next.pause.resume next.socket.channel host.now = next :=
        Conversation.resume_pause clock
      simp only [Connection.drop_of_suffix (suffix rfl)]
      refine ih ?_ ?_
      · rw [resumed]
        exact again.symm
      · rw [resumed]
        exact whole

/-- Every stream at a WebSocket that was not told of its end yet stops short of a whole frame, or
comes to a close frame that can be read, or to a first violation.

For every stream that breaks no rule up to some frame and then breaks one, and for all pieces in
which it arrives at a WebSocket whose handler neither closed nor panicked by then: the handler is
called back with the messages and the control frames that were complete before, and then told of the
end, once. The code is 1009 for what is too big, 1007 for a text that is none and 1002 otherwise, by
the first rule that is broken; one close frame is sent, with that code and reason. All of the window
is taken, to close, and no piece behind it is looked at. -/
theorem violation_ends (config : Config) {paused : Paused app.Handler} {host : Host app}
    (untold : paused.closeNotified = false) :
    ((∀ message ∈ paused.assembling, message.1 = .text ∨ message.1 = .binary) →
      ∀ stream, Resolved paused.limit paused.assembling stream) ∧
    ∀ {before wrong : Bytes} {callbacks : List Callback} {progress : Option (Opcode × Bytes)}
      {violation : Violation} {pieces : List Bytes},
      GoesOn paused.limit paused.assembling before callbacks progress →
      Offends paused.limit progress wrong violation →
      ((paused.resume host.channel host.now).takeFrames
        app.react before).2.socket.session.closing = false →
      pieces.flatten = before ++ wrong →
      ∃ window met after,
        (serving app config).feed (.webSocket paused) [] host pieces =
          (some (window, ⟨window.length, .webSocket after.pause, .close⟩),
            { host with channel := after.socket.channel }) ∧
        (paused.resume host.channel host.now).takeFrames app.react before = (some [], met) ∧
        EndedFor violation met after ∧
        callbacksIn after.socket.channel.trace = callbacksIn host.channel.trace ++ callbacks ++
          [.closed (.ofCode violation.number) violation.reason] ∧
        (React.Within Action.Honest app.react →
          closeFramesIn after.socket.channel.trace =
            closeFramesIn host.channel.trace ++ [violation.answer]) := by
  refine ⟨resolved paused.limit, ?_⟩
  intro before wrong callbacks progress violation pieces goesOn offends patient cut
  let start := paused.resume host.channel host.now
  have takes : Takes app.react start before callbacks progress := goesOn.takes app.react rfl rfl
  obtain ⟨met, took, onward, progress_eq, opened⟩ := takes.takeFrames patient
  have untold' : met.closeNotified = false := onward.untold_eq.trans untold
  obtain ⟨assembling, failed⟩ :=
    offends.takeFrames app.react onward.limit_eq progress_eq opened untold'
  let after := Conversation.fail app.react { met with assembling } violation
  have ended : EndedFor violation { met with assembling } after :=
    @Conversation.endedFor_fail _ _ app.react { met with assembling } opened untold' violation
      offends.reason_fits
  have whole : start.takeFrames app.react ([] ++ pieces.flatten) = (none, after) := by
    rw [List.nil_append, cut, Conversation.takeFrames_append, took]
    exact failed
  have waits := Conversation.takeFrames_nil app.react (onward.opened opened)
  obtain ⟨window, fed⟩ := feed_of_takeFrames config waits whole
  refine ⟨window, met, after, fed, took, ⟨ended.finished, ended.told, ended.callbacks_eq,
    ended.frames_eq, ended.wrote⟩, ?_, fun honest => ?_⟩
  · rw [ended.callbacks_eq]
    exact congrArg (· ++ _) onward.callbacks_eq
  · have kept := onward.closeFrames honest opened
    rw [closeFramesIn, ended.frames_eq, List.filter_append]
    exact congrArg (· ++ _) kept

/-- Behind a message comes a fragment that continues none, and a byte more, in two pieces. -/
theorem stray_fragment_ends :
    let paused : Paused Unit := ⟨{}, (), none, 16, false⟩
    let before : Bytes := [0x82, 0x82, 0, 0, 0, 0, 7, 8]
    let wrong : Bytes := [0x80, 0x80, 0, 0, 0, 0, 0x82]
    let host : Host bareApp := {}
    (∀ stream, Resolved paused.limit paused.assembling stream) ∧
    ∃ window met after,
      (serving bareApp {}).feed (.webSocket paused) [] host
          [before.take 3, before.drop 3 ++ wrong] =
        (some (window, ⟨window.length, .webSocket after.pause, .close⟩),
          { host with channel := after.socket.channel }) ∧
      (paused.resume host.channel host.now).takeFrames bareApp.react before = (some [], met) ∧
      EndedFor .nothingToContinue met after ∧
      callbacksIn after.socket.channel.trace = callbacksIn host.channel.trace ++
        [.message (.binary [7, 8])] ++
        [.closed (.ofCode 1002) "continuation without a message in progress"] ∧
      (React.Within Action.Honest bareApp.react →
        closeFramesIn after.socket.channel.trace = closeFramesIn host.channel.trace ++
          [Violation.nothingToContinue.answer]) := by
  intro paused before wrong host
  have message : Frame.FrameOn 16 before ⟨true, .binary, [7, 8]⟩ :=
    @Frame.FrameOn.of 16 [0x82, 0x82] [0, 0, 0, 0] [7, 8] true .binary
      (@Frame.HeaderOn.of 0x82 0x82 .binary [] 2 ⟨by decide, by decide, by decide⟩
        (.short (by decide))) nofun (by decide) rfl
  have stray : Frame.FrameOn 16 (wrong.take 6) ⟨true, .continuation, []⟩ :=
    @Frame.FrameOn.of 16 [0x80, 0x80] [0, 0, 0, 0] [] true .continuation
      (@Frame.HeaderOn.of 0x80 0x80 .continuation [] 0 ⟨by decide, by decide, by decide⟩
        (.short (by decide))) nofun (by decide) rfl
  have goesOn : GoesOn 16 none before [.message (.binary [7, 8])] none :=
    @GoesOn.whole 16 (.binary [7, 8]) none before [] [] message (.here none)
  have offends : Offends 16 none wrong .nothingToContinue :=
    @Offends.nothingToContinue 16 true (wrong.take 6) (wrong.drop 6) [] stray
  have gentle : React.Gentle bareApp.react := fun _ _ _ => trivial
  have takes : Takes bareApp.react (paused.resume host.channel host.now) before _ none :=
    goesOn.takes bareApp.react rfl rfl
  have patient := takes.patient_of_gentle gentle rfl
  obtain ⟨all, ends⟩ := @violation_ends bareApp {} paused host rfl
  exact ⟨all nofun, ends goesOn offends patient rfl⟩

end WebSocket
end WebServer

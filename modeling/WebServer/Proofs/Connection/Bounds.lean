import WebServer.Proofs.Connection.Attended
import WebServer.Proofs.Requests.Closing
import WebServer.Proofs.WebSocket.Sizes

/-!
# How much a connection holds

A head is kept only if it announces a body that is, with it, within the limit (`Announced`), and
whatever is passed to the application was kept so (`Signal.Sized`). What is left of a window lacks
something: a part of a head or of a body while requests are served, and a part of a frame
afterwards. So between two events a connection holds no more than the limits allow, however the
stream is cut (`buffers_bounded`).
-/
namespace WebServer

open Http (Request RequestFault)

theorem Text.unsigned?_le {greatest number : Nat} {text : List Char}
    (read : unsigned? greatest text = some number) : number ≤ greatest := by
  have fits := (Option.filter_eq_some_iff.1 read).2
  simpa using fits

namespace Http.Request

variable {request : Request} {length : Nat}

theorem agreedLength_le {agreed : Option Nat} {values : List String}
    (read : agreedLength agreed values = .ok (some length))
    (before : ∀ number, agreed = some number → number ≤ greatestLength) :
    length ≤ greatestLength := by
  induction values generalizing agreed with
  | nil => exact before _ (Except.ok.inj read)
  | cons value values ih =>
    unfold agreedLength at read
    split at read
    · cases read
    · rename_i number stated
      split at read
      · cases read
      · refine ih read fun other same => ?_
        obtain rfl := Option.some.inj same
        exact Text.unsigned?_le stated

/-- No body is announced that is longer than a buffer can be. -/
theorem bodyLength_le (sized : request.bodyLength = .ok length) : length ≤ greatestLength := by
  by_cases plain : ∀ coding, request.headers.Leads "transfer-encoding" coding →
      Text.sameIgnoringCase coding "identity" = true
  · rw [bodyLength_of_plain plain] at sized
    obtain ⟨_ | number, agreed, same⟩ := bind_eq_ok_iff.1 sized
    · obtain rfl := Except.ok.inj same
      exact Nat.zero_le _
    · obtain rfl := Except.ok.inj same
      exact agreedLength_le agreed nofun
  · obtain ⟨coding, foreign⟩ := Classical.not_forall.1 plain
    obtain ⟨leads, foreign⟩ := Classical.not_imp.1 foreign
    rw [bodyLength_of_foreign leads (Bool.eq_false_iff.2 foreign)] at sized
    cases sized

end Http.Request

variable {ε : Type} {app : App}

/-- Bytes that stood in a window which the protocol was shown. -/
def Stood (trace : List (Signal ε)) (bytes : Bytes) : Prop :=
  ∃ window, .window window ∈ trace ∧ bytes <:+: window

/-- A head that was shown, the request that it is, and the length of the body that it announces;
both together are not too large. -/
structure Announced (config : Config) (trace : List (Signal ε)) (request : Request) (length : Nat)
    (head : Bytes) : Prop where
  stood : Stood trace head
  whole : HeadOnly head
  parsed : Request.parseHead head config.maxHeaders = .ok request
  sized : request.bodyLength = .ok length
  within : ¬ config.Refuses (head.length + length)

/-- A whole request that came in a head and the body that was announced there. -/
structure Brought (config : Config) (trace : List (Signal ε)) (whole : Request)
    (head body : Bytes) : Prop where
  announced : ∃ request, Announced config trace request body.length head ∧
    request.attachBody body = .ok whole
  stood : Stood trace body

/-- A signal that passes nothing to the application that is too large. -/
def Signal.Sized (config : Config) (trace : List (Signal ε)) (signal : Signal ε) : Prop :=
  (∀ request, signal.request? = some request →
    ∃ head body, Brought config trace request head body) ∧
    ∀ message, signal.message? = some message → message.bytes.length ≤ config.maxMessageSize

/-- A head that is kept was announced. -/
def Pending.Held (config : Config) (trace : List (Signal ε)) (pending : Pending) : Prop :=
  ∀ request length, pending = some (request, length) →
    ∃ head, Announced config trace request length head

section Stood

variable {config : Config} {trace trace' : List (Signal ε)}

theorem Stood.left {first behind : Bytes} (h : Stood trace (first ++ behind)) :
    Stood trace first := by
  obtain ⟨window, shown, within⟩ := h
  exact ⟨window, shown, (List.prefix_append first behind).isInfix.trans within⟩

theorem Stood.right {first behind : Bytes} (h : Stood trace (first ++ behind)) :
    Stood trace behind := by
  obtain ⟨window, shown, within⟩ := h
  exact ⟨window, shown, (List.suffix_append first behind).isInfix.trans within⟩

theorem Stood.mono {bytes : Bytes} (h : Stood trace bytes) (later : trace ⊆ trace') :
    Stood trace' bytes := by
  obtain ⟨window, shown, within⟩ := h
  exact ⟨window, later shown, within⟩

theorem Announced.mono {request : Request} {length : Nat} {head : Bytes}
    (h : Announced config trace request length head) (later : trace ⊆ trace') :
    Announced config trace' request length head :=
  { h with stood := h.stood.mono later }

theorem Brought.mono {whole : Request} {head body : Bytes}
    (h : Brought config trace whole head body) (later : trace ⊆ trace') :
    Brought config trace' whole head body := by
  obtain ⟨request, announced, attached⟩ := h.announced
  exact ⟨⟨request, announced.mono later, attached⟩, h.stood.mono later⟩

theorem Signal.Sized.mono {signal : Signal ε} (h : signal.Sized config trace)
    (later : trace ⊆ trace') : signal.Sized config trace' := by
  refine ⟨fun request passed => ?_, h.2⟩
  obtain ⟨head, body, brought⟩ := h.1 request passed
  exact ⟨head, body, brought.mono later⟩

theorem Pending.Held.mono {pending : Pending} (h : pending.Held config trace)
    (later : trace ⊆ trace') : pending.Held config trace' := by
  intro request length same
  obtain ⟨head, announced⟩ := h request length same
  exact ⟨head, announced.mono later⟩

/-- As long as a body lacks something, less is there than may be. -/
theorem Announced.waits {request : Request} {length : Nat} {head rest : Bytes}
    (h : Announced config trace request length head) (lacks : rest.length < length) :
    rest.length ≤ config.maxRequestSize := by
  have announced := Request.bodyLength_le h.sized
  have within := h.within
  unfold Config.Refuses at within
  omega

theorem Pending.held_none : Held config trace none := by
  intro request length same
  cases same

/-- What is not enough to go on with is no more than a request may have. -/
theorem Pending.Lacks.length_le {pending : Pending} {rest : Bytes}
    (lacks : pending.Lacks config rest) (held : pending.Held config trace) :
    rest.length ≤ config.maxRequestSize := by
  cases pending with
  | none => exact lacks.2
  | some awaited =>
    obtain ⟨head, announced⟩ := held _ _ rfl
    exact announced.waits lacks

/-- A buffer has less than 2^63 bytes, so that a head and its body can be counted together. -/
theorem Brought.length_le {whole : Request} {head body : Bytes}
    (h : Brought config trace whole head body) (headFits : head.length < 2 ^ 63)
    (bodyFits : body.length < 2 ^ 63) : head.length + body.length ≤ config.maxRequestSize := by
  obtain ⟨request, announced, -⟩ := h.announced
  have within := announced.within
  unfold Config.Refuses Request.greatestLength at within
  omega

theorem Signal.sized_of_fits {signal : Signal ε} (fits : signal.Fits config.maxMessageSize) :
    signal.Sized config trace := by
  refine ⟨fun request passed => ?_, fits.2⟩
  rw [fits.1] at passed
  cases passed

theorem Signal.sized_of_idle {signal : Signal ε} (idle : signal.IsIdle) :
    signal.Sized config trace := sized_of_fits (fits_of_idle idle)

end Stood

/-! ### What is passed on while requests are served -/

section Serving

variable {config : Config} {seen : List (Signal app.Event)}

/-- The work on a channel, and what a dispatch shows. -/
theorem Host.grows_write (host : Host app) (data : Bytes) :
    Grows (Signal.Sized config seen) host.channel.trace (host.write data).channel.trace :=
  (Idle.run host.channel _).mono fun _ idle => Signal.sized_of_idle idle

theorem Host.grows_adopt (host : Host app) {kind : Signal app.Event → Prop} {α : Type}
    {dispatched : Dispatched app α} (known : ∀ signal ∈ dispatched.signals, kind signal) :
    Grows kind host.channel.trace (host.adopt dispatched).2.channel.trace := by
  refine ⟨dispatched.signals.reverse, ?_, fun signal member => known _ (List.mem_reverse.1 member)⟩
  exact congrArg Channel.trace (Channel.recordAll_eq host.channel dispatched.signals)

/-- Routes are called and asked with the request itself. -/
theorem Brought.sized {whole : Request} {head body : Bytes}
    (h : Brought config seen whole head body) {signal : Signal app.Event}
    (passes : ∀ request, signal.request? = some request → request = whole)
    (silent : signal.message? = none) : signal.Sized config seen := by
  refine ⟨fun request passed => ?_, fun message called => ?_⟩
  · obtain rfl := passes request passed
    exact ⟨head, body, h⟩
  · rw [silent] at called
    cases called

theorem Brought.tryRoute {whole : Request} {head body : Bytes}
    (h : Brought config seen whole head body) (tables : app.Tables) :
    ∀ signal ∈ (App.tryRoute tables whole).signals, signal.Sized config seen := by
  unfold App.tryRoute
  split
  · exact List.forall_mem_nil _
  · refine List.forall_mem_cons.2 ⟨h.sized (fun _ => Eq.symm ∘ Option.some.inj) rfl, ?_⟩
    exact List.forall_mem_map.2 fun event _ => h.sized nofun rfl

theorem Brought.routeSocket {whole : Request} {head body : Bytes}
    (h : Brought config seen whole head body) (tables : app.Tables) :
    ∀ signal ∈ (App.routeSocket tables whole).signals, signal.Sized config seen :=
  App.forall_ask whole (fun _ _ => h.sized (fun _ => Eq.symm ∘ Option.some.inj) rfl)
    (fun _ => h.sized nofun rfl) tables (List.forall_mem_nil _) _

/-- A conversation begins with nothing in progress. -/
theorem Host.greeted_steps (host : Host app) (key : String) (handler : app.Handler) :
    Grows (Signal.Sized config seen) host.channel.trace
      (host.greeted key handler config.maxMessageSize).socket.channel.trace ∧
    (host.greeted key handler config.maxMessageSize).pause.Within config.maxMessageSize := by
  let c : WebSocket.Conversation app.Event app.Handler :=
    { socket := {
        channel := host.channel.write (WebSocket.Handshake.response key).toBytes
        now := host.now }
      handler, limit := config.maxMessageSize }
  have fresh : (c.hearing .opened).pause.Within config.maxMessageSize := ⟨rfl, nofun⟩
  have begins := (c.idles_start app.react).steps fresh
  have hears : Grows (Signal.Sized config seen) c.socket.channel.trace
      (c.start app.react).socket.channel.trace :=
    .of_cons (.callback .opened) ⟨nofun, nofun⟩
      (begins.trace.mono fun _ fits => Signal.sized_of_fits fits)
  exact ⟨(host.grows_write _).trans hears, begins.within⟩

variable {host asked met : Host app} {request : Request} {head body taken own : Bytes}
variable {pending later : Pending}

theorem Host.ComesTo.grows {upshot : Upshot app.Handler}
    (comes : host.ComesTo config request body upshot asked)
    (announced : Announced config seen request body.length head) (stood : Stood seen body) :
    Grows (Signal.Sized config seen) host.channel.trace asked.channel.trace ∧
      ∀ conversation, upshot = .socket conversation →
        conversation.Within config.maxMessageSize := by
  have brought {whole : Request} (attached : request.attachBody body = .ok whole) :
      Brought config seen whole head body := ⟨⟨request, announced, attached⟩, stood⟩
  have unopened {other : Upshot app.Handler}
      (answers : ∀ conversation, other ≠ .socket conversation) :
      ∀ conversation, other = .socket conversation → conversation.Within config.maxMessageSize :=
    fun conversation same => absurd same (answers conversation)
  cases comes with
  | badBody rejected => exact ⟨.refl _, unopened (by simp)⟩
  | failed attached plain result =>
    exact ⟨host.grows_adopt ((brought attached).tryRoute host.tables), unopened (by simp)⟩
  | routed attached plain result =>
    exact ⟨host.grows_adopt ((brought attached).tryRoute host.tables), unopened (by simp)⟩
  | refused attached upgrade opened =>
    refine ⟨?_, unopened (by simp)⟩
    rcases Host.openSocket_error opened with rfl | rfl
    · exact .refl _
    · exact host.grows_adopt ((brought attached).routeSocket host.tables)
  | opened attached upgrade opened =>
    obtain ⟨key, handler, -, -, conversation_eq, asked_eq⟩ := Host.openSocket_eq_ok opened
    have admitted := host.grows_adopt ((brought attached).routeSocket host.tables)
    obtain ⟨grown, within⟩ : Grows (Signal.Sized config seen) _ _ ∧ _ :=
      (host.adopt (App.routeSocket host.tables _)).2.greeted_steps key handler
    rw [asked_eq]
    refine ⟨admitted.trans grown, fun other same => ?_⟩
    rw [← Upshot.socket.inj same, conversation_eq]
    exact within

/-- What a connection gets through is passed on with what it was. -/
theorem Passes.grows (h : Passes config pending host taken later met) :
    Stood seen taken → pending.Held config seen →
      Grows (Signal.Sized config seen) host.channel.trace met.channel.trace ∧
        later.Held config seen := by
  induction h with
  | here pending host => exact fun _ held => ⟨.refl _, held⟩
  | head whole fits parsed sized within onward ih =>
    intro stood _
    refine ih stood.right fun _ _ same => ?_
    obtain ⟨rfl, rfl⟩ := Prod.mk.inj (Option.some.inj same)
    exact ⟨_, stood.left, whole, parsed, sized, within⟩
  | @malformed host _ _ _ _ _ whole fits rejected onward ih =>
    intro stood _
    obtain ⟨grown, held⟩ := ih stood.right Pending.held_none
    exact ⟨(host.grows_write _).trans grown, held⟩
  | @routed _ asked _ _ _ _ _ _ comes more onward ih =>
    intro stood held
    obtain ⟨head, announced⟩ := held _ _ rfl
    obtain ⟨grown, held⟩ := ih stood.right Pending.held_none
    have passed := (comes.grows announced stood.left).1
    exact ⟨passed.trans ((asked.grows_write _).trans grown), held⟩
  | @failed _ asked _ _ _ _ _ _ comes more client onward ih =>
    intro stood held
    obtain ⟨head, announced⟩ := held _ _ rfl
    obtain ⟨grown, held⟩ := ih stood.right Pending.held_none
    have passed := (comes.grows announced stood.left).1
    exact ⟨passed.trans ((asked.grows_write _).trans grown), held⟩

theorem Closes.grows {response : Http.Response} {headOnly : Bool}
    (h : Closes config pending host own response headOnly asked) (stood : Stood seen own)
    (held : pending.Held config seen) :
    Grows (Signal.Sized config seen) host.channel.trace asked.channel.trace := by
  cases h with
  | endlessHead | longHead | largeBody | doubtfulLength => exact .refl _
  | lastRequest comes last =>
    obtain ⟨head, announced⟩ := held _ _ rfl
    exact (comes.grows announced stood).1
  | failure comes last =>
    obtain ⟨head, announced⟩ := held _ _ rfl
    exact (comes.grows announced stood).1

end Serving

/-! ### What a connection of a server holds -/

/-- A head whose body is awaited, or a conversation, is within the limits. -/
def Active.Held {σ : Type} (config : Config) (trace : List (Signal ε)) : Active σ → Prop
  | .http pending => pending.Held config trace ∧ 0 < pending.need
  | .webSocket conversation => conversation.Within config.maxMessageSize

/-- How much may be left of a window. -/
def Active.room {σ : Type} (config : Config) : Active σ → Nat
  | .http _ => config.maxRequestSize
  | .webSocket _ => config.maxMessageSize + 13

/-- A protocol and its host, where nothing is too large that was passed to the application or is
kept. -/
structure Bounded (config : Config) (active : Active app.Handler) (host : Host app) : Prop where
  sized : ∀ signal ∈ host.channel.trace, signal.Sized config host.channel.trace
  held : active.Held config host.channel.trace

section Bounded

variable {config : Config} {active active' : Active app.Handler} {host host' : Host app}

theorem Active.Held.mono {trace trace' : List (Signal ε)} (h : active.Held config trace)
    (later : trace ⊆ trace') : active.Held config trace' := by
  cases active with
  | http pending => exact ⟨h.1.mono later, h.2⟩
  | webSocket conversation => exact h

theorem Bounded.grow (h : Bounded config active host)
    (grown : Grows (Signal.Sized config host.channel.trace) host.channel.trace host'.channel.trace)
    (held : active'.Held config host.channel.trace) : Bounded config active' host' := by
  have later : host.channel.trace ⊆ host'.channel.trace := grown.suffix.subset
  obtain ⟨new, same, known⟩ := grown
  refine ⟨fun signal member => ?_, held.mono later⟩
  rw [same] at member
  rcases List.mem_append.1 member with new | old
  · exact (known signal new).mono later
  · exact (h.sized signal old).mono later

theorem Bounded.idle (h : Bounded config active host)
    (idle : Idle host.channel.trace host'.channel.trace) : Bounded config active host' :=
  h.grow (idle.mono fun _ known => Signal.sized_of_idle known) h.held

/-- The occasion on which a protocol runs makes no difference. -/
theorem Bounded.occasion (h : Bounded config active host) {signal : Signal app.Event}
    (occasion : signal.isOccasion = true) : Bounded config active (host.record signal) := by
  have silent : signal.request? = none ∧ signal.message? = none := by
    cases signal <;> first | exact ⟨rfl, rfl⟩ | cases occasion
  exact h.grow (.cons (Signal.sized_of_fits (Signal.fits_of_silent silent.1 silent.2)) _) h.held

/-- What a conversation does unasked. -/
theorem Bounded.resume {conversation : WebSocket.Paused app.Handler}
    (h : Bounded config (.webSocket conversation) host)
    {go : WebSocket.Conversation app.Event app.Handler →
      WebSocket.Conversation app.Event app.Handler}
    (idles : ∀ c : WebSocket.Conversation app.Event app.Handler, c.Idles (go c)) :
    Bounded config (Active.resume conversation host go).1
      (Active.resume conversation host go).2 := by
  have steps := (idles (conversation.resume host.channel host.now)).steps h.held
  exact h.grow (steps.trace.mono fun _ fits => Signal.sized_of_fits fits) steps.within

theorem Bounded.finish (h : Bounded config active host) :
    Bounded config (active.finish host).1 (active.finish host).2 := by
  cases active with
  | http pending => exact h
  | webSocket conversation => exact h.resume fun c => c.idles_finish app.react

theorem Bounded.timer (h : Bounded config active host) (now : Nat) :
    Bounded config (active.timer now host).1 (active.timer now host).2 := by
  cases active with
  | http pending => exact h
  | webSocket conversation => exact h.resume fun c => c.idles_onTimer app.react now

theorem Bounded.act (h : Bounded config active host) (action : WebSocket.Action app.Event) :
    Bounded config (active.act action host).1 (active.act action host).2 := by
  cases active with
  | http pending => exact h
  | webSocket conversation =>
    exact h.resume fun c => c.idles_withSocket (c.socket.idle_perform action)

/-- What comes of a window. If the protocol waits, little is left of it, and if it hands over, it
has taken something. -/
structure Bounded.Takes (config : Config) (window : Bytes) (said : Consumed (Active app.Handler))
    (host : Host app) : Prop where
  bounded : Bounded config said.protocol host
  waits : said.move = .wait → (window.drop said.used).length ≤ said.protocol.room config
  switches : said.move = .switch → 0 < said.used

theorem Bounded.serve {pending : Pending} (h : Bounded config (.http pending) host) {window : Bytes}
    (stood : Stood host.channel.trace window) :
    Takes config window ((Active.http pending).consume config window host).1
      ((Active.http pending).consume config window host).2 := by
  obtain ⟨held, need⟩ := h.held
  have leaves := serveWindow_leaves config pending window host
  obtain ⟨stop, last, served⟩ := exists_servedAs config pending window host
  have done : (Active.http pending).consume config window host =
      (Active.ofStop window stop, last) := by
    simp only [Active.consume, served.serveWindow_eq]
  rw [served.serveWindow_eq] at leaves
  rw [done]
  cases served with
  | @closes later met asked taken own response headOnly passes closes behind =>
    obtain ⟨grown, kept⟩ := passes.grows stood.left held
    have closed := closes.grows stood.right.left kept
    have answered := closed.trans
      (asked.grows_write (Host.bytesOf (Host.announce response true) headOnly))
    refine ⟨h.grow (grown.trans answered) ⟨Pending.held_none, Nat.one_pos⟩, ?_, ?_⟩
    all_goals
      intro move
      cases move
  | @waits later met taken rest passes lacks =>
    obtain ⟨grown, kept⟩ := passes.grows stood.left held
    refine ⟨h.grow grown ⟨kept, leaves.2.need_pos⟩, fun _ => ?_, fun move => ?_⟩
    · simp only [Active.ofStop, Connection.drop_of_suffix (List.suffix_append taken rest)]
      exact lacks.length_le kept
    · cases move
  | @upgrades met asked request taken body conversation passes comes behind =>
    obtain ⟨grown, kept⟩ := passes.grows stood.left held
    obtain ⟨head, announced⟩ := kept _ _ rfl
    obtain ⟨opened, within⟩ := comes.grows announced stood.right.left
    refine ⟨h.grow (grown.trans opened) (within _ rfl), fun move => ?_, fun _ => ?_⟩
    · cases move
    · have taken := leaves.2
      simp only [Active.ofStop]
      omega

theorem Bounded.converse {conversation : WebSocket.Paused app.Handler}
    (h : Bounded config (.webSocket conversation) host) (window : Bytes) :
    Takes config window ((Active.webSocket conversation).consume config window host).1
      ((Active.webSocket conversation).consume config window host).2 := by
  let c := conversation.resume host.channel host.now
  have within : c.pause.Within config.maxMessageSize := h.held
  obtain ⟨steps, left⟩ := WebSocket.Conversation.takeFrames_steps app.react within window
  have grown : Grows (Signal.Sized config host.channel.trace) _ _ :=
    steps.trace.mono fun _ fits => Signal.sized_of_fits fits
  have taken : Bounded config (.webSocket (c.takeFrames app.react window).2.pause)
      { host with channel := (c.takeFrames app.react window).2.socket.channel } :=
    h.grow grown steps.within
  rw [Active.consume_webSocket]
  simp only
  split
  · rename_i rest unread
    refine ⟨taken, fun _ => ?_, nofun⟩
    rw [Connection.drop_of_suffix (WebSocket.Conversation.takeFrames_suffix app.react c unread)]
    exact left rest unread
  · exact ⟨taken, nofun, nofun⟩

theorem Bounded.consume (h : Bounded config active host) (window : Bytes) :
    Takes config window (active.consume config window (host.record (.window window))).1
      (active.consume config window (host.record (.window window))).2 := by
  have shown : Bounded config active (host.record (.window window)) := h.occasion rfl
  cases active with
  | http pending => exact shown.serve ⟨window, List.mem_cons_self, List.infix_rfl⟩
  | webSocket conversation => exact shown.converse window

theorem serving_keeps_bounded (config : Config) : (serving app config).Keeps (Bounded config) where
  consume := fun window h => (h.consume window).bounded
  peerClosed := fun h => (h.occasion rfl).finish
  tornDown := fun h => (h.occasion rfl).finish
  timer := fun now h => (h.occasion rfl).timer now
  flush := fun h => h.idle (Idle.run _ _)
  close := fun h => h.idle (Idle.run _ _)

end Bounded

namespace Connection

variable {config : Config} {c : Connection app (Active app.Handler)}

/-- A connection that holds no more than it may, unless it drains or is closed. -/
structure Contained (config : Config) (c : Connection app (Active app.Handler)) : Prop where
  bounded : c.Has (Bounded config)
  inbound_le : c.draining = false → c.isClosed = false →
    c.inbound.length ≤ c.protocol.room config

/-- A connection that was not read meanwhile, and speaks what it spoke. -/
theorem Contained.of_same (h : c.Contained config) {c' : Connection app (Active app.Handler)}
    (bounded : c'.Has (Bounded config)) (draining : c'.draining = c.draining)
    (inbound : c'.inbound = c.inbound) (room : c'.protocol.room config = c.protocol.room config)
    (opened : c'.isClosed = false → c.isClosed = false) : c'.Contained config := by
  refine ⟨bounded, fun goesOn open' => ?_⟩
  rw [inbound, room]
  exact h.inbound_le (draining.symm.trans goesOn) (opened open')

theorem Contained.of_closed (bounded : c.Has (Bounded config)) (closed : c.isClosed = true) :
    c.Contained config := by
  refine ⟨bounded, fun _ opened => ?_⟩
  rw [closed] at opened
  cases opened

theorem Contained.of_draining (bounded : c.Has (Bounded config)) (drains : c.draining = true) :
    c.Contained config := by
  refine ⟨bounded, fun goesOn => ?_⟩
  rw [drains] at goesOn
  cases goesOn

/-- However much was read, little is left once it was offered. -/
theorem contained_offer (h : c.Has (Bounded config)) (handovers : Nat) :
    (c.offer (serving app config) handovers).Contained config := by
  have takes {c : Connection app (Active app.Handler)} (h : c.Has (Bounded config))
      {b : UInt8} {bs : Bytes} {said : Consumed (Active app.Handler)} {host : Host app}
      (taken : (serving app config).consume c.protocol (b :: bs)
        (c.host.record (.window (b :: bs))) = (said, host)) :
      Bounded.Takes config (b :: bs) said host := by
    have takes := Bounded.consume h (b :: bs)
    change Active.consume config c.protocol (b :: bs) _ = _ at taken
    rwa [taken] at takes
  fun_induction offer (serving app config) c handovers with
  | case1 c handovers nothing =>
    refine ⟨h, fun _ _ => ?_⟩
    rw [nothing]
    exact Nat.zero_le _
  | case2 c handovers b bs inbound closed => exact .of_closed h closed
  | case3 c handovers b bs inbound opened said host taken next waits =>
    exact ⟨(takes h taken).bounded, fun _ _ => (takes h taken).waits waits⟩
  | case4 c handovers b bs inbound opened said host taken next closes =>
    exact .of_draining (takes h taken).bounded rfl
  | case5 c handovers b bs inbound opened said host taken next used switches used_eq ih =>
    exact ih (takes h taken).bounded
  | case6 c b bs inbound opened said host taken next switches used_eq =>
    have took := (takes h taken).switches switches
    rw [used_eq] at took
    cases took
  | case7 c b bs inbound opened said host taken next switches used_eq handovers ih =>
    exact ih (takes h taken).bounded

theorem contained_process (h : c.Has (Bounded config)) :
    (c.process (serving app config)).Contained config := by
  unfold process
  split
  · exact .of_draining h (by assumption)
  · exact contained_offer h _

theorem Contained.work (h : c.Contained config) (tasks : List (Task app.Event)) :
    Contained config { c with host := { c.host with channel := c.host.channel.run tasks } } := by
  refine h.of_same (Bounded.idle h.bounded (.run _ tasks)) rfl rfl rfl fun opened => ?_
  have isOpen : (c.host.channel.run tasks).isOpen = true := by
    simpa [isClosed, Host.isOpen] using opened
  simp [isClosed, Host.isOpen, Channel.isOpen_of_run isOpen]

theorem Contained.closeIfDrained (h : c.Contained config) : c.closeIfDrained.Contained config := by
  unfold Connection.closeIfDrained
  split
  · exact h.work _
  · exact h

theorem Contained.settle (h : c.Contained config) (writable : Bool) :
    (c.settle writable).Contained config := by
  unfold Connection.settle
  split
  · exact (h.work _).closeIfDrained
  · exact h.closeIfDrained

theorem contained_hangUp (h : c.Has (Bounded config)) :
    (c.hangUp (serving app config)).Contained config := by
  refine .of_closed ((serving_keeps_bounded config).hangUp h) ?_
  simp [hangUp, close, isClosed, Host.isOpen_close]

theorem contained_endOfStream (h : c.Has (Bounded config)) :
    (c.endOfStream (serving app config)).Contained config :=
  .of_draining ((serving_keeps_bounded config).endOfStream h) rfl

theorem Contained.onEvent (h : c.Contained config) (event : Readiness) :
    (c.onEvent (serving app config) event).Contained config := by
  unfold Connection.onEvent
  split
  · exact h
  · split
    · exact contained_hangUp h.bounded
    · split
      · generalize c.source.readAll c.chunk [] = read
        obtain ⟨readEnd, bytes, source⟩ := read
        have read : Has (Bounded config) { c with source, inbound := c.inbound ++ bytes } :=
          h.bounded
        cases readEnd with
        | more => exact (contained_process read).settle _
        | ended => exact (contained_endOfStream (contained_process read).bounded).settle _
        | failed => exact contained_hangUp read
      · exact h.settle _

theorem Contained.onTimer (h : c.Contained config) (now : Nat) :
    (c.onTimer (serving app config) now).Contained config := by
  unfold Connection.onTimer
  split
  · exact h
  · rename_i goesOn
    simp only [Bool.or_eq_true, not_or, Bool.not_eq_true] at goesOn
    have shown : Bounded config c.protocol (c.host.record .timer) := Bounded.occasion h.bounded rfl
    refine Contained.closeIfDrained (h.of_same (shown.timer now) rfl rfl ?_ fun _ => goesOn.2)
    cases active : c.protocol <;> simp [serving, Active.timer, Active.resume, Active.room]

theorem Contained.act (h : c.Contained config) (action : WebSocket.Action app.Event) :
    (c.meet config (.act action)).Contained config := by
  refine h.of_same (Bounded.act h.bounded action) rfl rfl ?_ fun opened => ?_
  · cases active : c.protocol <;> simp [meet, active, Active.act, Active.resume, Active.room]
  · have isOpen : (c.protocol.act action c.host).2.channel.isOpen = true := by
      simpa [meet, isClosed, Host.isOpen] using opened
    simp [isClosed, Host.isOpen, (c.protocol.act_uses c.host action).isOpen_of isOpen]

theorem Contained.meet (h : c.Contained config) (incident : Incident app) :
    (c.meet config incident).Contained config := by
  cases incident with
  | ready event => exact h.onEvent event
  | timer now => exact h.onTimer now
  | hangUp => exact contained_hangUp h.bounded
  | drained => exact h.closeIfDrained
  | wire | source | clock | tables =>
    exact h.of_same (Bounded.idle h.bounded (.refl _)) rfl rfl rfl id
  | work tasks => exact h.work tasks
  | act action => exact h.act action

theorem Contained.meetAll (h : c.Contained config) (incidents : List (Incident app)) :
    (c.meetAll config incidents).Contained config := by
  induction incidents generalizing c with
  | nil => exact h
  | cons incident incidents ih => exact ih (h.meet incident)

/-- Whatever a peer sends to a connection of a server, in whatever pieces, whatever else happens to
it, and whatever the application does: between any two events, unless it drains or is closed, it
holds no more of the stream than a request may have, or than a message may have and thirteen bytes
once it is a WebSocket. What has come of a message is never longer than a message may be, not even
in the middle of a window, and no longer one is passed to a handler. Every request that is passed to
a route came in a head and a body that were shown, which together are not larger than a request may
be. As the sum of lengths saturates, the greatest limit takes that no buffer has 2^63 bytes. -/
theorem buffers_bounded (config : Config) (wire : Wire) (tables : app.Tables) (now chunk : Nat)
    (incidents : List (Incident app)) :
    let c := (fresh wire tables now chunk).meetAll config incidents
    (c.draining = false → c.isClosed = false →
      (∀ pending, c.protocol = .http pending → c.inbound.length ≤ config.maxRequestSize) ∧
      ∀ conversation, c.protocol = .webSocket conversation →
        c.inbound.length ≤ config.maxMessageSize + 13) ∧
    (∀ conversation opcode done, c.protocol = .webSocket conversation →
      conversation.assembling = some (opcode, done) ∨
        (∃ window, ((conversation.resume c.host.channel c.host.now).takeFrames app.react
          window).2.assembling = some (opcode, done)) → done.length ≤ config.maxMessageSize) ∧
    (∀ message, .callback (.message message) ∈ c.host.channel.trace →
      message.bytes.length ≤ config.maxMessageSize) ∧
    ∀ route request captures,
      .handled route request captures ∈ c.host.channel.trace ∨
        .asked route request captures ∈ c.host.channel.trace →
      ∃ head body, Brought config c.host.channel.trace request head body ∧
        (head.length < 2 ^ 63 → body.length < 2 ^ 63 →
          head.length + body.length ≤ config.maxRequestSize) := by
  intro c
  have begun : (fresh wire tables now chunk).Contained config :=
    ⟨⟨List.forall_mem_nil _, nofun, Nat.one_pos⟩, fun _ _ => Nat.zero_le _⟩
  have contained : c.Contained config := begun.meetAll incidents
  have held : c.protocol.Held config c.host.channel.trace := contained.bounded.held
  refine ⟨fun goesOn opened => ?_, ?_, ?_, ?_⟩
  · have within := contained.inbound_le goesOn opened
    constructor
    · intro pending active
      rwa [active] at within
    · intro conversation active
      rwa [active] at within
  · intro conversation opcode done active assembling
    rw [active] at held
    rcases assembling with between | ⟨window, within⟩
    · exact held.assembling_le opcode done between
    · let resumed := conversation.resume c.host.channel c.host.now
      have taken := (WebSocket.Conversation.takeFrames_steps (c := resumed) app.react held window).1
      exact taken.within.assembling_le opcode done within
  · intro message called
    exact (contained.bounded.sized _ called).2 message rfl
  · intro route request captures passed
    obtain ⟨head, body, brought⟩ :
        ∃ head body, Brought config c.host.channel.trace request head body :=
      passed.elim (fun called => (contained.bounded.sized _ called).1 request rfl)
        fun asked => (contained.bounded.sized _ asked).1 request rfl
    exact ⟨head, body, brought, brought.length_le⟩

end Connection
end WebServer

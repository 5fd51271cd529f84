import WebServer.Proofs.Stream.Course

/-!
# Reading and offering

An event of a connection reads what has arrived and offers it to the protocol. If no read fails,
reading loses nothing (`readAll_soft`); and what was read takes the connection exactly as far as it
takes its course (`process_reaches`), although the connection shows windows, counts what was taken
of them and hands over from one protocol to the next.
-/
namespace WebServer

variable {app : App}

/-- An attempt to read that does not fail, and says nothing of an end. -/
def ReadAnswer.Soft : ReadAnswer → Prop
  | .limit count => 0 < count
  | .interrupted | .wouldBlock => True
  | .fails => False

namespace Source

/-- What one attempt to read comes to, if nothing fails. -/
theorem read_soft {s : Source} {size : Nat} (pos : 0 < size)
    (soft : ∀ answer ∈ s.answers, answer.Soft) :
    (s.read size).2.ended = s.ended ∧ (∀ answer ∈ (s.read size).2.answers, answer.Soft) ∧
      match (s.read size).1 with
      | .bytes [] => s.arrived = [] ∧ (s.read size).2.arrived = [] ∧ s.ended = true
      | .bytes bytes => s.arrived = bytes ++ (s.read size).2.arrived
      | .interrupted | .wouldBlock => (s.read size).2.arrived = s.arrived
      | .fails => False := by
  have taken (s : Source) {size : Nat} (pos : 0 < size) :
      (s.take size).2.ended = s.ended ∧ (s.take size).2.answers = s.answers ∧
        match (s.take size).1 with
        | .bytes [] => s.arrived = [] ∧ (s.take size).2.arrived = [] ∧ s.ended = true
        | .bytes bytes => s.arrived = bytes ++ (s.take size).2.arrived
        | .interrupted | .wouldBlock => (s.take size).2.arrived = s.arrived
        | .fails => False := by
    obtain ⟨size, rfl⟩ := Nat.exists_eq_succ_of_ne_zero (Nat.ne_of_gt pos)
    unfold take
    cases arrived : s.arrived with
    | nil => cases ended : s.ended <;> simp [arrived, ended]
    | cons b bs => simp
  unfold read
  cases answers : s.answers with
  | nil =>
    obtain ⟨ended, same, reading⟩ := taken s pos
    exact ⟨ended, by rw [same]; exact soft, reading⟩
  | cons answer others =>
    rw [answers] at soft
    obtain ⟨first, rest⟩ := List.forall_mem_cons.1 soft
    cases answer with
    | limit count =>
      obtain ⟨ended, same, reading⟩ :=
        taken { s with answers := others } (Nat.lt_min.2 ⟨first, pos⟩)
      exact ⟨ended, by rw [same]; exact rest, reading⟩
    | interrupted => exact ⟨rfl, rest, rfl⟩
    | wouldBlock => exact ⟨rfl, rest, rfl⟩
    | fails => exact absurd first id

/-- Reading all that is there loses nothing, and finds the end of the stream only behind all of
it. -/
theorem readAll_soft {s : Source} {chunk : Nat} (pos : 0 < chunk)
    (soft : ∀ answer ∈ s.answers, answer.Soft) (gathered : Bytes) :
    (s.readAll chunk gathered).2.1 ++ (s.readAll chunk gathered).2.2.arrived =
        gathered.reverse ++ s.arrived ∧
      (s.readAll chunk gathered).2.2.ended = s.ended ∧
      (s.readAll chunk gathered).1 ≠ .failed ∧
      ((s.readAll chunk gathered).1 = .ended →
        (s.readAll chunk gathered).2.2.arrived = [] ∧ s.ended = true) := by
  fun_induction readAll s chunk gathered with
  | case1 s gathered s' reading =>
    obtain ⟨ended, -, read⟩ := read_soft pos soft
    simp only [reading] at ended read
    exact ⟨by rw [read.1, read.2.1], ended, nofun, fun _ => ⟨read.2.1, read.2.2⟩⟩
  | case2 s gathered b bs s' reading gathered' short =>
    obtain ⟨ended, -, read⟩ := read_soft pos soft
    simp only [reading] at ended read
    exact ⟨by simp [gathered', read], ended, nofun, nofun⟩
  | case3 s gathered b bs s' reading gathered' long ih =>
    obtain ⟨ended, rest, read⟩ := read_soft pos soft
    simp only [reading] at ended rest read
    obtain ⟨whole, same, works, atEnd⟩ := ih rest
    refine ⟨?_, same.trans ended, works, fun h => ⟨(atEnd h).1, ended ▸ (atEnd h).2⟩⟩
    rw [whole, read]
    simp [gathered']
  | case4 s gathered s' reading ih =>
    obtain ⟨ended, rest, read⟩ := read_soft pos soft
    simp only [reading] at ended rest read
    obtain ⟨whole, same, works, atEnd⟩ := ih rest
    exact ⟨by rw [whole, read], same.trans ended, works,
      fun h => ⟨(atEnd h).1, ended ▸ (atEnd h).2⟩⟩
  | case5 s gathered s' reading =>
    obtain ⟨ended, -, read⟩ := read_soft pos soft
    simp only [reading] at ended read
    exact ⟨by rw [read], ended, nofun, nofun⟩
  | case6 s gathered s' reading =>
    obtain ⟨-, -, read⟩ := read_soft pos soft
    simp only [reading] at read

/-- One turn of reading, without the evidence that the loop ends. -/
theorem readAll_eq (s : Source) (chunk : Nat) (gathered : Bytes) :
    s.readAll chunk gathered =
      match s.read chunk with
      | (.bytes [], s') => (.ended, gathered.reverse, s')
      | (.bytes (b :: bs), s') =>
        if bs.length + 1 < chunk then (.more, ((b :: bs).reverse ++ gathered).reverse, s')
        else s'.readAll chunk ((b :: bs).reverse ++ gathered)
      | (.interrupted, s') => s'.readAll chunk gathered
      | (.wouldBlock, s') => (.more, gathered.reverse, s')
      | (.fails, s') => (.failed, gathered.reverse, s') := by
  rw [readAll]
  split <;> rename_i read <;> simp only [read]

/-- With no answers scripted, all that has arrived is read. -/
theorem readAll_unscripted {s : Source} (plain : s.answers = []) (size : Nat) (gathered : Bytes) :
    (s.readAll (size + 1) gathered).2.2.arrived = [] := by
  induction hl : s.arrived.length using Nat.strongRecOn generalizing s gathered with
  | ind length ih =>
    have taken : s.read (size + 1) = s.take (size + 1) := by simp only [Source.read, plain]
    rw [readAll_eq, taken, take]
    cases arrived : s.arrived with
    | nil => cases ended : s.ended <;> simp [arrived]
    | cons b bs =>
      simp only [List.take_succ_cons, List.drop_succ_cons]
      split
      · rename_i short
        simp only [List.length_take] at short
        exact List.drop_eq_nil_of_le (by omega)
      · refine ih (bs.drop size).length ?_ (s := { s with arrived := bs.drop size }) plain _ rfl
        rw [← hl, arrived, List.length_drop, List.length_cons]
        omega

/-- Once all that arrived was read, only the end of the stream is left to be found. -/
theorem readAll_at_end {s : Source} (plain : s.answers = []) (size : Nat)
    (arrived : s.arrived = []) (ended : s.ended = true) :
    (s.readAll (size + 1) []).1 = .ended := by
  rw [readAll_eq]
  simp [Source.read, plain, take, arrived, ended]

end Source

/-- A WebSocket that is shown a window takes frames from it. -/
theorem Active.consume_webSocket (config : Config) (conversation : WebSocket.Paused app.Handler)
    (window : Bytes) (host : Host app) :
    Active.consume config (.webSocket conversation) window host =
      let taken := (conversation.resume host.channel host.now).takeFrames app.react window
      (match taken.1 with
        | some rest => ⟨window.length - rest.length, .webSocket taken.2.pause, .wait⟩
        | none => ⟨window.length, .webSocket taken.2.pause, .close⟩,
      { host with channel := taken.2.socket.channel }) := by
  simp only [Active.consume]
  generalize (conversation.resume host.channel host.now).takeFrames app.react window = taken
  obtain ⟨rest, after⟩ := taken
  cases rest <;> rfl

namespace Connection

section Offer

variable {π : Type} (protocol : Protocol app π) {c : Connection app π}

theorem offer_of_nil (h : c.inbound = []) (handovers : Nat) : c.offer protocol handovers = c := by
  rw [offer]
  split
  · rfl
  · rename_i some
    rw [h] at some
    cases some

theorem offer_of_closed (h : c.isClosed = true) (handovers : Nat) :
    c.offer protocol handovers = c := by
  rw [offer]
  split
  · rfl
  · rw [if_pos h]

/-- One turn of offering a window to the protocol of an open connection. -/
theorem offer_of_open (some : c.inbound ≠ []) (isOpen : c.isClosed = false) (handovers : Nat)
    {used : Nat} {next : π} {move : Move} {host : Host app}
    (consumed : protocol.consume c.protocol c.inbound (c.host.record (.window c.inbound)) =
      (⟨used, next, move⟩, host)) :
    c.offer protocol handovers =
      match used, move with
      | used, .wait => { c with host, protocol := next, inbound := c.inbound.drop used }
      | _, .close => { c with host, protocol := next, inbound := [], draining := true }
      | used + 1, .switch =>
        offer protocol { c with host, protocol := next, inbound := c.inbound.drop (used + 1) }
          protocol.handovers
      | 0, .switch =>
        match handovers with
        | 0 => { c with host, protocol := next }
        | handovers + 1 => offer protocol { c with host, protocol := next } handovers := by
  rw [offer]
  split
  · rename_i none
    exact absurd none some
  · rename_i b bs inbound
    rw [inbound] at consumed
    simp only [isOpen, Bool.false_eq_true, if_false, consumed, inbound]
    cases move with
    | wait => rfl
    | close => rfl
    | switch =>
      cases used with
      | zero => cases handovers <;> simp [← inbound]
      | succ used => rfl

/-- Offering a window changes nothing of how the connection reads. -/
theorem reading_offer (c : Connection app π) (handovers : Nat) :
    (c.offer protocol handovers).source = c.source ∧
      (c.offer protocol handovers).chunk = c.chunk := by
  fun_induction offer protocol c handovers
  case case5 ih | case7 ih => exact ih
  all_goals exact ⟨rfl, rfl⟩

theorem reading_process (c : Connection app π) :
    (c.process protocol).source = c.source ∧ (c.process protocol).chunk = c.chunk := by
  unfold process
  split
  · exact ⟨rfl, rfl⟩
  · exact reading_offer protocol c _

end Offer

/-- A connection that goes on as a course does. -/
structure Goes (c : Connection app (Active app.Handler)) (active : Active app.Handler)
    (rest : Bytes) (host : Host app) : Prop where
  alike : c.host.Alike host
  protocol : c.protocol = active
  inbound : c.inbound = rest
  draining : c.draining = false
  readClosed : c.readClosed = false

/-- A connection that is closed, as the course is over. -/
structure Halted (c : Connection app (Active app.Handler)) (active : Active app.Handler)
    (host : Host app) : Prop where
  alike : c.host.Alike host
  name : c.protocol.name = active.name
  closed : c.isClosed = true

/-- A connection that is closed or will be at the end of the event. -/
structure Ends (c : Connection app (Active app.Handler)) (active : Active app.Handler)
    (host : Host app) : Prop where
  flowing : c.host.channel.Flowing
  alike : c.host.close.Alike host
  name : c.protocol.name = active.name
  ends : c.draining = true ∨ c.isClosed = true
  told : c.protocol.Told

/-- Between two events, a connection is where its course is. -/
def Tracks (c : Connection app (Active app.Handler)) : Course app → Prop
  | .goes active rest host => c.Goes active rest host
  | .halted active host => c.Halted active host

/-- In the middle of an event, it may still have to close. -/
def Reaches (c : Connection app (Active app.Handler)) : Course app → Prop
  | .goes active rest host => c.Goes active rest host
  | .halted active host => c.Ends active host

theorem drop_of_suffix {rest window : Bytes} (h : rest <:+ window) :
    window.drop (window.length - rest.length) = rest :=
  (List.suffix_iff_eq_drop.1 h).symm

variable {c : Connection app (Active app.Handler)} {config : Config} {host : Host app}

theorem isClosed_eq (h : c.host.Alike host) : c.isClosed = !host.isOpen := by
  simp only [isClosed, Host.isOpen, h.channel.isOpen]

/-- A WebSocket is offered what was read. -/
theorem offer_webSocket (calm : app.Calm) (alike : c.host.Alike host)
    (draining : c.draining = false) (readClosed : c.readClosed = false)
    {conversation : WebSocket.Paused app.Handler} (active : c.protocol = .webSocket conversation)
    (sound : conversation.Sound host) :
    (c.offer (serving app config) (serving app config).handovers).Reaches
      (Course.converse conversation c.inbound host) := by
  have valid := Course.converse_sound calm sound c.inbound
  cases isOpen : host.isOpen with
  | false =>
    have closed : c.isClosed = true := by rw [isClosed_eq alike, isOpen]; rfl
    rw [offer_of_closed _ closed]
    simp only [Course.converse, isOpen, Bool.false_eq_true, if_false] at valid ⊢
    refine ⟨alike.channel.left, ?_, by rw [active], .inr closed, by rw [active]; exact valid.2.2⟩
    rwa [Host.close_of_closed (by simpa [isClosed] using closed)]
  | true =>
    have opened : c.isClosed = false := by rw [isClosed_eq alike, isOpen]; rfl
    by_cases nothing : c.inbound = []
    · have goesOn : (conversation.resume host.channel host.now).socket.session.closing = false := by
        have := sound.sound.socket.isOpen_eq
        rw [show (conversation.resume host.channel host.now).socket.channel.isOpen = true from
          isOpen] at this
        simpa using this.symm
      rw [offer_of_nil _ nothing]
      simp only [Course.converse, isOpen, if_true, nothing,
        WebSocket.Conversation.takeFrames_nil app.react goesOn]
      exact ⟨alike, active, nothing, draining, readClosed⟩
    · have shown := alike.record_left (.window c.inbound) rfl rfl
      obtain ⟨same, after⟩ := (shown.resume conversation).takeFrames app.react c.inbound
      have suffix (rest : Bytes) : _ → rest <:+ c.inbound :=
        WebSocket.Conversation.takeFrames_suffix app.react
          (conversation.resume host.channel host.now)
      have consumed := Active.consume_webSocket config conversation c.inbound
        (c.host.record (.window c.inbound))
      rw [← active] at consumed
      simp only [Course.converse, isOpen, if_true] at valid ⊢
      generalize (conversation.resume (c.host.record (.window c.inbound)).channel
        (c.host.record (.window c.inbound)).now).takeFrames app.react c.inbound = shownTaken
        at same after consumed
      generalize (conversation.resume host.channel host.now).takeFrames app.react c.inbound = taken
        at same after suffix valid ⊢
      obtain ⟨left, shownAfter⟩ := shownTaken
      obtain ⟨rest, next⟩ := taken
      obtain rfl : left = rest := same
      have later := shown.withChannel after.socket.channel
      have paused := after.pause_eq
      simp only at paused later
      cases left with
      | some left =>
        rw [offer_of_open (serving app config) nothing opened _ consumed]
        exact ⟨later, congrArg Active.webSocket paused, drop_of_suffix (suffix left rfl), draining,
          readClosed⟩
      | none =>
        rw [offer_of_open (serving app config) nothing opened _ consumed]
        refine ⟨later.channel.left, later.close, rfl, .inl rfl, ?_⟩
        simp only [paused]
        exact valid.2.2

/-- Requests are served from what was read, and after an upgrade the WebSocket takes the rest. -/
theorem offer_http (calm : app.Calm) (alike : c.host.Alike host) (draining : c.draining = false)
    (readClosed : c.readClosed = false) {pending : Pending} (active : c.protocol = .http pending)
    (ready : host.Ready) (need : 0 < pending.need) :
    (c.offer (serving app config) (serving app config).handovers).Reaches
      (Course.take config (.http pending) c.inbound host) := by
  have opened : c.isClosed = false := by rw [isClosed_eq alike, ready.isOpen]; rfl
  by_cases nothing : c.inbound = []
  · rw [offer_of_nil _ nothing]
    simp only [Course.take, nothing, serveWindow_nil config need]
    exact ⟨alike, active, nothing, draining, readClosed⟩
  · have shown := alike.record_left (.window c.inbound) rfl rfl
    obtain ⟨same, after⟩ := shown.serveWindow config pending c.inbound
    have sound := ready.serveWindow calm config pending c.inbound
    have leaves := serveWindow_leaves config pending c.inbound host
    have consumed : (serving app config).consume c.protocol c.inbound
        (c.host.record (.window c.inbound)) =
          (Active.ofStop c.inbound (serveWindow config pending c.inbound
            (c.host.record (.window c.inbound))).1,
          (serveWindow config pending c.inbound (c.host.record (.window c.inbound))).2) := by
      rw [active]
      rfl
    simp only [Course.take]
    generalize serveWindow config pending c.inbound (c.host.record (.window c.inbound)) =
      shownServed
      at same after consumed
    generalize serveWindow config pending c.inbound host = served at same after sound leaves ⊢
    obtain ⟨shownStop, shownHost⟩ := shownServed
    obtain ⟨stop, later⟩ := served
    obtain rfl : shownStop = stop := same
    cases shownStop with
    | wait waiting rest =>
      rw [offer_of_open (serving app config) nothing opened _ consumed]
      exact ⟨after, rfl, drop_of_suffix leaves.1, draining, readClosed⟩
    | close =>
      rw [offer_of_open (serving app config) nothing opened _ consumed]
      exact ⟨after.channel.left, after.close, rfl, .inl rfl, trivial⟩
    | upgraded conversation rest =>
      obtain ⟨used, taken⟩ : ∃ used, c.inbound.length - rest.length = used + 1 :=
        Nat.exists_eq_succ_of_ne_zero (by have := leaves.2; omega)
      simp only [Active.ofStop, taken] at consumed
      rw [offer_of_open (serving app config) nothing opened _ consumed]
      have left := drop_of_suffix leaves.1
      rw [taken] at left
      simp only [left]
      exact offer_webSocket
        (c := { c with host := shownHost, protocol := .webSocket conversation, inbound := rest })
        calm after draining readClosed rfl sound

/-- What was read takes a connection as far as it takes the course. -/
theorem process_reaches (config : Config) (calm : app.Calm) {active : Active app.Handler}
    {rest : Bytes} (h : c.Goes active rest host) (sound : (Course.goes active rest host).Sound)
    (bytes : Bytes) (source : Source) :
    (({ c with source, inbound := c.inbound ++ bytes } : Connection app _).process
      (serving app config)).Reaches ((Course.goes active rest host).feed config bytes) := by
  obtain ⟨alike, protocol, inbound, draining, readClosed⟩ := h
  obtain ⟨activeSound, isOpen, awaits⟩ := sound
  have goesOn : ¬ c.draining = true := Bool.eq_false_iff.1 draining
  rw [process, if_neg goesOn, inbound]
  cases active with
  | webSocket conversation =>
    exact offer_webSocket (c := { c with source, inbound := rest ++ bytes }) calm alike draining
      readClosed protocol activeSound
  | http pending =>
    exact offer_http (c := { c with source, inbound := rest ++ bytes }) calm alike draining
      readClosed protocol activeSound (awaits pending rfl).need_pos

end Connection
end WebServer

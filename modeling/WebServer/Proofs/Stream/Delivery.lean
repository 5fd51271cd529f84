import WebServer.Proofs.Stream.Offers

/-!
# Delivery of a stream

The bytes of a peer reach a connection in pieces that neither side chooses: they arrive in some
pieces, and each readable event reads some of what has arrived, as the chunk and the socket will
have it. `Delivered` says how a connection can come about from another one while the peer sends
certain bytes. The run of a connection stays on the course of the bytes that were read, and a
course does not depend on how its bytes were cut. So two connections that are done with the same
stream did the same (`delivery_cut_independent`).
-/
namespace WebServer

variable {app : App}

namespace Connection

variable {c : Connection app (Active app.Handler)} {config : Config}

theorem flush_of_flowing (flowing : c.host.channel.Flowing) :
    { c with host := c.host.flush } = c := by
  simp only [Host.flush, flowing.flush_eq]

theorem settle_of_flowing (flowing : c.host.channel.Flowing) (writable : Bool) :
    c.settle writable = if c.draining then c.close else c := by
  have sent : c.host.channel.hasPending = false := by simp [Channel.hasPending, flowing.queue]
  unfold settle closeIfDrained
  cases writable <;> simp [flush_of_flowing flowing, sent]

/-- At the end of an event a connection is where its course is. -/
theorem Reaches.settle {x : Course app} (h : c.Reaches x) (halted : x.Sound) (writable : Bool) :
    (c.settle writable).Tracks x := by
  cases x with
  | goes active rest host =>
    obtain ⟨alike, protocol, inbound, draining, readClosed⟩ := h
    rw [settle_of_flowing alike.channel.left, draining]
    exact ⟨alike, protocol, inbound, draining, readClosed⟩
  | halted active host =>
    obtain ⟨flowing, alike, name, ends, -⟩ := h
    rw [settle_of_flowing flowing]
    split
    · refine ⟨alike, name, ?_⟩
      rw [isClosed_eq (show c.close.host.Alike host from alike), halted.2.1]
      rfl
    · rename_i goesOn
      have closed := ends.resolve_left goesOn
      rw [Host.close_of_closed (by simpa [isClosed] using closed)] at alike
      exact ⟨alike, name, closed⟩

/-- The end of the stream ends the course. -/
theorem Reaches.endOfStream (config : Config) {x : Course app} (h : c.Reaches x) :
    (c.endOfStream (serving app config)).Reaches x.finish := by
  cases x with
  | goes active rest host =>
    obtain ⟨alike, protocol, inbound, draining, readClosed⟩ := h
    have shown := alike.record_left .peerClosed rfl rfl
    obtain ⟨same, after⟩ := shown.finish active
    rw [← protocol] at same after ⊢
    refine ⟨after.channel.left, after.close, ?_, .inl rfl, Active.told_finish _ _⟩
    exact congrArg Active.name same
  | halted active host =>
    obtain ⟨flowing, alike, name, ends, told⟩ := h
    have silent := Active.finish_of_told told (c.host.record .peerClosed)
    have shown : (c.host.record .peerClosed).close.Alike host :=
      ((Host.Alike.refl flowing).record_left .peerClosed rfl rfl).close.trans alike
    refine ⟨?_, ?_, (Active.name_finish _ _).trans name, .inl rfl, Active.told_finish _ _⟩
    · show ((c.protocol.finish (c.host.record .peerClosed)).2).channel.Flowing
      rw [silent]
      exact flowing.record _
    · show ((c.protocol.finish (c.host.record .peerClosed)).2).close.Alike host
      rw [silent]
      exact shown

/-- Bytes of the peer arrive. -/
def arrive (c : Connection app (Active app.Handler)) (piece : Bytes) :
    Connection app (Active app.Handler) :=
  { c with source := { c.source with arrived := c.source.arrived ++ piece } }

/-- The peer ends its stream. -/
def arriveEnd (c : Connection app (Active app.Handler)) : Connection app (Active app.Handler) :=
  { c with source := { c.source with ended := true } }

/-- The socket becomes ready, and reads are then answered so. -/
def ready (config : Config) (c : Connection app (Active app.Handler)) (answers : List ReadAnswer)
    (readable writable : Bool) : Connection app (Active app.Handler) :=
  onEvent (serving app config) { c with source := { c.source with answers } }
    { readable, writable }

/-- A closed connection reads no more. -/
theorem ready_of_closed (closed : c.isClosed = true) (answers : List ReadAnswer)
    (readable writable : Bool) : c.ready config answers readable writable =
      { c with source := { c.source with answers } } :=
  if_pos closed

/-- What a connection can come to while the peer sends these bytes, and perhaps the end of its
stream behind them. -/
inductive Delivered (config : Config) (first : Connection app (Active app.Handler)) :
    Bytes → Bool → Connection app (Active app.Handler) → Prop where
  | start : Delivered config first [] false first
  | arrives {bytes : Bytes} {c : Connection app (Active app.Handler)} (piece : Bytes)
    (before : Delivered config first bytes false c) :
    Delivered config first (bytes ++ piece) false (c.arrive piece)
  | ends {bytes : Bytes} {c : Connection app (Active app.Handler)}
    (before : Delivered config first bytes false c) :
    Delivered config first bytes true c.arriveEnd
  | ready {bytes : Bytes} {ended : Bool} {c : Connection app (Active app.Handler)}
    (answers : List ReadAnswer) (soft : ∀ answer ∈ answers, answer.Soft)
    (readable writable : Bool) (before : Delivered config first bytes ended c) :
    Delivered config first bytes ended (c.ready config answers readable writable)

/-- A new connection of a server. -/
def fresh (wire : Wire) (tables : app.Tables) (now chunk : Nat) :
    Connection app (Active app.Handler) :=
  { host := { channel := { wire }, tables, now }, protocol := .http none, chunk }

/-- Everything that arrived was read, or the connection is closed and reads nothing more. -/
def Done (c : Connection app (Active app.Handler)) (ended : Bool) : Prop :=
  c.isClosed = true ∨ c.source.arrived = [] ∧ (ended = true → c.readClosed = true)

/-- How far a connection has come with what the peer sent. -/
inductive Progress (config : Config) (first : Course app) (bytes : Bytes) (ended : Bool)
    (c : Connection app (Active app.Handler)) : Prop where
  | reading {active : Active app.Handler} {rest : Bytes} {host : Host app} (read : Bytes)
    (sent : bytes = read ++ c.source.arrived) (same : c.source.ended = ended)
    (chunk : 0 < c.chunk) (course : first.feed config read = .goes active rest host)
    (goes : c.Goes active rest host)
  /-- The protocol wanted the connection closed before all was read, or just then. -/
  | stopped {active : Active app.Handler} {host : Host app} (read unread : Bytes)
    (sent : bytes = read ++ unread) (course : first.feed config read = .halted active host)
    (halted : c.Halted active host)
  | finished {active : Active app.Handler} {host : Host app} (atEnd : ended = true)
    (course : (first.feed config bytes).finish = .halted active host)
    (halted : c.Halted active host)

/-- Where a connection is after an event that read some bytes. -/
theorem Progress.of_tracks {first : Course app} {bytes read : Bytes} {ended : Bool}
    (sent : bytes = read ++ c.source.arrived) (same : c.source.ended = ended) (chunk : 0 < c.chunk)
    (tracks : c.Tracks (first.feed config read)) : Progress config first bytes ended c := by
  cases course : first.feed config read with
  | goes active rest host =>
    rw [course] at tracks
    exact .reading read sent same chunk course tracks
  | halted active host =>
    rw [course] at tracks
    exact .stopped read _ sent course tracks

theorem reading_settle (c : Connection app (Active app.Handler)) (writable : Bool) :
    (c.settle writable).source = c.source ∧ (c.settle writable).chunk = c.chunk ∧
      (c.settle writable).readClosed = c.readClosed := by
  unfold settle closeIfDrained
  cases writable <;> simp only [Bool.false_eq_true, if_true, if_false] <;> split <;>
    exact ⟨rfl, rfl, rfl⟩

theorem onEvent_readable (opened : c.isClosed = false) (readClosed : c.readClosed = false)
    (writable : Bool) :
    c.onEvent (serving app config) { readable := true, writable } =
      let got := c.source.readAll c.chunk []
      let read := { c with source := got.2.2, inbound := c.inbound ++ got.2.1 }
      match got.1 with
      | .more => (read.process (serving app config)).settle writable
      | .ended =>
        ((read.process (serving app config)).endOfStream (serving app config)).settle writable
      | .failed => read.hangUp (serving app config) := by
  have reads : (true && !c.readClosed) = true := by rw [readClosed]; rfl
  have notClosed : ¬ c.isClosed = true := Bool.eq_false_iff.1 opened
  unfold onEvent
  exact (if_neg notClosed).trans ((if_neg Bool.false_ne_true).trans (if_pos reads))

/-- What an event on an open connection comes to, if reads do not fail. -/
theorem progress_of_goes (calm : app.Calm) {first : Course app} (sound : first.Sound)
    {bytes read : Bytes} {ended : Bool} {active : Active app.Handler} {rest : Bytes}
    {host : Host app} (sent : bytes = read ++ c.source.arrived) (same : c.source.ended = ended)
    (chunk : 0 < c.chunk) (course : first.feed config read = .goes active rest host)
    (goes : c.Goes active rest host) (soft : ∀ answer ∈ c.source.answers, answer.Soft)
    (readable writable : Bool) :
    Progress config first bytes ended
      (c.onEvent (serving app config) { readable, writable }) := by
  have valid : (Course.goes active rest host).Sound :=
    course ▸ Course.feed_sound calm config sound read
  have opened : c.isClosed = false := by rw [isClosed_eq goes.alike, valid.2.1]; rfl
  cases readable with
  | false =>
    unfold onEvent
    rw [if_neg (Bool.eq_false_iff.1 opened), if_neg Bool.false_ne_true,
      if_neg (by simp), settle_of_flowing goes.alike.channel.left, goes.draining]
    exact .reading read sent same chunk course goes
  | true =>
    rw [onEvent_readable opened goes.readClosed]
    obtain ⟨whole, stillEnded, works, atEnd⟩ := Source.readAll_soft chunk soft []
    generalize c.source.readAll c.chunk [] = result at whole stillEnded works atEnd ⊢
    obtain ⟨readEnd, got, source⟩ := result
    simp only [List.reverse_nil, List.nil_append] at whole stillEnded works atEnd ⊢
    have reached := process_reaches config calm goes valid got source
    rw [← course, ← Course.feed_append calm config sound] at reached
    have soundThen := Course.feed_sound calm config sound (read ++ got)
    obtain ⟨sourceThen, chunkThen⟩ := reading_process (serving app config)
      { c with source, inbound := c.inbound ++ got }
    generalize ({ c with source, inbound := c.inbound ++ got } : Connection app _).process
      (serving app config) = after at reached sourceThen chunkThen ⊢
    cases readEnd with
    | failed => exact absurd rfl works
    | more =>
      obtain ⟨sourceLast, chunkLast, -⟩ := reading_settle after writable
      refine .of_tracks ?_ ?_ ?_ (reached.settle soundThen writable)
      · rw [sourceLast, sourceThen, sent, ← whole, List.append_assoc]
      · rw [sourceLast, sourceThen, stillEnded, same]
      · rw [chunkLast, chunkThen]
        exact chunk
    | ended =>
      obtain ⟨none, halted⟩ := atEnd rfl
      have all : read ++ got = bytes := by rw [sent, ← whole, none, List.append_nil]
      rw [all] at reached soundThen
      obtain ⟨last, lastHost, course⟩ := (first.feed config bytes).finish_eq_halted
      have tracks := (reached.endOfStream config).settle (Course.finish_sound soundThen) writable
      rw [course] at tracks
      exact .finished (same ▸ halted) course tracks

/-- Every connection that a stream can be delivered to is on the course of the stream. -/
theorem progress_of_delivered (calm : app.Calm) {first : Connection app (Active app.Handler)}
    {x : Course app} (sound : x.Sound) (start : Progress config x [] false first) {bytes : Bytes}
    {ended : Bool} (h : Delivered config first bytes ended c) :
    Progress config x bytes ended c := by
  induction h with
  | start => exact start
  | @arrives bytes c piece before ih =>
    cases ih with
    | reading read sent same chunk course goes =>
      refine .reading read ?_ same chunk course ⟨goes.alike, goes.protocol, goes.inbound,
        goes.draining, goes.readClosed⟩
      rw [sent, List.append_assoc]
      rfl
    | stopped read unread sent course halted =>
      exact .stopped read (unread ++ piece) (by rw [sent, List.append_assoc]) course
        ⟨halted.alike, halted.name, halted.closed⟩
    | finished atEnd => cases atEnd
  | @ends bytes c before ih =>
    cases ih with
    | reading read sent same chunk course goes =>
      exact .reading read sent rfl chunk course ⟨goes.alike, goes.protocol, goes.inbound,
        goes.draining, goes.readClosed⟩
    | stopped read unread sent course halted =>
      exact .stopped read unread sent course ⟨halted.alike, halted.name, halted.closed⟩
    | finished atEnd => cases atEnd
  | @ready bytes ended c answers soft readable writable before ih =>
    cases ih with
    | @reading active rest host read sent same chunk course goes =>
      exact progress_of_goes (c := { c with source := { c.source with answers } }) calm sound
        sent same chunk course
        ⟨goes.alike, goes.protocol, goes.inbound, goes.draining, goes.readClosed⟩ soft readable
        writable
    | stopped read unread sent course halted =>
      rw [ready_of_closed halted.closed]
      exact .stopped read unread sent course ⟨halted.alike, halted.name, halted.closed⟩
    | finished atEnd course halted =>
      rw [ready_of_closed halted.closed]
      exact .finished atEnd course ⟨halted.alike, halted.name, halted.closed⟩

/-- A readable event with no answers scripted leaves nothing unread on an open connection, and
finds the end of the stream if there was nothing else to read. -/
theorem source_of_readable (config : Config) (opened : c.isClosed = false)
    (readClosed : c.readClosed = false) (plain : c.source.answers = []) (chunk : 0 < c.chunk) :
    (c.onEvent (serving app config) { readable := true }).source.arrived = [] ∧
      (c.source.arrived = [] → c.source.ended = true →
        (c.onEvent (serving app config) { readable := true }).readClosed = true) := by
  obtain ⟨size, sized⟩ := Nat.exists_eq_succ_of_ne_zero (Nat.ne_of_gt chunk)
  have all := Source.readAll_unscripted plain size []
  have atEnd := Source.readAll_at_end plain size
  rw [← Nat.succ_eq_add_one, ← sized] at all atEnd
  rw [onEvent_readable opened readClosed]
  generalize c.source.readAll c.chunk [] = got at all atEnd ⊢
  obtain ⟨readEnd, bytes, source⟩ := got
  have reading := (reading_process (serving app config)
    { c with source, inbound := c.inbound ++ bytes }).1
  cases readEnd with
  | more =>
    refine ⟨?_, fun none ended => absurd (atEnd none ended) nofun⟩
    rw [(reading_settle _ _).1]
    exact (congrArg Source.arrived reading).trans all
  | ended =>
    refine ⟨?_, fun _ _ => (reading_settle _ _).2.2⟩
    rw [(reading_settle _ _).1]
    exact (congrArg Source.arrived reading).trans all
  | failed => exact ⟨all, fun none ended => absurd (atEnd none ended) nofun⟩

theorem Progress.closed_or_reading {x : Course app} {bytes : Bytes} {ended : Bool}
    (h : Progress config x bytes ended c) :
    c.isClosed = true ∨ c.readClosed = false ∧ 0 < c.chunk ∧ c.source.ended = ended := by
  cases h with
  | reading read sent same chunk course goes => exact .inr ⟨goes.readClosed, chunk, same⟩
  | stopped read unread sent course halted => exact .inl halted.closed
  | finished atEnd course halted => exact .inl halted.closed

/-- A readable event with no answers scripted leaves nothing unread, and finds the end of the
stream if there was nothing else to read. -/
theorem Progress.of_readable {x : Course app} {bytes : Bytes} {ended : Bool}
    (h : Progress config x bytes ended c) :
    (c.ready config [] true false).isClosed = true ∨
      (c.ready config [] true false).source.arrived = [] ∧
        (c.source.arrived = [] → ended = true →
          (c.ready config [] true false).readClosed = true) := by
  cases closed : c.isClosed with
  | true =>
    rw [ready_of_closed closed]
    exact .inl closed
  | false =>
    obtain ⟨readClosed, chunk, same⟩ :=
      h.closed_or_reading.resolve_left (Bool.eq_false_iff.1 closed)
    obtain ⟨nothing, atEnd⟩ := source_of_readable config
      (c := { c with source := { c.source with answers := [] } }) closed readClosed rfl chunk
    exact .inr ⟨nothing, fun none last => atEnd none (same.trans last)⟩

/-- Whatever was delivered, two readable events more are enough to be done with it: the first reads
what there is, the second finds the end. -/
theorem done_of_readable (calm : app.Calm) {first : Connection app (Active app.Handler)}
    {x : Course app} (sound : x.Sound) (start : Progress config x [] false first) {bytes : Bytes}
    {ended : Bool} (h : Delivered config first bytes ended c) :
    ((c.ready config [] true false).ready config [] true false).Done ended := by
  have stands {c : Connection app (Active app.Handler)}
      (h : Delivered config first bytes ended c) : Progress config x bytes ended c :=
    progress_of_delivered calm sound start h
  have read := stands (.ready [] nofun true false h)
  rcases read.of_readable with closed | ⟨nothing', atEnd⟩
  · exact .inl closed
  · rcases (stands h).of_readable with closed | ⟨nothing, -⟩
    · rw [ready_of_closed closed]
      exact .inl closed
    · exact .inr ⟨nothing', atEnd nothing⟩

/-- The course of a whole stream. -/
def wholeCourse (config : Config) (tables : app.Tables) (now : Nat) (bytes : Bytes) (ended : Bool) :
    Course app :=
  let course := (Course.fresh tables now).feed config bytes
  if ended then course.finish else course

/-- A connection that is done with a stream is where the course of the stream leads. -/
theorem Progress.of_done (calm : app.Calm) {tables : app.Tables} {now : Nat} {bytes : Bytes}
    {ended : Bool} (h : Progress config (Course.fresh tables now) bytes ended c)
    (done : c.Done ended) : c.Tracks (wholeCourse config tables now bytes ended) := by
  have sound := Course.fresh_sound tables now
  cases h with
  | reading read sent same chunk course goes =>
    have valid := Course.feed_sound calm config sound read
    rw [course] at valid
    have opened : ¬ c.isClosed = true := by simp [isClosed_eq goes.alike, valid.2.1]
    obtain ⟨none, all⟩ := done.resolve_left opened
    have goesOn : ended = false := by
      cases ended with
      | false => rfl
      | true => exact absurd (all rfl) (Bool.eq_false_iff.1 goes.readClosed)
    rw [none, List.append_nil] at sent
    rw [wholeCourse, goesOn, sent, course]
    exact goes
  | @stopped active host read unread sent course halted =>
    have same : (Course.fresh tables now).feed config bytes = .halted active host := by
      rw [sent, Course.feed_append calm config sound, course]
      rfl
    unfold wholeCourse
    rw [same]
    cases ended <;> exact halted
  | finished atEnd course halted =>
    rw [wholeCourse, atEnd, if_pos rfl, course]
    exact halted

/-- What the outside can tell of the state of a connection. -/
inductive Status where
  | opened | draining | closed
  deriving DecidableEq, Repr

def status (c : Connection app (Active app.Handler)) : Status :=
  if c.isClosed then .closed else if c.draining then .draining else .opened

theorem Tracks.agree {x : Course app} {c c' : Connection app (Active app.Handler)}
    (h : c.Tracks x) (h' : c'.Tracks x) :
    c.host.Alike c'.host ∧ c.protocol.name = c'.protocol.name ∧ c.status = c'.status := by
  cases x with
  | goes active rest host =>
    have alike := h.alike.trans h'.alike.symm
    refine ⟨alike, by rw [h.protocol, h'.protocol], ?_⟩
    rw [status, status, isClosed_eq alike, isClosed_eq (Host.Alike.refl alike.channel.right),
      h.draining, h'.draining]
  | halted active host =>
    refine ⟨h.alike.trans h'.alike.symm, h.name.trans h'.name.symm, ?_⟩
    rw [status, status, if_pos h.closed, if_pos h'.closed]

/-- A new connection is at the beginning of its course. -/
theorem progress_fresh {wire : Wire} (accepting : wire.Accepting) {chunk : Nat} (pos : 0 < chunk)
    (config : Config) (tables : app.Tables) (now : Nat) :
    Progress config (Course.fresh tables now) [] false (fresh wire tables now chunk) := by
  refine .reading [] rfl rfl pos (Course.feed_nil_fresh config tables now) ⟨?_, rfl, rfl, rfl, rfl⟩
  exact .mk ⟨⟨accepting, rfl⟩, ⟨.plain, rfl⟩, rfl, rfl, rfl⟩

/-- Two new connections to which the same stream is delivered, cut and read in whatever way over
wires that accept everything, are done with it after two more readable events at the latest, and
then they are done with it in the same way: the same functions of the application were called with
the same arguments, all that was done was done in the same order, the same bytes were accepted, and
the same protocol is active on connections of the same status. -/
theorem delivery_cut_independent (calm : app.Calm) (config : Config) (tables : app.Tables)
    (now : Nat) {wire wire' : Wire} (accepting : wire.Accepting) (accepting' : wire'.Accepting)
    {chunk chunk' : Nat} (pos : 0 < chunk) (pos' : 0 < chunk') {bytes : Bytes} {ended : Bool}
    {c c' : Connection app (Active app.Handler)}
    (run : Delivered config (fresh wire tables now chunk) bytes ended c)
    (run' : Delivered config (fresh wire' tables now chunk') bytes ended c') :
    ((c.ready config [] true false).ready config [] true false).Done ended ∧
      ((c'.ready config [] true false).ready config [] true false).Done ended ∧
      (c.Done ended → c'.Done ended →
        deedsIn c.host.channel.trace = deedsIn c'.host.channel.trace ∧
          acceptedIn c.host.channel.trace = acceptedIn c'.host.channel.trace ∧
          c.protocol.name = c'.protocol.name ∧ c.status = c'.status) := by
  have sound := Course.fresh_sound tables now
  have start {wire : Wire} {chunk : Nat} (accepting : wire.Accepting) (pos : 0 < chunk) :=
    progress_fresh accepting pos config tables now
  refine ⟨done_of_readable calm sound (start accepting pos) run,
    done_of_readable calm sound (start accepting' pos') run', fun done done' => ?_⟩
  have tracks := (progress_of_delivered calm sound (start accepting pos) run).of_done calm done
  have tracks' := (progress_of_delivered calm sound (start accepting' pos') run').of_done calm done'
  obtain ⟨alike, name, status⟩ := tracks.agree tracks'
  exact ⟨alike.channel.deeds, alike.channel.accepted, name, status⟩

/-- A request that is read at one go and one that is cut inside the end of its head, and read three
bytes at a time, are answered in the same way. -/
theorem request_cut_in_head_end :
    let head := Text.encode "GET / HTTP/1.1\r\n\r"
    let last := Text.encode "\n"
    let first (chunk : Nat) : Connection bareApp (Active bareApp.Handler) := fresh {} {} 0 chunk
    let c := ((first 4096).arrive (head ++ last)).ready {} [] true false
    let c' := ((((first 3).arrive head).ready {} [.wouldBlock] true true).arrive last).ready {} []
      true false
    deedsIn c.host.channel.trace = deedsIn c'.host.channel.trace ∧
      acceptedIn c.host.channel.trace = acceptedIn c'.host.channel.trace ∧
      c.protocol.name = c'.protocol.name ∧ c.status = c'.status := by
  intro head last first c c'
  have accepting : Wire.Accepting {} := .plain
  have soft : ∀ answer ∈ [ReadAnswer.wouldBlock], answer.Soft := by simp [ReadAnswer.Soft]
  have run : Delivered {} (first 4096) ([] ++ (head ++ last)) false c :=
    .ready [] nofun true false (.arrives _ .start)
  have run' : Delivered {} (first 3) (([] ++ head) ++ last) false c' :=
    .ready [] nofun true false
      (.arrives last (.ready [.wouldBlock] soft true true (.arrives head .start)))
  rw [List.append_assoc] at run'
  have read {chunk : Nat} (pos : 0 < chunk) {bytes : Bytes}
      {d : Connection bareApp (Active bareApp.Handler)}
      (h : Delivered {} (first chunk) bytes false d) :
      (d.ready {} [] true false).Done false := by
    have stands := progress_of_delivered bareApp_calm (Course.fresh_sound {} 0)
      (progress_fresh accepting pos {} {} 0) h
    exact stands.of_readable.imp id fun nothing => ⟨nothing.1, nofun⟩
  obtain ⟨-, -, alike⟩ := delivery_cut_independent bareApp_calm {} {} 0 accepting accepting
    (by decide) (by decide) run run'
  exact alike (read (by decide) (.arrives _ .start))
    (read (by decide) (.arrives last (.ready [.wouldBlock] soft true true (.arrives head .start))))

end Connection
end WebServer

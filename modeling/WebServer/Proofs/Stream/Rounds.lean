import WebServer.Proofs.Stream.Windows
import WebServer.Proofs.WebSocket.Idle
import WebServer.Proofs.WebSocket.Offsets
import WebServer.Proofs.WebSocket.Violations
import WebServer.Server.Checking

/-!
# Rounds

Both protocols take a window in a loop without a bound. A round ends the loop, or the loop goes on
behind the bytes that were taken. A round of a conversation that finds a frame at fault takes
nothing: the loop ends there only because the close that is asked for is not refused, as its reason
always fits. Here the rounds are made one by one, and a round that decodes adds its offsets in
machine words, so that it may fail. The loops come to what `consumeChecked` gives, in no more rounds
than there is room for frames or heads, and two. With a limit that leaves room for a header that is
what `consume` gives; with a greater one a peer can make the loop fail (`loops_end`).
-/
namespace WebServer

/-- How a round of a loop comes out. -/
inductive Round (α β : Type) where
  | ends (result : β)
  | again (next : α)

/-- Makes rounds until one of them ends the loop, but no more than so many. -/
def repeatUntil {α β : Type} (round : α → Round α β) : Nat → α → Option β
  | 0, _ => none
  | rounds + 1, state =>
    match round state with
    | .ends result => some result
    | .again next => repeatUntil round rounds next

/-- What a loop has to come to, and why it gets there: each round keeps both the invariant and the
value, and lowers the measure. -/
structure Round.Lowers {α β : Type} (round : α → Round α β) (inv : α → Prop) (value : α → β)
    (measure : α → Nat) : Prop where
  ends : ∀ state result, inv state → round state = .ends result → value state = result
  again : ∀ state next, inv state → round state = .again next →
    inv next ∧ value state = value next ∧ measure next < measure state

/-- Such a loop ends, as soon as it may make more rounds than the measure says. -/
theorem Round.Lowers.repeatUntil_eq {α β : Type} {round : α → Round α β} {inv : α → Prop}
    {value : α → β} {measure : α → Nat} (lowers : Lowers round inv value measure) {rounds : Nat}
    {state : α} (holds : inv state) (enough : measure state < rounds) :
    repeatUntil round rounds state = some (value state) := by
  induction rounds generalizing state with
  | zero => omega
  | succ rounds ih =>
    rw [repeatUntil]
    cases turn : round state with
    | ends result => rw [lowers.ends state result holds turn]
    | again next =>
      obtain ⟨kept, same, less⟩ := lowers.again state next holds turn
      rw [same]
      exact ih kept (by omega)

theorem length_sub_length_drop {data : Bytes} {used : Nat} (within : used ≤ data.length) :
    data.length - (data.drop used).length = used := by
  rw [List.length_drop]
  omega

namespace WebSocket.Conversation

variable {ε σ : Type} (react : React ε σ)

/-- A round of taking frames from some data, of which a part is taken. The handler is told of a
close from this side. Then one frame is taken, or found at fault. Without a result is the round in
which a sum of offsets is no word. -/
def round (data : Bytes) (state : Conversation ε σ × Nat) :
    Round (Conversation ε σ × Nat) (Option (Consumed (Conversation ε σ))) :=
  let c := state.1.settle react
  if c.socket.session.closing then .ends (some ⟨data.length, c, .close⟩)
  else match Frame.decodeBy .checked c.limit (data.drop state.2) with
    | none => .ends none
    | some (.ok none) => .ends (some ⟨state.2, c, .wait⟩)
    | some (.ok (some (frame, size))) => .again (c.onFrame react frame, state.2 + size)
    | some (.error fault) => .again (c.fail react (.frame fault), state.2)

variable {react} {c c' : Conversation ε σ} {data : Bytes} {used used' : Nat}

/-- What is settled is open, or over for good. -/
theorem settle_eq_or_over (react : React ε σ) (c : Conversation ε σ) :
    c.settle react = c ∧ c.socket.session.closing = false ∨
      (c.settle react).socket.session = .finished := by
  cases closing : c.socket.session.closing with
  | false => exact .inl ⟨settle_of_open closing, rfl⟩
  | true =>
    refine .inr ?_
    simp only [settle, closing, Bool.not_true, Bool.false_eq_true, if_false]
    split
    · exact notifyClose_of_over react rfl _ _
    · rfl

/-- A fault with a reason that fits ends the conversation for good. -/
theorem fail_of_fits (react : React ε σ) (c : Conversation ε σ) {violation : Violation}
    (fits : violation.reason.utf8ByteSize ≤ reasonLimit) :
    (c.fail react violation).socket.session = .finished := by
  have closed : (c.close violation.code violation.reason).socket.session.closing = true :=
    closing_close c fits
  rcases settle_eq_or_over react (c.close violation.code violation.reason) with
    ⟨-, opened⟩ | finished
  · rw [closed] at opened
    cases opened
  · exact finished

theorem fail_of_decode (react : React ε σ) (c : Conversation ε σ) {limit : Nat} {bytes : Bytes}
    {fault : FrameFault} (refused : Frame.decode limit bytes = .error fault) :
    (c.fail react (.frame fault)).socket.session = .finished :=
  fail_of_fits react c (message_le_of_decode refused)

/-- A round that does not end the loop finds the conversation open, and takes a frame or finds it at
fault. -/
theorem round_again {next : Conversation ε σ × Nat}
    (h : round react data (c, used) = .again next) :
    c.socket.session.closing = false ∧
      ((∃ frame size,
          Frame.decodeBy .checked c.limit (data.drop used) = some (.ok (some (frame, size))) ∧
            next = (c.onFrame react frame, used + size)) ∨
        ∃ fault, Frame.decodeBy .checked c.limit (data.drop used) = some (.error fault) ∧
          next = (c.fail react (.frame fault), used)) := by
  rcases settle_eq_or_over react c with ⟨same, opened⟩ | finished
  · refine ⟨opened, ?_⟩
    simp only [round, same, opened, Bool.false_eq_true, if_false] at h
    split at h
    · cases h
    · cases h
    · rename_i frame size decoded
      exact .inl ⟨frame, size, decoded, (Round.again.inj h).symm⟩
    · rename_i fault refused
      exact .inr ⟨fault, refused, (Round.again.inj h).symm⟩
  · simp only [round, finished, Session.finished, if_true] at h
    cases h

/-- It takes at least six bytes, or it takes none and ends the conversation for good. -/
theorem round_progress (within : used ≤ data.length)
    (h : round react data (c, used) = .again (c', used')) :
    used + 6 ≤ used' ∧ used' ≤ data.length ∨ used' = used ∧ c'.socket.session = .finished := by
  obtain ⟨-, ⟨frame, size, decoded, same⟩ | ⟨fault, refused, same⟩⟩ := round_again h
  · obtain ⟨-, rfl⟩ := Prod.mk.inj same
    have fits := Frame.decodeBy_used decoded
    rw [List.length_drop] at fits
    exact .inl (by omega)
  · obtain ⟨rfl, rfl⟩ := Prod.mk.inj same
    exact .inr ⟨rfl, fail_of_decode react c (Frame.decode_of_checked refused)⟩

/-- One turn of taking frames with checked sums, without the evidence that the loop ends. -/
theorem takeFramesChecked_eq (react : React ε σ) (c : Conversation ε σ) (window : Bytes) :
    c.takeFramesChecked react window =
      if (c.settle react).socket.session.closing then some (none, c.settle react)
      else match Frame.decodeBy .checked (c.settle react).limit window with
        | none => none
        | some (.error fault) => some (none, (c.settle react).fail react (.frame fault))
        | some (.ok none) => some (some window, c.settle react)
        | some (.ok (some (frame, used))) =>
          ((c.settle react).onFrame react frame).takeFramesChecked react (window.drop used) := by
  rw [takeFramesChecked]
  split
  · rfl
  · split <;> rename_i decoded <;> rw [decoded]

/-- An open conversation fails where an overlong frame begins. -/
theorem round_of_overlong (react : React ε σ) (opened : c.socket.session.closing = false)
    (overlong : Frame.Overlong c.limit (data.drop used)) :
    round react data (c, used) = .ends none := by
  simp only [round, settle_of_open opened, opened, Bool.false_eq_true, if_false,
    Frame.decodeBy_checked_eq_none_iff.2 overlong]

theorem takeFramesChecked_of_overlong (react : React ε σ)
    (opened : c.socket.session.closing = false) (overlong : Frame.Overlong c.limit data) :
    c.takeFramesChecked react data = none := by
  simp only [takeFramesChecked_eq, settle_of_open opened, opened, Bool.false_eq_true, if_false,
    Frame.decodeBy_checked_eq_none_iff.2 overlong]

/-- Behind a round that does not end it, the loop comes to the same as before. -/
theorem takeFramesChecked_again (h : round react data (c, used) = .again (c', used')) :
    c.takeFramesChecked react (data.drop used) =
      c'.takeFramesChecked react (data.drop used') := by
  obtain ⟨opened, turn⟩ := round_again h
  rw [takeFramesChecked_eq, settle_of_open opened, if_neg (Bool.eq_false_iff.1 opened)]
  rcases turn with ⟨frame, size, decoded, same⟩ | ⟨fault, refused, same⟩
  · obtain ⟨rfl, rfl⟩ := Prod.mk.inj same
    rw [decoded]
    simp only [List.drop_drop]
  · obtain ⟨rfl, rfl⟩ := Prod.mk.inj same
    have finished := fail_of_decode react c (Frame.decode_of_checked refused)
    rw [refused, takeFramesChecked_eq, settle_of_over react finished, finished]
    rfl

/-- What taking frames comes to, if so much of some data is left. -/
def ofRest (data : Bytes) : Option Bytes × Conversation ε σ → Consumed (Conversation ε σ)
  | (some rest, c) => ⟨data.length - rest.length, c, .wait⟩
  | (none, c) => ⟨data.length, c, .close⟩

/-- What the loop comes to behind the bytes that are taken. -/
def remaining (react : React ε σ) (data : Bytes) (state : Conversation ε σ × Nat) :
    Option (Consumed (Conversation ε σ)) :=
  (state.1.takeFramesChecked react (data.drop state.2)).map (ofRest data)

/-- The rounds that are not the last one. -/
def roundsLeft (data : Bytes) (state : Conversation ε σ × Nat) : Nat :=
  if state.1.socket.session.closing then 0 else (data.length - state.2) / 6 + 1

theorem round_lowers (react : React ε σ) (data : Bytes) :
    Round.Lowers (round react data) (·.2 ≤ data.length) (remaining react data)
      (roundsLeft data) where
  ends := by
    rintro ⟨c, used⟩ result within h
    have within : used ≤ data.length := within
    unfold remaining
    rw [takeFramesChecked_eq]
    simp only [round] at h
    split at h
    · rename_i closing
      rw [if_pos closing]
      exact Round.ends.inj h
    · rename_i opened
      rw [if_neg opened]
      split at h
      · rename_i failed
        rw [failed]
        exact Round.ends.inj h
      · rename_i short
        rw [short]
        simp only [Option.map_some, ofRest, length_sub_length_drop within]
        exact Round.ends.inj h
      · cases h
      · cases h
  again := by
    rintro ⟨c, used⟩ ⟨c', used'⟩ within h
    have progress := round_progress within h
    have opened := (round_again h).1
    have left : roundsLeft data (c, used) = (data.length - used) / 6 + 1 := by
      rw [roundsLeft, opened]
      rfl
    refine ⟨?_, by simp only [remaining, takeFramesChecked_again h], ?_⟩
    · have within : used ≤ data.length := within
      show used' ≤ data.length
      omega
    · rw [left]
      unfold roundsLeft
      split
      · omega
      · rename_i open'
        rcases progress with ⟨more, within'⟩ | ⟨-, finished⟩
        · show (data.length - used') / 6 + 1 < _
          omega
        · rw [finished] at open'
          exact absurd rfl open'

theorem limit_deliver (react : React ε σ) (c : Conversation ε σ) (opcode : Opcode)
    (payload : Bytes) : (c.deliver react opcode payload).limit = c.limit := by
  unfold deliver
  split
  · exact (idles_fail react c _).limit_eq
  · exact limit_call react c _

theorem limit_gather (react : React ε σ) (c : Conversation ε σ) (opcode : Opcode)
    (done payload : Bytes) (fin : Bool) :
    (c.gather react opcode done payload fin).limit = c.limit := by
  unfold gather
  split
  · exact (idles_fail react c _).limit_eq
  · split
    · exact limit_deliver react _ _ _
    · rfl

/-- No frame changes how long messages may be. -/
theorem limit_onFrame (react : React ε σ) (c : Conversation ε σ) (frame : Frame) :
    (c.onFrame react frame).limit = c.limit := by
  unfold onFrame
  split
  · exact (idles_fail react c _).limit_eq
  · exact (idles_fail react c _).limit_eq
  · split
    · exact limit_deliver react c _ _
    · exact limit_gather react c _ _ _ _
  · split
    · exact limit_deliver react c _ _
    · exact limit_gather react c _ _ _ _
  · exact (idles_fail react c _).limit_eq
  · exact limit_gather react c _ _ _ _
  · split
    · exact (idles_fail react c _).limit_eq
    · exact (idles_notifyClose react _ _ _).limit_eq
  · exact limit_call react c _
  · exact limit_call react _ _

/-- A conversation goes on, and what is left begins with an overlong frame. -/
def Stalled (limit : Nat) (rest : Option Bytes) : Prop :=
  ∃ bytes, rest = some bytes ∧ Frame.Overlong limit bytes

/-- With checked sums the same is taken as without, unless an overlong frame comes to be the front
of what is left. -/
theorem takeFramesChecked_cases (react : React ε σ) (c : Conversation ε σ) (window : Bytes)
    (fits : window.length < Frame.wordSize ∨ c.limit + 14 < Frame.wordSize) :
    c.takeFramesChecked react window = none ∧ Stalled c.limit (c.takeFrames react window).1 ∨
      c.takeFramesChecked react window = some (c.takeFrames react window) ∧
        ¬ Stalled c.limit (c.takeFrames react window).1 := by
  induction size : window.length using Nat.strongRecOn generalizing c window with
  | ind length ih =>
    rw [takeFramesChecked_eq, takeFrames_eq, (idles_settle react c).limit_eq]
    split
    · exact .inr ⟨rfl, nofun⟩
    · cases checked : Frame.decodeBy .checked c.limit window with
      | none =>
        have overlong := Frame.decodeBy_checked_eq_none_iff.1 checked
        have short : window.length < Frame.wordSize :=
          fits.resolve_right fun room => Frame.not_overlong_of_lt room overlong
        rw [overlong.decode_eq short]
        exact .inl ⟨rfl, window, rfl, overlong⟩
      | some read =>
        rw [Frame.decode_of_checked checked]
        match read with
        | .error fault => exact .inr ⟨rfl, nofun⟩
        | .ok none =>
          refine .inr ⟨rfl, ?_⟩
          rintro ⟨bytes, same, overlong⟩
          obtain rfl := Option.some.inj same
          rw [Frame.decodeBy_checked_eq_none_iff.2 overlong] at checked
          cases checked
        | .ok (some (frame, used)) =>
          have takes := Frame.decodeBy_used checked
          have shorter : (window.drop used).length < length := by
            rw [List.length_drop]
            omega
          have limit_eq : ((c.settle react).onFrame react frame).limit = c.limit :=
            (limit_onFrame react _ frame).trans (idles_settle react c).limit_eq
          have later := ih _ shorter ((c.settle react).onFrame react frame) (window.drop used)
            (by rw [limit_eq]; omega) rfl
          rwa [limit_eq] at later

end WebSocket.Conversation

variable {app : App}

/-- Where a loop that serves requests stands: the head whose body is awaited, the bytes that are
taken, and the host. -/
abbrev Service (app : App) := Pending × Nat × Host app

/-- The end of a round of serving. The body is taken if all of it is there, and the request is
answered. -/
def serveBody (config : Config) (data : Bytes) (request : Http.Request) (length used : Nat)
    (host : Host app) : Round (Service app) (Consumed (Active app.Handler) × Host app) :=
  if (data.drop used).length < length then
    .ends (⟨used, .http (some (request, length)), .wait⟩, host)
  else
    let answered := host.answer config request ((data.drop used).take length)
    match answered.1 with
    | .next => .again (none, used + length, answered.2)
    | .close => .ends (⟨data.length, .http none, .close⟩, answered.2)
    | .upgraded conversation =>
      .ends (⟨used + length, .webSocket conversation, .switch⟩, answered.2)

/-- A round of serving requests from some data, of which a part is taken. A head is read, unless
there is one already. -/
def serveRound (config : Config) (data : Bytes) :
    Service app → Round (Service app) (Consumed (Active app.Handler) × Host app)
  | (some (request, length), used, host) => serveBody config data request length used host
  | (none, used, host) =>
    match Opening.ofWindow config (data.drop used) with
    | .incomplete => .ends (⟨used, .http none, .wait⟩, host)
    | .unframed fault =>
      .ends (⟨data.length, .http none, .close⟩, host.reject (.request fault) true)
    | .malformed fault rest =>
      let closes := Host.closesOn false (.request fault)
      let host := host.reject (.request fault) closes
      if closes then .ends (⟨data.length, .http none, .close⟩, host)
      else .again (none, data.length - rest.length, host)
    | .request request length rest =>
      serveBody config data request length (data.length - rest.length) host

/-- What a round takes that does not end the loop: at least the end of a head, or the body that was
awaited. -/
def Pending.Taken (pending : Pending) (used used' : Nat) : Prop :=
  match pending with
  | none => used + 4 ≤ used'
  | some (_, length) => used' = used + length

/-- What the loop comes to behind the bytes that are taken. -/
def serveRemaining (config : Config) (data : Bytes) (service : Service app) :
    Consumed (Active app.Handler) × Host app :=
  let served := serveWindow config service.1 (data.drop service.2.1) service.2.2
  (Active.ofStop data served.1, served.2)

/-- The rounds that are not the last one. -/
def Service.roundsLeft (data : Bytes) (service : Service app) : Nat :=
  (data.length - service.2.1) / 4 + if service.1.isSome then 1 else 0

section Serve

variable {config : Config} {data rest : Bytes} {request : Http.Request} {length used : Nat}
  {pending : Pending} {host : Host app} {next : Service app}
  {result : Consumed (Active app.Handler) × Host app}

/-- A head that was read takes at least four bytes, and the loop goes on behind it. -/
theorem Opening.behind (within : used ≤ data.length)
    (h : (∃ request length, ofWindow config (data.drop used) = .request request length rest) ∨
      ∃ fault, ofWindow config (data.drop used) = .malformed fault rest) :
    used + 4 ≤ data.length - rest.length ∧ data.drop (data.length - rest.length) = rest := by
  have less := length_rest_le h
  rw [List.length_drop] at less
  have suffix := (suffix_rest h).trans (List.drop_suffix used data)
  exact ⟨by omega, (List.suffix_iff_eq_drop.1 suffix).symm⟩

/-- A body that is taken is answered, and the loop goes on behind it. -/
theorem serveBody_again (h : serveBody config data request length used host = .again next) :
    next.1 = none ∧ next.2.1 = used + length ∧ used + length ≤ max used data.length ∧
      serveRemaining config data (some (request, length), used, host) =
        serveRemaining config data next := by
  unfold serveBody at h
  split at h
  · cases h
  · rename_i enough
    rw [List.length_drop] at enough
    unfold serveRemaining
    rw [serveWindow_some, Bytes.splitExactly?_eq, if_neg (by rw [List.length_drop]; omega)]
    simp only at h ⊢
    generalize host.answer config request ((data.drop used).take length) = answered at h ⊢
    obtain ⟨sequel, after⟩ := answered
    cases sequel with
    | next =>
      obtain rfl := Round.again.inj h
      refine ⟨rfl, rfl, by omega, ?_⟩
      simp only [List.drop_drop]
    | close | upgraded => cases h

theorem serveBody_ends (within : used ≤ data.length)
    (h : serveBody config data request length used host = .ends result) :
    serveRemaining config data (some (request, length), used, host) = result := by
  unfold serveBody at h
  unfold serveRemaining
  rw [serveWindow_some, Bytes.splitExactly?_eq]
  split at h
  · rename_i short
    obtain rfl := Round.ends.inj h
    rw [if_pos short]
    simp only [Active.ofStop, length_sub_length_drop within]
  · rename_i enough
    rw [if_neg enough]
    rw [List.length_drop] at enough
    simp only at h ⊢
    generalize host.answer config request ((data.drop used).take length) = answered at h ⊢
    obtain ⟨sequel, after⟩ := answered
    cases sequel with
    | next => cases h
    | close =>
      obtain rfl := Round.ends.inj h
      rfl
    | upgraded conversation =>
      obtain rfl := Round.ends.inj h
      have taken : data.length - (data.length - (used + length)) = used + length := by omega
      simp only [Active.ofStop, List.drop_drop, List.length_drop, taken]

/-- A round that does not end the loop takes a head, of at least four bytes, or a body that was
awaited. -/
theorem serveRound_progress (within : used ≤ data.length)
    (h : serveRound config data (pending, used, host) = .again next) :
    next.1 = none ∧ next.2.1 ≤ data.length ∧ pending.Taken used next.2.1 := by
  cases pending with
  | none =>
    simp only [serveRound] at h
    split at h
    · cases h
    · cases h
    · rename_i fault rest opening
      obtain ⟨more, -⟩ := Opening.behind within (.inr ⟨_, opening⟩)
      split at h
      · cases h
      · obtain rfl := Round.again.inj h
        exact ⟨rfl, Nat.sub_le _ _, more⟩
    · rename_i request length rest opening
      obtain ⟨more, -⟩ := Opening.behind within (.inl ⟨_, _, opening⟩)
      obtain ⟨fresh, taken, bound, -⟩ := serveBody_again h
      have behind : used + 4 ≤ next.2.1 := by omega
      exact ⟨fresh, by omega, behind⟩
  | some head =>
    obtain ⟨fresh, taken, bound, -⟩ := serveBody_again h
    exact ⟨fresh, by omega, taken⟩

/-- Behind a head it goes on with the body. -/
theorem serveRemaining_request (within : used ≤ data.length)
    (opening : Opening.ofWindow config (data.drop used) = .request request length rest) :
    serveRemaining config data (none, used, host) =
      serveRemaining config data (some (request, length), data.length - rest.length, host) := by
  obtain ⟨-, behind⟩ := Opening.behind within (.inl ⟨_, _, opening⟩)
  unfold serveRemaining
  rw [serveWindow_none, opening, behind]

/-- A head that is no request is answered, and the loop goes on behind it. -/
theorem serveRemaining_malformed {fault : Http.RequestFault} (within : used ≤ data.length)
    (opening : Opening.ofWindow config (data.drop used) = .malformed fault rest)
    (goesOn : ¬ Host.closesOn false (.request fault) = true) :
    serveRemaining config data (none, used, host) =
      serveRemaining config data (none, data.length - rest.length,
        host.reject (.request fault) (Host.closesOn false (.request fault))) := by
  obtain ⟨-, behind⟩ := Opening.behind within (.inr ⟨_, opening⟩)
  unfold serveRemaining
  rw [serveWindow_none, opening, behind]
  simp only [if_neg goesOn]

/-- Behind a round that does not end it, the loop comes to the same as before. -/
theorem serveRemaining_again (within : used ≤ data.length)
    (h : serveRound config data (pending, used, host) = .again next) :
    serveRemaining config data (pending, used, host) = serveRemaining config data next := by
  cases pending with
  | none =>
    simp only [serveRound] at h
    split at h
    · cases h
    · cases h
    · rename_i fault rest opening
      split at h
      · cases h
      · rename_i goesOn
        obtain rfl := Round.again.inj h
        exact serveRemaining_malformed within opening goesOn
    · rename_i request length rest opening
      rw [serveRemaining_request within opening]
      exact (serveBody_again h).2.2.2
  | some head => exact (serveBody_again h).2.2.2

theorem serveRound_lowers (config : Config) (data : Bytes) :
    Round.Lowers (serveRound config data : Service app → _) (·.2.1 ≤ data.length)
      (serveRemaining config data) (Service.roundsLeft data) where
  ends := by
    rintro ⟨_ | ⟨request, length⟩, used, host⟩ result within h
    · simp only [serveRound] at h
      split at h
      · rename_i opening
        obtain rfl := Round.ends.inj h
        unfold serveRemaining
        rw [serveWindow_none, opening]
        simp only [Active.ofStop, length_sub_length_drop within]
      · rename_i fault opening
        obtain rfl := Round.ends.inj h
        unfold serveRemaining
        rw [serveWindow_none, opening]
        rfl
      · rename_i fault rest opening
        split at h
        · rename_i closes
          obtain rfl := Round.ends.inj h
          unfold serveRemaining
          rw [serveWindow_none, opening]
          simp only [if_pos closes]
          rfl
        · cases h
      · rename_i request length rest opening
        rw [serveRemaining_request within opening]
        exact serveBody_ends (Nat.sub_le _ _) h
    · exact serveBody_ends within h
  again := by
    rintro ⟨pending, used, host⟩ next within h
    obtain ⟨fresh, bound, taken⟩ := serveRound_progress within h
    refine ⟨bound, serveRemaining_again within h, ?_⟩
    simp only [Service.roundsLeft, fresh, Option.isSome_none, Bool.false_eq_true, if_false]
    have within : used ≤ data.length := within
    cases pending with
    | none =>
      simp only [Pending.Taken, Option.isSome_none, Bool.false_eq_true, if_false] at taken ⊢
      omega
    | some head =>
      simp only [Pending.Taken, Option.isSome_some, if_true] at taken ⊢
      omega

end Serve

/-- A close with a reason that fits is never refused. -/
theorem WebSocket.Socket.close_of_fits {ε : Type} (s : Socket ε) (code : CloseCode)
    {reason : String} (fits : reason.utf8ByteSize ≤ reasonLimit) :
    ∃ s', s.close code reason = .ok s' ∧ s'.session.closing = true := by
  unfold close
  rw [if_neg (Nat.not_lt.2 fits)]
  split
  · rename_i closing
    exact ⟨s, rfl, closing⟩
  · exact ⟨_, rfl, rfl⟩

/-- What a conversation says, with the conversation put back. -/
def Active.ofConversation (host : Host app)
    (said : Consumed (WebSocket.Conversation app.Event app.Handler)) :
    Consumed (Active app.Handler) × Host app :=
  (⟨said.used, .webSocket said.protocol.pause, said.move⟩,
    { host with channel := said.protocol.socket.channel })

theorem Active.ofFrames_eq (window : Bytes) (host : Host app)
    (taken : Option Bytes × WebSocket.Conversation app.Event app.Handler) :
    ofFrames window host taken =
      ofConversation host (WebSocket.Conversation.ofRest window taken) := by
  obtain ⟨_ | rest, conversation⟩ := taken <;> rfl

theorem Active.consumeChecked_webSocket (config : Config)
    (conversation : WebSocket.Paused app.Handler) (data : Bytes) (host : Host app) :
    consumeChecked config (.webSocket conversation) data host =
      (WebSocket.Conversation.remaining app.react data
        (conversation.resume host.channel host.now, 0)).map (ofConversation host) := by
  simp only [consumeChecked, WebSocket.Conversation.remaining, List.drop_zero, Option.map_map]
  exact congrArg (Option.map · _) (funext fun taken => ofFrames_eq data host taken)

/-- A limit that leaves room for the largest header and its mask. -/
def Active.Roomy {σ : Type} : Active σ → Prop
  | .http _ => True
  | .webSocket conversation => conversation.limit + 14 < WebSocket.Frame.wordSize

/-- With room, a window is taken with checked sums as it is without. -/
theorem Active.Roomy.consumeChecked_eq {active : Active app.Handler} (roomy : active.Roomy)
    (config : Config) (data : Bytes) (host : Host app) :
    active.consumeChecked config data host = some (active.consume config data host) := by
  cases active with
  | http pending => rfl
  | webSocket conversation =>
    have room : conversation.limit + 14 < WebSocket.Frame.wordSize := roomy
    rcases WebSocket.Conversation.takeFramesChecked_cases app.react
      (conversation.resume host.channel host.now) data (.inr room) with
      ⟨-, bytes, -, overlong⟩ | ⟨taken, -⟩
    · exact absurd overlong (WebSocket.Frame.not_overlong_of_lt room)
    · simp only [consumeChecked, taken, Option.map_some]
      rfl

/-- Without a result a window is left that has an overlong frame at the front of what the
conversation leaves, and no other one that fits into the memory of a machine. -/
theorem Active.consumeChecked_eq_none_iff (config : Config)
    (conversation : WebSocket.Paused app.Handler) {data : Bytes}
    (fits : data.length < WebSocket.Frame.wordSize) (host : Host app) :
    consumeChecked config (.webSocket conversation) data host = none ↔
      WebSocket.Conversation.Stalled conversation.limit
        ((conversation.resume host.channel host.now).takeFrames app.react data).1 := by
  rw [consumeChecked, Option.map_eq_none_iff]
  rcases WebSocket.Conversation.takeFramesChecked_cases app.react
    (conversation.resume host.channel host.now) data (.inl fits) with
    ⟨failed, stalled⟩ | ⟨taken, goesOn⟩
  · exact iff_of_true failed stalled
  · rw [taken]
    exact iff_of_false nofun goesOn

/-- No protocol takes more than there is. -/
theorem Active.used_le (config : Config) (active : Active app.Handler) (data : Bytes)
    (host : Host app) : (active.consume config data host).1.used ≤ data.length := by
  cases active with
  | http pending =>
    simp only [consume]
    cases (serveWindow config pending data host).1 with
    | wait | upgraded => exact Nat.sub_le _ _
    | close => exact Nat.le_refl _
  | webSocket conversation =>
    rw [consume_webSocket]
    simp only
    split
    · exact Nat.sub_le _ _
    · exact Nat.le_refl _

open WebSocket (Conversation Frame Paused Violation)

/-- Whatever state a protocol is in, whatever data it is shown and whatever a handler does, its loop
ends: a conversation comes to its outcome in at most one round for six bytes and two more, and
requests in one for four bytes and two more. If the limit of messages leaves room for the largest
header, the outcome is a result. Under a greater limit it is a failure exactly if an overlong frame
is found where a frame should begin. No more bytes are taken than there are. A round of a
conversation that is not the last takes six bytes or leaves the socket closing, for what is wrong
with a frame is told in a reason that fits, and a close with that is not refused. A round of serving
that is not the last takes four bytes or a body that was awaited. -/
theorem loops_end (config : Config) (data : Bytes) (host : Host app) :
    (∀ conversation : Paused app.Handler, ∃ outcome,
      (∀ rounds, data.length / 6 + 2 ≤ rounds →
        repeatUntil (Conversation.round app.react data) rounds
          (conversation.resume host.channel host.now, 0) = some outcome) ∧
        Active.consumeChecked config (.webSocket conversation) data host =
          outcome.map (Active.ofConversation host)) ∧
      (∀ pending rounds, data.length / 4 + 2 ≤ rounds →
        repeatUntil (serveRound config data) rounds (pending, 0, host) =
          some (Active.consume config (.http pending) data host)) ∧
      (∀ active : Active app.Handler, active.Roomy →
        active.consumeChecked config data host = some (active.consume config data host)) ∧
      (∀ conversation : Paused app.Handler, data.length < Frame.wordSize →
        (Active.consumeChecked config (.webSocket conversation) data host = none ↔
          Conversation.Stalled conversation.limit
            ((conversation.resume host.channel host.now).takeFrames app.react data).1)) ∧
      (∀ active : Active app.Handler, (active.consume config data host).1.used ≤ data.length) ∧
      (∀ c used c' used', used ≤ data.length →
        Conversation.round app.react data (c, used) = .again (c', used') →
          used + 6 ≤ used' ∧ used' ≤ data.length ∨
            used' = used ∧ c'.socket.session.closing = true) ∧
      (∀ limit bytes fault, Frame.decode limit bytes = .error fault →
        (Violation.frame fault).Sized) ∧
      (∀ violation : Violation, violation.Sized → ∀ s : WebSocket.Socket app.Event, ∃ s',
        s.close violation.code violation.reason = .ok s' ∧ s'.session.closing = true) ∧
      ∀ pending used next, used ≤ data.length →
        serveRound config data (pending, used, host) = .again next →
          next.1 = none ∧ next.2.1 ≤ data.length ∧ pending.Taken used next.2.1 := by
  refine ⟨fun conversation => ⟨_, fun rounds enough => ?_,
      Active.consumeChecked_webSocket config conversation data host⟩, ?_,
    fun active roomy => roomy.consumeChecked_eq config data host,
    fun conversation fits => Active.consumeChecked_eq_none_iff config conversation fits host,
    fun active => active.used_le config data host, ?_,
    fun limit bytes fault => WebSocket.sized_of_decode,
    fun violation sized s => s.close_of_fits violation.code sized.reason_le,
    fun pending used next => serveRound_progress⟩
  · refine (Conversation.round_lowers app.react data).repeatUntil_eq (Nat.zero_le _) ?_
    unfold Conversation.roundsLeft
    split <;> omega
  · intro pending rounds enough
    have ended : repeatUntil (serveRound config data) rounds (pending, 0, host) =
        some (serveRemaining config data (pending, 0, host)) := by
      refine (serveRound_lowers config data).repeatUntil_eq (Nat.zero_le _) ?_
      unfold Service.roundsLeft
      split <;> omega
    rw [ended, serveRemaining, List.drop_zero]
    rfl
  · intro c used c' used' within turn
    exact (Conversation.round_progress within turn).imp_right fun ended =>
      ⟨ended.1, congrArg WebSocket.Session.closing ended.2⟩

/-- A frame without a mask takes nothing, and its loop ends in the next round. The longest numbers
fit a reason. An empty head is answered, and its loop goes on behind it. -/
theorem faults_end_or_take :
    let paused : Paused Unit := ⟨{}, (), none, 16, false⟩
    let host : Host bareApp := {}
    let start : Conversation Unit Unit := paused.resume host.channel host.now
    let unmasked : Bytes := [0x81, 0x00]
    (∃ next, Conversation.round bareApp.react unmasked (start, 0) = .again (next, 0) ∧
        next.socket.session.closing = true) ∧
      (∃ result, repeatUntil (Conversation.round bareApp.react unmasked) 2 (start, 0) =
          some (some result) ∧ result.used ≤ 2) ∧
      (∃ s, start.socket.close .tooBig
          (WebSocket.FrameFault.tooBig (2 ^ 64 - 1) (2 ^ 64 - 2)).message = .ok s ∧
        s.session.closing = true) ∧
      ∃ next, serveRound {} Http.crlfcrlf (none, 0, host) = .again next ∧ 4 ≤ next.2.1 := by
  intro paused host start unmasked
  obtain ⟨talks, -, roomy, -, bound, takes, -, fits, -⟩ := loops_end {} unmasked host
  obtain ⟨-, -, -, -, -, -, -, -, serves⟩ := loops_end {} Http.crlfcrlf host
  obtain ⟨outcome, ends, checked⟩ := talks paused
  rw [roomy (.webSocket paused) (show 16 + 14 < Frame.wordSize by decide)] at checked
  obtain ⟨result, rfl, consumed⟩ := Option.map_eq_some_iff.1 checked.symm
  have used : result.used ≤ 2 := by
    have within := bound (.webSocket paused)
    rw [← consumed] at within
    exact within
  have sized : (Violation.frame (.tooBig (2 ^ 64 - 1) (2 ^ 64 - 2))).Sized :=
    ⟨by decide, by decide⟩
  have first : ∃ next, Conversation.round bareApp.react unmasked (start, 0) = .again (next, 0) :=
    ⟨_, rfl⟩
  have head : ∃ next, serveRound {} Http.crlfcrlf (none, 0, host) = .again next := ⟨_, rfl⟩
  obtain ⟨next, first⟩ := first
  obtain ⟨later, head⟩ := head
  refine ⟨⟨next, first, ?_⟩, ⟨result, ends 2 (by decide), used⟩, fits _ sized start.socket,
    later, head, ?_⟩
  · rcases takes start 0 next 0 (by decide) first with ⟨more, -⟩ | ⟨-, closing⟩
    · omega
    · exact closing
  · have taken := (serves none 0 later (by decide) head).2.2
    simpa [Pending.Taken] using taken

/-- Under the greatest limit that a configuration may have, fourteen bytes of a peer leave a fresh
conversation without a result: the end of the payload that they announce is no word. -/
theorem overlong_frame_unanswered :
    let config : Config := { maxMessageSize := 2 ^ 64 - 1 }
    let paused : Paused Unit := ⟨{}, (), none, config.maxMessageSize, false⟩
    let host : Host bareApp := {}
    let data : Bytes := 0x82 :: 0xFF :: (List.replicate 8 0xFF ++ [1, 2, 3, 4])
    config.check = .ok () ∧
      Conversation.round bareApp.react data (paused.resume host.channel host.now, 0) =
        .ends none ∧
      Active.consumeChecked config (.webSocket paused) data host = none := by
  intro config paused host data
  have failed : Frame.decodeBy .checked config.maxMessageSize data = none := by decide +kernel
  have overlong : Frame.Overlong (paused.resume host.channel host.now).limit data :=
    Frame.decodeBy_checked_eq_none_iff.1 failed
  refine ⟨rfl, Conversation.round_of_overlong bareApp.react rfl overlong, ?_⟩
  exact congrArg (Option.map _)
    (Conversation.takeFramesChecked_of_overlong bareApp.react rfl overlong)

end WebServer

import WebServer.Proofs.Connection.CloseFrame
import WebServer.Proofs.Requests.Closing
import WebServer.Proofs.Responses.Delimited
import WebServer.Proofs.WebSocket.Idle

/-!
# Upgrades

A request with an Upgrade field is checked, and if it passes, the socket routes that match are asked
in their order until one of them accepts or panics. `Admitted` says what makes the request a
WebSocket, and `Refused` which check fails first. One of both is the case, and then all of its
consequences come and none of the other's (`upgrade_all_or_nothing`).
-/
namespace WebServer

open Http (Request Failure UpgradeFault)
open WebSocket (Conversation)

/-! ### What an upgrade requires -/

namespace WebSocket.Handshake

/-- The first Upgrade field asks for a WebSocket. -/
def Wanted (request : Request) : Prop :=
  ∃ target, request.headers.Leads "upgrade" target ∧ Text.sameIgnoringCase target "websocket" = true

/-- Some Connection field holds the token `upgrade`. -/
def Tokened (request : Request) : Prop :=
  ∃ field ∈ request.headers.fields, Text.sameIgnoringCase field.1 "connection" = true ∧
    ∃ item ∈ field.2.toList.splitOn ',',
      Text.sameIgnoringCase (String.ofList (Text.trim item)) "upgrade" = true

/-- The first key is this one, and not empty. -/
def Keyed (request : Request) (key : String) : Prop :=
  request.headers.Leads "sec-websocket-key" key ∧ key ≠ ""

/-- A request that may become a WebSocket, with its key. -/
structure Valid (request : Request) (key : String) : Prop where
  wanted : Wanted request
  tokened : Tokened request
  get : request.method = .get
  keyed : Keyed request key
  version : request.headers.Leads "sec-websocket-version" "13"

/-- What is wrong with a request according to the first check that it fails, and the status that
says so. -/
inductive Fails (request : Request) : UpgradeFault → Nat → Prop where
  | target {target : String} (leads : request.headers.Leads "upgrade" target)
    (other : Text.sameIgnoringCase target "websocket" = false) :
    Fails request (.unsupportedTarget target) 501
  | token (wanted : Wanted request) (missing : ¬ Tokened request) :
    Fails request .noUpgradeToken 400
  | method (wanted : Wanted request) (tokened : Tokened request) (other : request.method ≠ .get) :
    Fails request (.wrongMethod request.method) 405
  | key (wanted : Wanted request) (tokened : Tokened request) (get : request.method = .get)
    (missing : ∀ key, ¬ Keyed request key) : Fails request .noKey 400
  | noVersion {key : String} (wanted : Wanted request) (tokened : Tokened request)
    (get : request.method = .get) (keyed : Keyed request key)
    (missing : ∀ stated, ¬ request.headers.Leads "sec-websocket-version" stated) :
    Fails request .noVersion 400
  | version {key stated : String} (wanted : Wanted request) (tokened : Tokened request)
    (get : request.method = .get) (keyed : Keyed request key)
    (leads : request.headers.Leads "sec-websocket-version" stated) (other : stated ≠ "13") :
    Fails request (.unsupportedVersion stated) 400

variable {request : Request} {key : String}

theorem tokened_iff :
    Tokened request ↔ request.headers.hasToken "connection" "upgrade" = true :=
  Http.Headers.hasToken_iff.symm

/-- Every request with an Upgrade field passes all checks, or there is a first one that it fails. -/
theorem fails_or_valid (upgrade : isUpgrade request = true) :
    (∃ fault status, Fails request fault status) ∨ ∃ key, Valid request key := by
  obtain ⟨target, leads⟩ : ∃ target, request.headers.Leads "upgrade" target := by
    cases first : request.headers.get? "upgrade" with
    | some target => exact ⟨target, Http.Headers.get?_eq_some_iff.1 first⟩
    | none =>
      have nowhere := List.find?_eq_none.1 (Option.map_eq_none_iff.1 first)
      obtain ⟨field, member, named⟩ := List.any_eq_true.1 upgrade
      exact absurd named (nowhere field member)
  cases target_eq : Text.sameIgnoringCase target "websocket" with
  | false => exact .inl ⟨_, _, .target leads target_eq⟩
  | true =>
    have wanted : Wanted request := ⟨target, leads, target_eq⟩
    by_cases tokened : Tokened request
    · by_cases get : request.method = .get
      · by_cases keyed : ∃ key, Keyed request key
        · obtain ⟨key, keyed⟩ := keyed
          by_cases stated : ∃ version, request.headers.Leads "sec-websocket-version" version
          · obtain ⟨version, stated⟩ := stated
            by_cases known : version = "13"
            · exact .inr ⟨key, wanted, tokened, get, keyed, known ▸ stated⟩
            · exact .inl ⟨_, _, .version wanted tokened get keyed stated known⟩
          · exact .inl ⟨_, _, .noVersion wanted tokened get keyed (not_exists.1 stated)⟩
        · exact .inl ⟨_, _, .key wanted tokened get (not_exists.1 keyed)⟩
      · exact .inl ⟨_, _, .method wanted tokened get⟩
    · exact .inl ⟨_, _, .token wanted tokened⟩

theorem keyed_iff :
    Keyed request key ↔
      (request.headers.get? "sec-websocket-key").filter (· ≠ "") = some key := by
  rw [Option.filter_eq_some_iff, Http.Headers.get?_eq_some_iff, decide_eq_true_iff]
  rfl

theorem Wanted.sameIgnoringCase (h : Wanted request) :
    Text.sameIgnoringCase ((request.headers.get? "upgrade").getD "") "websocket" = true := by
  obtain ⟨target, leads, same⟩ := h
  rwa [Http.Headers.get?_eq_some_iff.2 leads]

theorem validate_of_valid (h : Valid request key) : validate request = .ok key := by
  unfold validate
  simp only [h.wanted.sameIgnoringCase, tokened_iff.1 h.tokened, h.get, keyed_iff.1 h.keyed,
    Http.Headers.get?_eq_some_iff.2 h.version, version]
  rfl

theorem validate_of_fails {fault : UpgradeFault} {status : Nat}
    (h : Fails request fault status) : validate request = .error fault ∧ fault.status = status := by
  unfold validate
  cases h with
  | target leads other =>
    simp only [Http.Headers.get?_eq_some_iff.2 leads, Option.getD_some, other]
    exact ⟨rfl, rfl⟩
  | token wanted missing =>
    have unmarked := Bool.eq_false_iff.2 (mt tokened_iff.2 missing)
    simp only [wanted.sameIgnoringCase, unmarked]
    exact ⟨rfl, rfl⟩
  | method wanted tokened other =>
    simp only [wanted.sameIgnoringCase, tokened_iff.1 tokened, ne_eq, other, not_false_eq_true,
      if_true]
    exact ⟨rfl, rfl⟩
  | key wanted tokened get missing =>
    have keyless : (request.headers.get? "sec-websocket-key").filter (· ≠ "") = none :=
      Option.eq_none_iff_forall_ne_some.2 fun key found => missing key (keyed_iff.2 found)
    simp only [wanted.sameIgnoringCase, tokened_iff.1 tokened, get, keyless]
    exact ⟨rfl, rfl⟩
  | noVersion wanted tokened get keyed missing =>
    have unstated : request.headers.get? "sec-websocket-version" = none :=
      Option.eq_none_iff_forall_ne_some.2 fun stated found =>
        missing stated (Http.Headers.get?_eq_some_iff.1 found)
    simp only [wanted.sameIgnoringCase, tokened_iff.1 tokened, get, keyed_iff.1 keyed, unstated]
    exact ⟨rfl, rfl⟩
  | version wanted tokened get keyed leads other =>
    simp only [wanted.sameIgnoringCase, tokened_iff.1 tokened, get, keyed_iff.1 keyed,
      Http.Headers.get?_eq_some_iff.2 leads, version, other, if_false]
    exact ⟨rfl, rfl⟩

/-- The answer that switches protocols, byte for byte, with what is accepted of the key. It has
neither a length nor a body. -/
def switching (accepted : String) : Bytes :=
  Text.encode (String.join ["HTTP/1.1 101 Switching Protocols\r\n", "Upgrade: websocket\r\n",
    "Connection: Upgrade\r\n", "Sec-WebSocket-Accept: ", accepted, "\r\n", "\r\n"])

theorem toBytes_response (key : String) :
    (response key).toBytes = switching (acceptKey key) := by
  have status : (response key).statusLine = "HTTP/1.1 101 Switching Protocols\r\n" :=
    (show (response key).statusLine = ({ status := 101 } : Http.Response).statusLine from rfl).trans
      (by decide +kernel)
  have length : (response key).lengthLine = "" := rfl
  have body : (response key).body = [] := rfl
  have others : Text.sameIgnoringCase "Upgrade" "content-length" = false ∧
      Text.sameIgnoringCase "Connection" "content-length" = false ∧
      Text.sameIgnoringCase "Sec-WebSocket-Accept" "content-length" = false := by decide +kernel
  have fields : (response key).writtenHeaders.fields =
      [("Upgrade", "websocket"), ("Connection", "Upgrade"),
        ("Sec-WebSocket-Accept", acceptKey key)] := by
    simp [response, Http.Response.writtenHeaders, Http.Response.header, Http.Headers.insert,
      Http.Headers.erase, Http.Headers.names, others]
  have upgrade : Http.Response.fieldLine ("Upgrade", "websocket") = "Upgrade: websocket\r\n" := by
    decide +kernel
  have connection :
      Http.Response.fieldLine ("Connection", "Upgrade") = "Connection: Upgrade\r\n" := by
    decide +kernel
  have accept : Http.Response.fieldLine ("Sec-WebSocket-Accept", acceptKey key) =
      "Sec-WebSocket-Accept: " ++ (acceptKey key ++ "\r\n") := by
    have named : "Sec-WebSocket-Accept" ++ ": " = "Sec-WebSocket-Accept: " := by decide
    rw [← named, ← String.append_assoc]
    rfl
  rw [Http.Response.toBytes, Http.Response.head, status, length, fields, body, List.append_nil,
    switching]
  simp only [List.map_cons, List.map_nil, upgrade, connection, accept, String.join_cons,
    String.join_nil, String.append_assoc, String.append_empty]

end WebSocket.Handshake

/-! ### Which socket route answers -/

variable {ε : Type} {app : App}

namespace App

variable (request : Request) (route : SocketRoute app.Gate)

/-- What a socket route says to a request; nothing, if the path does not match. -/
def admission? : Option (Admission app.Handler) :=
  (route.captures? request.path).map fun captures =>
    (app.answerUpgrade route.gate request captures).verdict

/-- What is shown when a socket route is asked. -/
def questions : List (Signal app.Event) :=
  match route.captures? request.path with
  | none => []
  | some captures =>
    .asked route.key request captures ::
      (app.answerUpgrade route.gate request captures).notes.map .note

/-- The tables once a socket route was asked, which may change them. -/
def editedBy (tables : app.Tables) (route : SocketRoute app.Gate) : app.Tables :=
  match route.captures? request.path with
  | none => tables
  | some captures => (app.answerUpgrade route.gate request captures).edit tables

/-- The path does not match, or the route declines. -/
def Overlooks : Prop :=
  ∀ admission, admission? request route = some admission → admission = .decline

variable {request route} {tables : app.Tables} {signals : List (Signal app.Event)}
variable {routes : List (SocketRoute app.Gate)}

theorem exists_of_admission? {admission : Admission app.Handler}
    (h : admission? request route = some admission) :
    ∃ captures, route.captures? request.path = some captures ∧
      (app.answerUpgrade route.gate request captures).verdict = admission :=
  Option.map_eq_some_iff.1 h

theorem ask_of_overlooks (h : Overlooks request route) :
    ask request tables signals (route :: routes) =
      ask request (editedBy request tables route) (signals ++ questions request route) routes := by
  rw [ask]
  unfold editedBy questions
  cases matched : route.captures? request.path with
  | none => simp only [List.append_nil]
  | some captures =>
    have declines : (app.answerUpgrade route.gate request captures).verdict = .decline :=
      h _ (by simp only [admission?, matched, Option.map_some])
    simp only [declines]

theorem ask_of_accepts {handler : app.Handler}
    (h : admission? request route = some (.accept handler)) :
    ask request tables signals (route :: routes) =
      ⟨.ok handler, editedBy request tables route, signals ++ questions request route⟩ := by
  obtain ⟨captures, matched, accepts⟩ := exists_of_admission? h
  rw [ask]
  unfold editedBy questions
  simp only [matched, accepts]

theorem ask_of_panics (h : admission? request route = some .panic) :
    ask request tables signals (route :: routes) =
      ⟨.error (.routing .factoryPanicked), editedBy request tables route,
        signals ++ questions request route⟩ := by
  obtain ⟨captures, matched, panics⟩ := exists_of_admission? h
  rw [ask]
  unfold editedBy questions
  simp only [matched, panics]

/-- Routes that decline are asked one after another. -/
theorem ask_append {earlier : List (SocketRoute app.Gate)}
    (declined : ∀ route ∈ earlier, Overlooks request route) :
    ask request tables signals (earlier ++ routes) =
      ask request (earlier.foldl (editedBy request) tables)
        (signals ++ earlier.flatMap (questions request)) routes := by
  induction earlier generalizing tables signals with
  | nil => simp
  | cons route earlier ih =>
    obtain ⟨first, others⟩ := List.forall_mem_cons.1 declined
    rw [List.cons_append, ask_of_overlooks first, ih others, List.foldl_cons, List.flatMap_cons,
      List.append_assoc]

/-- All routes decline, or there is a first one that does not. -/
theorem overlooked_or_answered (request : Request) (routes : List (SocketRoute app.Gate)) :
    (∀ route ∈ routes, Overlooks request route) ∨
      ∃ earlier route later, routes = earlier ++ route :: later ∧
        (∀ route ∈ earlier, Overlooks request route) ∧
        ((∃ handler, admission? request route = some (.accept handler)) ∨
          admission? request route = some .panic) := by
  induction routes with
  | nil => exact .inl (List.forall_mem_nil _)
  | cons route routes ih =>
    by_cases overlooks : Overlooks request route
    · rcases ih with all | ⟨earlier, answers, later, rfl, declined, answered⟩
      · exact .inl (List.forall_mem_cons.2 ⟨overlooks, all⟩)
      · exact .inr ⟨route :: earlier, answers, later, rfl,
          List.forall_mem_cons.2 ⟨overlooks, declined⟩, answered⟩
    · refine .inr ⟨[], route, routes, rfl, List.forall_mem_nil _, ?_⟩
      obtain ⟨admission, answer⟩ := Classical.not_forall.1 overlooks
      obtain ⟨answer, other⟩ := Classical.not_imp.1 answer
      cases admission with
      | accept handler => exact .inl ⟨handler, answer⟩
      | decline => exact absurd rfl other
      | panic => exact .inr answer

end App

/-- A host once these socket routes were asked. -/
def Host.asking (host : Host app) (request : Request) (asked : List (SocketRoute app.Gate)) :
    Host app :=
  { host with
    tables := asked.foldl (App.editedBy request) host.tables
    channel := { host.channel with
      trace := (asked.flatMap (App.questions request)).reverse ++ host.channel.trace } }

/-- A valid request becomes a WebSocket: these routes are asked, and the last of them accepts. -/
inductive Admitted (request : Request) :
    List (SocketRoute app.Gate) → List (SocketRoute app.Gate) → String → app.Handler → Prop where
  | of {earlier later : List (SocketRoute app.Gate)} {route : SocketRoute app.Gate} {key : String}
    {handler : app.Handler} (valid : WebSocket.Handshake.Valid request key)
    (declined : ∀ route ∈ earlier, App.Overlooks request route)
    (accepts : App.admission? request route = some (.accept handler)) :
    Admitted request (earlier ++ route :: later) (earlier ++ [route]) key handler

/-- A request for an upgrade is refused: these routes are asked, and for that it fails, with the
status that says so. -/
inductive Refused (request : Request) :
    List (SocketRoute app.Gate) → List (SocketRoute app.Gate) → Failure → Nat → Prop where
  | check {routes : List (SocketRoute app.Gate)} {fault : UpgradeFault} {status : Nat}
    (fails : WebSocket.Handshake.Fails request fault status) :
    Refused request routes [] (.upgrade fault) status
  | nobody {routes : List (SocketRoute app.Gate)} {key : String}
    (valid : WebSocket.Handshake.Valid request key)
    (declined : ∀ route ∈ routes, App.Overlooks request route) :
    Refused request routes routes (.routing (.noSocketRoute request.path)) 404
  | panic {earlier later : List (SocketRoute app.Gate)} {route : SocketRoute app.Gate}
    {key : String} (valid : WebSocket.Handshake.Valid request key)
    (declined : ∀ route ∈ earlier, App.Overlooks request route)
    (panics : App.admission? request route = some .panic) :
    Refused request (earlier ++ route :: later) (earlier ++ [route])
      (.routing .factoryPanicked) 500

theorem WebSocket.Handshake.Fails.status_ne {request : Request} {fault : UpgradeFault}
    {status : Nat} (h : Fails request fault status) : status ≠ 101 := by
  cases h <;> decide

/-- No refusal has the status of the answer that switches protocols. -/
theorem Refused.status_ne {request : Request} {routes asked : List (SocketRoute app.Gate)}
    {failure : Failure} {status : Nat} (h : Refused request routes asked failure status) :
    status ≠ 101 := by
  cases h with
  | check fails => exact fails.status_ne
  | nobody | panic => decide

section Routes

variable {request : Request} {routes asked : List (SocketRoute app.Gate)} {host : Host app}
variable {key : String} {handler : app.Handler} {failure : Failure} {status : Nat}

theorem admitted_or_refused (upgrade : WebSocket.Handshake.isUpgrade request = true)
    (routes : List (SocketRoute app.Gate)) :
    (∃ asked key handler, Admitted request routes asked key handler) ∨
      ∃ asked failure status, Refused request routes asked failure status := by
  rcases WebSocket.Handshake.fails_or_valid upgrade with ⟨fault, status, fails⟩ | ⟨key, valid⟩
  · exact .inr ⟨_, _, _, .check fails⟩
  · rcases App.overlooked_or_answered request routes with
      all | ⟨earlier, route, later, rfl, declined, ⟨handler, accepts⟩ | panics⟩
    · exact .inr ⟨_, _, _, .nobody valid all⟩
    · exact .inl ⟨_, _, _, .of valid declined accepts⟩
    · exact .inr ⟨_, _, _, .panic valid declined panics⟩

/-- What asking the routes up to one that does not decline comes to. -/
theorem App.ask_of_prefix {earlier later : List (SocketRoute app.Gate)}
    {route : SocketRoute app.Gate} {result : Except Failure app.Handler}
    (declined : ∀ route ∈ earlier, Overlooks request route)
    (answers : ∀ tables signals, ask request tables signals (route :: later) =
      ⟨result, editedBy request tables route, signals ++ questions request route⟩)
    (tables : app.Tables) :
    ask request tables [] (earlier ++ route :: later) =
      ⟨result, (earlier ++ [route]).foldl (editedBy request) tables,
        (earlier ++ [route]).flatMap (questions request)⟩ := by
  rw [ask_append declined, answers, List.foldl_append, List.flatMap_append, List.flatMap_singleton,
    List.nil_append]
  rfl

theorem Admitted.ask_eq (h : Admitted request routes asked key handler) (tables : app.Tables) :
    App.ask request tables [] routes =
      ⟨.ok handler, asked.foldl (App.editedBy request) tables,
        asked.flatMap (App.questions request)⟩ := by
  cases h with
  | of valid declined accepts =>
    exact App.ask_of_prefix declined (fun _ _ => App.ask_of_accepts accepts) tables

theorem Admitted.valid (h : Admitted request routes asked key handler) :
    WebSocket.Handshake.Valid request key := by
  cases h with
  | of valid => exact valid

/-- Asking the routes, a host shows their questions and notes, and gets their tables. -/
theorem Host.adopt_asked {result : Except Failure app.Handler}
    (h : App.routeSocket host.tables request =
      ⟨result, asked.foldl (App.editedBy request) host.tables,
        asked.flatMap (App.questions request)⟩) :
    (host.adopt (App.routeSocket host.tables request)).2 = host.asking request asked := by
  rw [h]
  simp only [adopt, asking, Channel.recordAll_eq]

theorem Admitted.openSocket_eq (h : Admitted request host.tables.socketRoutes asked key handler)
    (limit : Nat) :
    host.openSocket request limit =
      (.ok ((host.asking request asked).greeted key handler limit).pause,
        { host.asking request asked with
          channel := ((host.asking request asked).greeted key handler limit).socket.channel }) := by
  have routed : App.routeSocket host.tables request = _ := h.ask_eq host.tables
  rw [Host.openSocket_eq, WebSocket.Handshake.validate_of_valid h.valid]
  simp only [Host.adopt_asked routed]
  simp only [routed]

theorem Refused.openSocket_eq (h : Refused request host.tables.socketRoutes asked failure status)
    (limit : Nat) :
    host.openSocket request limit = (.error failure, host.asking request asked) ∧
      failure.status = status := by
  have routed {key : String} (valid : WebSocket.Handshake.Valid request key)
      (answer : App.ask request host.tables [] host.tables.socketRoutes =
        ⟨.error failure, asked.foldl (App.editedBy request) host.tables,
          asked.flatMap (App.questions request)⟩) :
      host.openSocket request limit = (.error failure, host.asking request asked) := by
    have routed : App.routeSocket host.tables request = _ := answer
    rw [Host.openSocket_eq, WebSocket.Handshake.validate_of_valid valid]
    simp only [Host.adopt_asked routed]
    simp only [routed]
  generalize routes_eq : host.tables.socketRoutes = routes at h
  rw [routes_eq] at routed
  cases h with
  | check fails =>
    obtain ⟨invalid, status_eq⟩ := WebSocket.Handshake.validate_of_fails fails
    rw [Host.openSocket_eq, invalid]
    exact ⟨rfl, status_eq⟩
  | nobody valid declined =>
    refine ⟨routed valid ?_, rfl⟩
    have all : App.ask request host.tables [] (asked ++ []) = _ := App.ask_append declined
    rwa [List.append_nil, List.nil_append] at all
  | panic valid declined panics =>
    exact ⟨routed valid
      (App.ask_of_prefix declined (fun _ _ => App.ask_of_panics panics) host.tables), rfl⟩

end Routes

/-! ### What is shown of an upgrade -/

/-- Whether a signal tells what becomes of a write, rather than of a new one. -/
def Signal.isTransfer : Signal ε → Bool
  | .attempt .. | .sent | .shut => true
  | _ => false

/-- A trace shows one write more, and what becomes of writes. -/
def WroteOnce (data : Bytes) (trace trace' : List (Signal ε)) : Prop :=
  ∃ tried, trace' = tried ++ .wrote data :: trace ∧ ∀ signal ∈ tried, signal.isTransfer = true

theorem Channel.Offering.transfers {ch ch' : Channel ε} {completion : Option (Completion ε)}
    (h : Offering ch completion ch') :
    ∃ tried, ch'.trace = tried ++ ch.trace ∧ ∀ signal ∈ tried, signal.isTransfer = true := by
  have attempts {data rest : Bytes} {attempts : List (Signal ε)}
      (offered : Attempts data attempts rest) : ∀ signal ∈ attempts, signal.isTransfer = true := by
    intro signal member
    obtain ⟨bytes, answer, rfl, -⟩ := offered.offers signal member
    rfl
  cases h with
  | nothing => exact ⟨[], rfl, List.forall_mem_nil _⟩
  | sent wire isOpen first offered =>
    exact ⟨_ :: _, rfl, List.forall_mem_cons.2 ⟨rfl, attempts offered⟩⟩
  | blocked wire isOpen first offered => exact ⟨_, rfl, attempts offered⟩
  | failed wire isOpen first offered =>
    exact ⟨_ :: _, rfl, List.forall_mem_cons.2 ⟨rfl, attempts offered⟩⟩

theorem Channel.wroteOnce_write {ch : Channel ε} (isOpen : ch.isOpen = true) (data : Bytes) :
    WroteOnce data ch.trace (ch.write data).trace := by
  rw [write_eq_enqueue]
  by_cases queue : ch.queue = []
  · rw [enqueue_of_queue_nil isOpen queue]
    exact (sendFirst_offering (ch.place ⟨data, .done⟩)).transfers
  · rw [enqueue_of_queue_ne_nil isOpen queue]
    exact ⟨[], rfl, List.forall_mem_nil _⟩

/-- What is neither a question nor a note is seen as before the routes were asked. -/
theorem Host.seenIn_asking {β : Type} {shown? : Signal app.Event → Option β}
    (unasked : ∀ route request captures, shown? (.asked route request captures) = none)
    (unnoted : ∀ event, shown? (.note event) = none) (host : Host app) (request : Request)
    (asked : List (SocketRoute app.Gate)) :
    seenIn shown? (host.asking request asked).channel.trace =
      seenIn shown? host.channel.trace := by
  have silent : ∀ route, ∀ signal ∈ App.questions request route, shown? signal = none := by
    intro route
    unfold App.questions
    split
    · exact List.forall_mem_nil _
    · exact List.forall_mem_cons.2
        ⟨unasked _ _ _, List.forall_mem_map.2 fun event _ => unnoted event⟩
  have nothing : seenIn shown? (asked.flatMap (App.questions request)).reverse = [] := by
    refine seenIn_eq_nil fun signal member => ?_
    obtain ⟨route, -, shown⟩ := List.mem_flatMap.1 (List.mem_reverse.1 member)
    exact silent route signal shown
  show seenIn shown? (_ ++ host.channel.trace) = _
  rw [seenIn_append, nothing, List.append_nil]

/-- No route for requests is called where only idle things happen. -/
theorem Idle.dispatchesIn_eq {trace trace' : List (Signal ε)} (h : Idle trace trace') :
    dispatchesIn trace' = dispatchesIn trace := by
  refine h.seenIn_eq fun signal idle => ?_
  have unhandled := idle.1
  cases signal <;> first | rfl | cases unhandled

/-- What a response of the usual version begins with. -/
theorem Http.Response.prefix_toBytes {r : Http.Response} (version : r.version = "HTTP/1.1") :
    Text.encode s!"HTTP/1.1 {r.status} " <+: r.toBytes := by
  have first : r.statusLine = s!"HTTP/1.1 {r.status} " ++ (r.reasonPhrase ++ "\r\n") := by
    have joined : "HTTP/1.1" ++ " " = "HTTP/1.1 " := by decide
    unfold statusLine
    rw [version, ← joined]
    exact String.append_assoc
  unfold toBytes head
  generalize s!"HTTP/1.1 {r.status} " = start at first ⊢
  rw [first]
  simp only [Text.encode_append, List.append_assoc]
  exact List.prefix_append _ _

/-- There is one status at the beginning of some bytes, at most. -/
theorem Http.status_unique {n m : Nat} {bytes : Bytes}
    (h : Text.encode s!"HTTP/1.1 {n} " <+: bytes) (h' : Text.encode s!"HTTP/1.1 {m} " <+: bytes) :
    n = m := by
  have digits (n : Nat) : (32 : UInt8) ∉ Text.encode (toString n) :=
    Text.not_mem_encode (by decide) (Text.not_mem_toString rfl n)
  have space : Text.encode " " = [Bytes.space] := by decide
  have parted (n : Nat) : Text.encode s!"HTTP/1.1 {n} " =
      Text.encode "HTTP/1.1 " ++ (Text.encode (toString n) ++ [Bytes.space]) := by
    rw [← space, ← Text.encode_append, ← Text.encode_append, ← String.append_assoc]
    rfl
  obtain ⟨rest, rfl⟩ := h
  obtain ⟨rest', same⟩ := h'
  simp only [parted, List.append_assoc] at same
  have after := List.append_cancel_left same
  have cut := Bytes.cut?_first (digits m) [] rest'
  rw [show (32 : UInt8) :: [] ++ rest' = [Bytes.space] ++ rest' from rfl, after] at cut
  have cut' := (Bytes.cut?_first (digits n) [] rest).symm.trans cut
  have digits_eq := Text.encode_injective (Prod.mk.inj (Option.some.inj cut')).1
  have read : Text.decimal? (toString n).toList = Text.decimal? (toString m).toList := by
    rw [digits_eq]
  rw [Text.decimal?_toString, Text.decimal?_toString] at read
  exact Option.some.inj read

/-- If the application makes no page for a failure, the answer has its status. -/
theorem Host.announce_plain {tables : app.Tables} {failure : Failure}
    (plain : (tables.errorPage.bind fun page =>
      app.page page failure.status failure.message) = none) (closes : Bool) :
    (announce (App.errorFor tables failure) closes).version = "HTTP/1.1" ∧
      (announce (App.errorFor tables failure) closes).status = failure.status := by
  have page : App.errorFor tables failure =
      Dispatcher.plainPage failure.status failure.message := by
    simp only [App.errorFor, App.errorResponse, plain]
  rw [page]
  cases closes <;> exact ⟨rfl, rfl⟩

section Consumed

variable {config : Config} {pending : Pending} {first host asked : Host app} {taken body : Bytes}
variable {request : Request}

/-- A connection that has become a WebSocket has taken the request, and nothing behind it. -/
theorem Passes.consume_eq_of_socket {conversation : WebSocket.Paused app.Handler}
    (passes : Passes config pending first taken (some (request, body.length)) host)
    (comes : host.ComesTo config request body (.socket conversation) asked) (behind : Bytes) :
    (Active.http pending).consume config (taken ++ (body ++ behind)) first =
      (⟨(taken ++ body).length, .webSocket conversation, .switch⟩, asked) := by
  have left : (taken ++ (body ++ behind)).length - behind.length = (taken ++ body).length := by
    simp only [List.length_append]
    omega
  simp only [Active.consume, (ServedAs.upgrades passes comes behind).serveWindow_eq,
    Active.ofStop, left]

/-- A failure is answered, and then the connection closes or serves what stands behind. -/
theorem Passes.consume_eq_of_failure {failure : Failure}
    (passes : Passes config pending first taken (some (request, body.length)) host)
    (comes : host.ComesTo config request body (.failure failure) asked) (behind : Bytes) :
    let closes := Host.closesOn (!request.isKeepAlive) failure
    let after := asked.write (Host.refusal asked.tables failure closes)
    (Active.http pending).consume config (taken ++ (body ++ behind)) first =
      if closes then (⟨(taken ++ (body ++ behind)).length, .http none, .close⟩, after)
      else
        let served := serveWindow config none behind after
        (Active.ofStop (taken ++ (body ++ behind)) served.1, served.2) := by
  intro closes after
  have served := (passes.serveWindow_eq (body ++ behind)).trans (comes.serveWindow_eq behind)
  have concluded : asked.conclude request (.failure failure) = (.ofClose closes, after) := rfl
  rw [concluded] at served
  rcases Bool.eq_false_or_eq_true closes with ends | stays
  · simp only [Sequel.ofClose, ends, if_true] at served
    simp only [Active.consume, served, ends, if_true]
    rfl
  · simp only [Sequel.ofClose, stays, Bool.false_eq_true, if_false] at served
    simp only [Active.consume, served, stays, Bool.false_eq_true, if_false]

end Consumed

/-- A request with an Upgrade field whose body is accepted becomes a WebSocket or is refused, and
routes for requests are not called for it.

If it passes all checks and a socket route accepts before one panics, the routes up to that one are
asked, in their order. The answer that switches protocols is handed to the channel, with the digest
of the request's key, and nothing else before it. Then the handler that was accepted hears once of
the beginning, and the protocol hands over, having taken the request and nothing behind it.

Otherwise one answer is handed to the channel, for the first check that fails: the page that the
application makes for its status, or a plain one that begins with it and so does not switch
protocols. No handler hears anything, and the connection closes or goes on with what stands behind
the request. -/
theorem upgrade_all_or_nothing {config : Config} {pending : Pending} {first host : Host app}
    {taken body : Bytes} {request whole : Request}
    (passes : Passes config pending first taken (some (request, body.length)) host)
    (attached : request.attachBody body = .ok whole)
    (upgrade : WebSocket.Handshake.isUpgrade whole = true) :
    let routes := host.tables.socketRoutes
    let consumed := fun behind =>
      (Active.http pending).consume config (taken ++ (body ++ behind)) first
    ((∃ asked key handler, Admitted whole routes asked key handler) ∨
      ∃ asked failure status, Refused whole routes asked failure status) ∧
    (∀ asked key handler, Admitted whole routes asked key handler →
      let asking := host.asking whole asked
      let response := (WebSocket.Handshake.response key).toBytes
      let answered := asking.write response
      let c : Conversation app.Event app.Handler :=
        { socket := { channel := answered.channel, now := answered.now }
          handler, limit := config.maxMessageSize }
      let begun := c.start app.react
      let after := { answered with channel := begun.socket.channel }
      (∀ behind, consumed behind =
        (⟨(taken ++ body).length, .webSocket begun.pause, .switch⟩, after)) ∧
      response = WebSocket.Handshake.switching (Text.base64 (Digest.sha1 (Text.encode
        (key ++ "258EAFA5-E914-47DA-95CA-C5AB0DC85B11")))) ∧
      (host.isOpen = true → WroteOnce response asking.channel.trace answered.channel.trace) ∧
      Idle (.callback .opened :: answered.channel.trace) after.channel.trace ∧
      dispatchesIn after.channel.trace = dispatchesIn host.channel.trace) ∧
    ∀ asked failure status, Refused whole routes asked failure status →
      let asking := host.asking whole asked
      let closes := !request.isKeepAlive || decide (500 ≤ status)
      let page := Host.announce (App.errorFor asking.tables failure) closes
      let response := page.toBytes
      let after := asking.write response
      failure.status = status ∧
      (∀ behind, consumed behind =
        if closes then (⟨(taken ++ (body ++ behind)).length, .http none, .close⟩, after)
        else
          let served := serveWindow config none behind after
          (Active.ofStop (taken ++ (body ++ behind)) served.1, served.2)) ∧
      (host.isOpen = true → WroteOnce response asking.channel.trace after.channel.trace) ∧
      callbacksIn after.channel.trace = callbacksIn host.channel.trace ∧
      dispatchesIn after.channel.trace = dispatchesIn host.channel.trace ∧
      (page.version = "HTTP/1.1" → page.status ≠ 101 →
        ¬ Text.encode "HTTP/1.1 101 " <+: response) ∧
      ((asking.tables.errorPage.bind fun page => app.page page status failure.message) = none →
        Text.encode s!"HTTP/1.1 {status} " <+: response ∧
          ¬ Text.encode "HTTP/1.1 101 " <+: response) := by
  intro routes consumed
  refine ⟨admitted_or_refused upgrade routes, ?_, ?_⟩
  · intro asked key handler admitted asking response answered c begun after
    have opened : host.openSocket whole config.maxMessageSize = (.ok begun.pause, after) :=
      admitted.openSocket_eq config.maxMessageSize
    have comes : host.ComesTo config request body (.socket begun.pause) after :=
      .opened attached upgrade opened
    have spoken : Idle (.callback .opened :: answered.channel.trace) after.channel.trace :=
      (c.idles_start app.react).trace
    have wrote (isOpen : asking.channel.isOpen = true) :
        WroteOnce response asking.channel.trace answered.channel.trace :=
      Channel.wroteOnce_write isOpen response
    have written : Idle asking.channel.trace answered.channel.trace := .run _ _
    have greeted : dispatchesIn (.callback .opened :: answered.channel.trace) =
        dispatchesIn answered.channel.trace := by
      rw [dispatchesIn, seenIn_cons]
      exact List.append_nil _
    refine ⟨passes.consume_eq_of_socket comes, WebSocket.Handshake.toBytes_response key, wrote,
      spoken, ?_⟩
    rw [spoken.dispatchesIn_eq, greeted, written.dispatchesIn_eq]
    exact Host.seenIn_asking (fun _ _ _ => rfl) (fun _ => rfl) host whole asked
  · intro asked failure status refused asking closes page response after
    obtain ⟨opened, status_eq⟩ := refused.openSocket_eq config.maxMessageSize
    have comes : host.ComesTo config request body (.failure failure) asking :=
      .refused attached upgrade opened
    have closes_eq : Host.closesOn (!request.isKeepAlive) failure = closes := by
      simp only [Host.closesOn, Failure.isFatal, status_eq, closes]
    have consumed_eq := passes.consume_eq_of_failure comes
    rw [closes_eq] at consumed_eq
    have wrote (isOpen : asking.channel.isOpen = true) :
        WroteOnce response asking.channel.trace after.channel.trace :=
      Channel.wroteOnce_write isOpen response
    have written : Idle asking.channel.trace after.channel.trace := .run _ _
    have told : callbacksIn after.channel.trace = callbacksIn asking.channel.trace :=
      (Channel.run_extends asking.channel _).seenIn_eq fun signal channel =>
        signal.callback_of_aside (signal.isAside_of_channel channel)
    have stays (version : page.version = "HTTP/1.1") (other : page.status ≠ 101) :
        ¬ Text.encode "HTTP/1.1 101 " <+: response := fun switches =>
      other (Http.status_unique (Http.Response.prefix_toBytes version) switches)
    refine ⟨status_eq, consumed_eq, wrote, ?_, ?_, stays, fun plain => ?_⟩
    · rw [told]
      exact Host.seenIn_asking (fun _ _ _ => rfl) (fun _ => rfl) host whole asked
    · rw [written.dispatchesIn_eq]
      exact Host.seenIn_asking (fun _ _ _ => rfl) (fun _ => rfl) host whole asked
    · rw [← status_eq] at plain
      obtain ⟨version, same⟩ := Host.announce_plain plain closes
      have begins : Text.encode s!"HTTP/1.1 {page.status} " <+: response :=
        Http.Response.prefix_toBytes version
      have status_page : page.status = status := same.trans status_eq
      rw [← status_page]
      exact ⟨begins, stays version (status_page ▸ refused.status_ne)⟩

/-- A request that asks for a WebSocket, and the only route, which accepts it. The digest of its key
is the one that the protocol gives as a sample. -/
theorem polite_upgrade :
    let request : Request :=
      { method := .get, url := "/ws", path := "/ws", query := none, version := .http11
        headers := ⟨[("Upgrade", "websocket"), ("Connection", "keep-alive, Upgrade"),
          ("Sec-WebSocket-Key", "dGhlIHNhbXBsZSBub25jZQ=="), ("Sec-WebSocket-Version", "13")]⟩
        args := {}, cookies := {} }
    let host : Host politeApp :=
      { tables := { socketRoutes := [⟨0, "/ws", fun _ => some [], ()⟩] } }
    ∃ asked conversation trace after,
      Admitted request host.tables.socketRoutes asked "dGhlIHNhbXBsZSBub25jZQ==" () ∧
      (∀ behind, (Active.http (some (request, 0))).consume {} behind host =
        (⟨0, .webSocket conversation, .switch⟩, after)) ∧
      WroteOnce (WebSocket.Handshake.switching "s3pPLMBiTxaQ9kYGzzhZRbK+xOo=")
        (host.asking request asked).channel.trace trace ∧
      Idle (.callback .opened :: trace) after.channel.trace ∧
      dispatchesIn after.channel.trace = [] := by
  intro request host
  have attached : request.attachBody [] = .ok request := rfl
  have tokened : WebSocket.Handshake.Tokened request :=
    WebSocket.Handshake.tokened_iff.2 (by decide)
  have valid : WebSocket.Handshake.Valid request "dGhlIHNhbXBsZSBub25jZQ==" :=
    { wanted := ⟨"websocket", Http.Headers.get?_eq_some_iff.1 (by decide), by decide⟩
      tokened
      get := rfl
      keyed := ⟨Http.Headers.get?_eq_some_iff.1 (by decide), by decide⟩
      version := Http.Headers.get?_eq_some_iff.1 (by decide) }
  have admitted : Admitted request host.tables.socketRoutes ([] ++ [_])
      "dGhlIHNhbXBsZSBub25jZQ==" () := .of valid (List.forall_mem_nil _) rfl
  obtain ⟨-, admits, -⟩ :=
    upgrade_all_or_nothing (.here (some (request, [].length)) host) attached (by decide)
  obtain ⟨consumed, response, wrote, begun, dispatches⟩ := admits _ _ _ admitted
  have accepted : Text.base64 (Digest.sha1 (Text.encode ("dGhlIHNhbXBsZSBub25jZQ==" ++
      "258EAFA5-E914-47DA-95CA-C5AB0DC85B11"))) = "s3pPLMBiTxaQ9kYGzzhZRbK+xOo=" := by
    decide +kernel
  rw [accepted] at response
  exact ⟨_, _, _, _, admitted, consumed, response ▸ wrote rfl, begun, dispatches⟩

end WebServer

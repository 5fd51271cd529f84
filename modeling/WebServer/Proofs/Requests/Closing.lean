import WebServer.Proofs.Requests.Codings
import WebServer.Proofs.Requests.HeadAnswers

/-!
# When a connection closes

A connection that serves requests closes for one of a few causes: a head or an announced body that
is too large, a length that is in doubt, a request that is the last of its connection, or a failure
of the server. It gets through all other requests. `Passes` says how it does that, `Closes` what it
closes for and with which response, and `close_causes` that this is all.
-/
namespace WebServer

open Http (Request RequestFault Response Failure)
open WebSocket (Handshake.isUpgrade)

/-- The peer sends nothing behind this request: it is of the old version, or some Connection field
holds the token `close`. -/
def Http.Request.IsLast (request : Request) : Prop :=
  request.version = .http10 ∨
    ∃ field ∈ request.headers.fields, Text.sameIgnoringCase field.1 "connection" = true ∧
      ∃ item ∈ field.2.toList.splitOn ',',
        Text.sameIgnoringCase (String.ofList (Text.trim item)) "close" = true

theorem Http.Request.isKeepAlive_eq_false_iff {request : Request} :
    request.isKeepAlive = false ↔ request.IsLast := by
  have versions : request.version = .http10 ↔ ¬ request.version = .http11 := by
    cases request.version <;> simp
  unfold isKeepAlive IsLast
  rw [Bool.and_eq_false_iff, decide_eq_false_iff_not, ← versions, Bool.not_eq_false']
  exact or_congr_right Headers.hasToken_iff

/-- What is announced is larger than the limit. The greatest limit refuses nothing, as no sum of
lengths counts for more than that. -/
def Config.Refuses (config : Config) (size : Nat) : Prop :=
  config.maxRequestSize < size ∧ config.maxRequestSize < Request.greatestLength

theorem Config.refuses_iff {config : Config} {size : Nat} :
    config.maxRequestSize < min size Request.greatestLength ↔ config.Refuses size := Nat.lt_min

variable {app : App}

/-- What comes of a whole request. -/
inductive Upshot (σ : Type) where
  | response (response : Response)
  | failure (failure : Failure)
  | socket (conversation : WebSocket.Paused σ)

namespace Host

/-- A head with its body comes to that, and the host to what it is then. -/
inductive ComesTo (config : Config) (host : Host app) (request : Request) (body : Bytes) :
    Upshot app.Handler → Host app → Prop where
  | badBody {fault : RequestFault} (rejected : request.attachBody body = .error fault) :
    ComesTo config host request body (.failure (.request fault)) host
  | refused {whole : Request} {failure : Failure} {asked : Host app}
    (attached : request.attachBody body = .ok whole) (upgrade : Handshake.isUpgrade whole = true)
    (opened : host.openSocket whole config.maxMessageSize = (.error failure, asked)) :
    ComesTo config host request body (.failure failure) asked
  | opened {whole : Request} {conversation : WebSocket.Paused app.Handler} {asked : Host app}
    (attached : request.attachBody body = .ok whole) (upgrade : Handshake.isUpgrade whole = true)
    (opened : host.openSocket whole config.maxMessageSize = (.ok conversation, asked)) :
    ComesTo config host request body (.socket conversation) asked
  | failed {whole : Request} {failure : Failure}
    (attached : request.attachBody body = .ok whole) (plain : Handshake.isUpgrade whole = false)
    (result : (App.tryRoute host.tables whole).result = .error failure) :
    ComesTo config host request body (.failure failure)
      (host.adopt (App.tryRoute host.tables whole)).2
  | routed {whole : Request} {response : Response}
    (attached : request.attachBody body = .ok whole) (plain : Handshake.isUpgrade whole = false)
    (result : (App.tryRoute host.tables whole).result = .ok response) :
    ComesTo config host request body (.response response)
      (host.adopt (App.tryRoute host.tables whole)).2

/-- Answers a request with what comes of it. -/
def conclude (asked : Host app) (request : Request) :
    Upshot app.Handler → Sequel app.Handler × Host app
  | .response response =>
    let closes := !request.isKeepAlive
    (.ofClose closes,
      asked.write (bytesOf (announce response closes) (request.method = .head)))
  | .failure failure =>
    let closes := closesOn (!request.isKeepAlive) failure
    (.ofClose closes, asked.write (refusal asked.tables failure closes))
  | .socket conversation => (.upgraded conversation, asked)

variable {config : Config} {host asked : Host app} {request : Request} {body : Bytes}
variable {upshot : Upshot app.Handler}

theorem method_of_attachBody {whole : Request} (attached : request.attachBody body = .ok whole) :
    whole.method = request.method := by
  obtain ⟨parts, rfl⟩ := Request.exists_parts_of_attachBody attached
  rfl

theorem ComesTo.answer_eq (h : host.ComesTo config request body upshot asked) :
    host.answer config request body = asked.conclude request upshot := by
  cases h with
  | badBody rejected =>
    rw [Host.answer_eq, rejected]
    rfl
  | refused attached upgrade opened =>
    rw [Host.answer_eq, attached]
    simp only [if_pos upgrade, opened]
    rfl
  | opened attached upgrade opened =>
    rw [Host.answer_eq, attached]
    simp only [if_pos upgrade, opened]
    rfl
  | failed attached plain result =>
    rw [Host.answer_eq, attached]
    simp only [plain, Bool.false_eq_true, if_false, result]
    rfl
  | routed attached plain result =>
    rw [Host.answer_eq, attached]
    simp only [plain, Bool.false_eq_true, if_false, result, method_of_attachBody attached]
    rfl

theorem exists_comesTo (config : Config) (host : Host app) (request : Request) (body : Bytes) :
    ∃ upshot asked, host.ComesTo config request body upshot asked := by
  cases attached : request.attachBody body with
  | error fault => exact ⟨_, _, .badBody attached⟩
  | ok whole =>
    cases upgrade : Handshake.isUpgrade whole with
    | true =>
      cases opened : host.openSocket whole config.maxMessageSize with
      | mk result asked =>
        cases result with
        | error failure => exact ⟨_, _, .refused attached upgrade opened⟩
        | ok conversation => exact ⟨_, _, .opened attached upgrade opened⟩
    | false =>
      cases result : (App.tryRoute host.tables whole).result with
      | error failure => exact ⟨_, _, .failed attached upgrade result⟩
      | ok response => exact ⟨_, _, .routed attached upgrade result⟩

end Host

variable {config : Config}

/-- A connection gets through requests: it takes these bytes, answers them, and has come to this
state and this host. -/
inductive Passes (config : Config) : Pending → Host app → Bytes → Pending → Host app → Prop where
  | here (pending : Pending) (host : Host app) : Passes config pending host [] pending host
  /-- A head is read, and its body comes next. -/
  | head {host last : Host app} {request : Request} {length : Nat} {head taken : Bytes}
    {later : Pending} (whole : HeadOnly head) (fits : head.length ≤ config.maxRequestSize)
    (parsed : Request.parseHead head config.maxHeaders = .ok request)
    (sized : request.bodyLength = .ok length)
    (within : ¬ config.Refuses (head.length + length))
    (onward : Passes config (some (request, length)) host taken later last) :
    Passes config none host (head ++ taken) later last
  /-- A head that is no request is answered and stepped over. -/
  | malformed {host last : Host app} {fault : RequestFault} {head taken : Bytes} {later : Pending}
    (whole : HeadOnly head) (fits : head.length ≤ config.maxRequestSize)
    (rejected : Request.parseHead head config.maxHeaders = .error fault)
    (onward : Passes config none
      (host.write (Host.refusal host.tables (.request fault) false)) taken later last) :
    Passes config none host (head ++ taken) later last
  /-- A request is answered that is not the last. -/
  | routed {host asked last : Host app} {request : Request} {response : Response}
    {body taken : Bytes} {later : Pending}
    (comes : host.ComesTo config request body (.response response) asked)
    (more : ¬ request.IsLast)
    (onward : Passes config none
      (asked.write (Host.bytesOf response (request.method = .head))) taken later last) :
    Passes config (some (request, body.length)) host (body ++ taken) later last
  /-- A request fails that is not the last, and the failure is not the server's. -/
  | failed {host asked last : Host app} {request : Request} {failure : Failure}
    {body taken : Bytes} {later : Pending}
    (comes : host.ComesTo config request body (.failure failure) asked)
    (more : ¬ request.IsLast) (client : failure.status < 500)
    (onward : Passes config none
      (asked.write (Host.refusal asked.tables failure false)) taken later last) :
    Passes config (some (request, body.length)) host (body ++ taken) later last

/-- What a connection closes for, at the end of these bytes, with the response that says so, how
much of it is written, and the host that writes it. -/
inductive Closes (config : Config) :
    Pending → Host app → Bytes → Response → Bool → Host app → Prop where
  | endlessHead {host : Host app} {own : Bytes} (endless : Request.cutHead? own = none)
    (exceeds : config.maxRequestSize < own.length) :
    Closes config none host own (App.errorFor host.tables (.request .tooLarge)) false host
  | longHead {host : Host app} {own : Bytes} (whole : HeadOnly own)
    (exceeds : config.maxRequestSize < own.length) :
    Closes config none host own (App.errorFor host.tables (.request .tooLarge)) false host
  | largeBody {host : Host app} {own : Bytes} {request : Request} {length : Nat}
    (whole : HeadOnly own) (parsed : Request.parseHead own config.maxHeaders = .ok request)
    (sized : request.bodyLength = .ok length) (exceeds : config.Refuses (own.length + length)) :
    Closes config none host own (App.errorFor host.tables (.request .tooLarge)) false host
  | doubtfulLength {host : Host app} {own : Bytes} {request : Request} {fault : RequestFault}
    (whole : HeadOnly own) (fits : own.length ≤ config.maxRequestSize)
    (parsed : Request.parseHead own config.maxHeaders = .ok request)
    (doubt : request.bodyLength = .error fault) :
    Closes config none host own (App.errorFor host.tables (.request fault)) false host
  | lastRequest {host asked : Host app} {request : Request} {response : Response} {own : Bytes}
    (comes : host.ComesTo config request own (.response response) asked)
    (last : request.IsLast) :
    Closes config (some (request, own.length)) host own response (request.method = .head) asked
  | failure {host asked : Host app} {request : Request} {failure : Failure} {own : Bytes}
    (comes : host.ComesTo config request own (.failure failure) asked)
    (last : request.IsLast ∨ 500 ≤ failure.status) :
    Closes config (some (request, own.length)) host own (App.errorFor asked.tables failure) false
      asked

/-- There is too little to go on: no whole head, but not too much of one, or no whole body. -/
def Pending.Lacks (config : Config) (rest : Bytes) : Pending → Prop
  | none => Request.cutHead? rest = none ∧ rest.length ≤ config.maxRequestSize
  | some (_, length) => rest.length < length

/-- How a window is served: the connection gets through some requests and then closes, waits, or
becomes a WebSocket. -/
inductive ServedAs (config : Config) (pending : Pending) (host : Host app) :
    Bytes → Stop app.Handler → Host app → Prop where
  | closes {later : Pending} {met asked : Host app} {taken own : Bytes} {response : Response}
    {headOnly : Bool} (passes : Passes config pending host taken later met)
    (closes : Closes config later met own response headOnly asked) (behind : Bytes) :
    ServedAs config pending host (taken ++ (own ++ behind)) .close
      (asked.write (Host.bytesOf (Host.announce response true) headOnly))
  | waits {later : Pending} {met : Host app} {taken rest : Bytes}
    (passes : Passes config pending host taken later met) (lacks : later.Lacks config rest) :
    ServedAs config pending host (taken ++ rest) (.wait later rest) met
  | upgrades {met asked : Host app} {request : Request} {taken body : Bytes}
    {conversation : WebSocket.Paused app.Handler}
    (passes : Passes config pending host taken (some (request, body.length)) met)
    (comes : met.ComesTo config request body (.socket conversation) asked) (behind : Bytes) :
    ServedAs config pending host (taken ++ (body ++ behind)) (.upgraded conversation behind) asked

theorem HeadOnly.cut {head : Bytes} (whole : HeadOnly head) (rest : Bytes) :
    Request.cutHead? (head ++ rest) = some (head, rest) :=
  Request.cutHead?_append whole rest

/-- A whole body is answered, and then the connection goes on as the answer says. -/
theorem Host.ComesTo.serveWindow_eq {host asked : Host app} {request : Request} {body : Bytes}
    {upshot : Upshot app.Handler} (comes : host.ComesTo config request body upshot asked)
    (behind : Bytes) :
    serveWindow config (some (request, body.length)) (body ++ behind) host =
      match (asked.conclude request upshot).1 with
      | .next => serveWindow config none behind (asked.conclude request upshot).2
      | .close => (.close, (asked.conclude request upshot).2)
      | .upgraded conversation =>
        (.upgraded conversation behind, (asked.conclude request upshot).2) := by
  have split : Bytes.splitExactly? body.length (body ++ behind) = some (body, behind) :=
    Bytes.splitExactly?_eq_some_iff.2 ⟨rfl, rfl⟩
  have answered := comes.answer_eq
  generalize asked.conclude request upshot = concluded at answered ⊢
  obtain ⟨sequel, later⟩ := concluded
  cases sequel <;> simp only [serveWindow_some, split, answered]

theorem Http.Request.not_isLast_iff {request : Request} :
    ¬ request.IsLast ↔ request.isKeepAlive = true := by
  rw [← isKeepAlive_eq_false_iff, Bool.not_eq_false]

theorem Host.closesOn_eq {request : Request} {failure : Failure} :
    closesOn (!request.isKeepAlive) failure = true ↔ request.IsLast ∨ 500 ≤ failure.status := by
  rw [← Request.isKeepAlive_eq_false_iff]
  simp [closesOn, Failure.isFatal]

/-- What a connection gets through, it has served. -/
theorem Passes.serveWindow_eq {pending later : Pending} {host met : Host app} {taken : Bytes}
    (h : Passes config pending host taken later met) (rest : Bytes) :
    serveWindow config pending (taken ++ rest) host = serveWindow config later rest met := by
  induction h with
  | here pending host => rfl
  | @head host last request length head taken later whole fits parsed sized within onward ih =>
    have opening : Opening.ofWindow config (head ++ (taken ++ rest)) =
        .request request length (taken ++ rest) := by
      unfold Opening.ofWindow
      simp only [whole.cut, if_neg (Nat.not_lt.2 fits), parsed, sized,
        if_neg (mt Config.refuses_iff.1 within)]
    rw [List.append_assoc, serveWindow_none, opening]
    exact ih
  | @malformed host last fault head taken later whole fits rejected onward ih =>
    have opening : Opening.ofWindow config (head ++ (taken ++ rest)) =
        .malformed fault (taken ++ rest) := by
      unfold Opening.ofWindow
      simp only [whole.cut, if_neg (Nat.not_lt.2 fits), rejected]
    have stays : Host.closesOn false (.request fault) = false := by
      simp [Host.closesOn, Failure.isFatal, Failure.status, Request.status_of_parseHead rejected]
    rw [List.append_assoc, serveWindow_none, opening]
    simp only [stays]
    exact ih
  | @routed host asked last request response body taken later comes more onward ih =>
    have keeps : request.isKeepAlive = true := Request.not_isLast_iff.1 more
    rw [List.append_assoc, comes.serveWindow_eq]
    simp only [Host.conclude, keeps]
    exact ih
  | @failed host asked last request failure body taken later comes more client onward ih =>
    have stays : Host.closesOn (!request.isKeepAlive) failure = false := by
      rw [Bool.eq_false_iff, ne_eq, Host.closesOn_eq, not_or]
      exact ⟨more, Nat.not_le.2 client⟩
    rw [List.append_assoc, comes.serveWindow_eq]
    simp only [Host.conclude, stays]
    exact ih

/-- What a connection closes for, it closes for, whatever stands behind it. -/
theorem Closes.serveWindow_eq {pending : Pending} {host asked : Host app} {own : Bytes}
    {response : Response} {headOnly : Bool}
    (h : Closes config pending host own response headOnly asked) (behind : Bytes) :
    serveWindow config pending (own ++ behind) host =
      (.close, asked.write (Host.bytesOf (Host.announce response true) headOnly)) := by
  have unframed {own : Bytes} {fault : RequestFault} {host : Host app}
      (opening : Opening.ofWindow config own = .unframed fault) :
      serveWindow config none (own ++ behind) host =
        (.close, host.write (Host.refusal host.tables (.request fault) true)) := by
    rw [serveWindow_append, serveWindow_none, opening]
    rfl
  cases h with
  | endlessHead endless exceeds =>
    apply unframed
    unfold Opening.ofWindow
    simp only [endless, if_pos exceeds]
  | longHead whole exceeds =>
    apply unframed
    unfold Opening.ofWindow
    simp only [show Request.cutHead? own = some (own, []) from whole, if_pos exceeds]
  | largeBody whole parsed sized exceeds =>
    apply unframed
    unfold Opening.ofWindow
    simp only [show Request.cutHead? own = some (own, []) from whole, parsed, sized,
      if_pos (Config.refuses_iff.2 exceeds), ite_self]
  | doubtfulLength whole fits parsed doubt =>
    apply unframed
    unfold Opening.ofWindow
    simp only [show Request.cutHead? own = some (own, []) from whole, if_neg (Nat.not_lt.2 fits),
      parsed, doubt]
  | @lastRequest _ _ request response _ comes last =>
    have ends : request.isKeepAlive = false := Request.isKeepAlive_eq_false_iff.2 last
    rw [comes.serveWindow_eq]
    simp only [Host.conclude, ends]
    rfl
  | failure comes last =>
    have ends := Host.closesOn_eq.2 last
    rw [comes.serveWindow_eq]
    simp only [Host.conclude, ends]
    rfl

namespace ServedAs

variable {pending pending' : Pending} {host host' last : Host app} {window piece : Bytes}
variable {stop : Stop app.Handler}

theorem serveWindow_eq (h : ServedAs config pending host window stop last) :
    serveWindow config pending window host = (stop, last) := by
  cases h with
  | closes passes closes behind => rw [passes.serveWindow_eq, closes.serveWindow_eq]
  | @waits later met taken rest passes lacks =>
    rw [passes.serveWindow_eq]
    match later with
    | none =>
      have opening : Opening.ofWindow config rest = .incomplete := by
        unfold Opening.ofWindow
        simp only [lacks.1, if_neg (Nat.not_lt.2 lacks.2)]
      rw [serveWindow_none, opening]
    | some (request, length) =>
      have short : Bytes.splitExactly? length rest = none := by
        rw [← Option.not_isSome_iff_eq_none, Bytes.splitExactly?_isSome]
        exact Nat.not_le.2 lacks
      rw [serveWindow_some, short]
  | upgrades passes comes behind =>
    rw [passes.serveWindow_eq, comes.serveWindow_eq]
    rfl

/-- A window is served as what is left of it behind what the connection gets through first. -/
theorem prepend
    (first : ∀ {taken : Bytes} {later : Pending} {met : Host app},
      Passes config pending' host' taken later met →
        Passes config pending host (piece ++ taken) later met)
    (h : ServedAs config pending' host' window stop last) :
    ServedAs config pending host (piece ++ window) stop last := by
  cases h with
  | closes passes closes behind =>
    rw [← List.append_assoc]
    exact .closes (first passes) closes behind
  | waits passes lacks =>
    rw [← List.append_assoc]
    exact .waits (first passes) lacks
  | upgrades passes comes behind =>
    rw [← List.append_assoc]
    exact .upgrades (first passes) comes behind

end ServedAs

/-- A body is served so, if what stands behind it is. -/
theorem exists_servedAs_body (config : Config) (request : Request) (length : Nat) (window : Bytes)
    (host : Host app)
    (behind : ∀ rest : Bytes, rest.length ≤ window.length → ∀ host : Host app,
      ∃ stop last, ServedAs config none host rest stop last) :
    ∃ stop last, ServedAs config (some (request, length)) host window stop last := by
  cases split : Bytes.splitExactly? length window with
  | none =>
    have short : window.length < length := by
      rw [← Option.not_isSome_iff_eq_none, Bytes.splitExactly?_isSome] at split
      exact Nat.not_le.1 split
    exact ⟨_, _, .waits (.here _ host) short⟩
  | some parts =>
    obtain ⟨body, rest⟩ := parts
    obtain ⟨rfl, rfl⟩ := Bytes.splitExactly?_eq_some_iff.1 split
    have within : rest.length ≤ (body ++ rest).length := by
      rw [List.length_append]
      omega
    obtain ⟨upshot, asked, comes⟩ := Host.exists_comesTo config host request body
    cases upshot with
    | response response =>
      by_cases last : request.IsLast
      · exact ⟨_, _, .closes (.here _ host) (.lastRequest comes last) rest⟩
      · obtain ⟨stop, final, served⟩ := behind rest within
          (asked.write (Host.bytesOf response (request.method = .head)))
        exact ⟨stop, final, served.prepend (.routed comes last)⟩
    | failure failure =>
      by_cases last : request.IsLast ∨ 500 ≤ failure.status
      · exact ⟨_, _, .closes (.here _ host) (.failure comes last) rest⟩
      · obtain ⟨more, client⟩ := not_or.1 last
        obtain ⟨stop, final, served⟩ := behind rest within
          (asked.write (Host.refusal asked.tables failure false))
        exact ⟨stop, final, served.prepend (.failed comes more (Nat.not_le.1 client))⟩
    | socket conversation => exact ⟨_, _, .upgrades (.here _ host) comes rest⟩

/-- Every window is served so. -/
theorem exists_servedAs (config : Config) (pending : Pending) (window : Bytes) (host : Host app) :
    ∃ stop last, ServedAs config pending host window stop last := by
  induction pending, window using serveWindow_induction generalizing host with
  | head window ih =>
    cases cut : Request.cutHead? window with
    | none =>
      by_cases exceeds : config.maxRequestSize < window.length
      · have served := ServedAs.closes (.here none host) (.endlessHead cut exceeds) []
        rw [List.nil_append, List.append_nil] at served
        exact ⟨_, _, served⟩
      · exact ⟨_, _, .waits (.here none host) ⟨cut, Nat.not_lt.1 exceeds⟩⟩
    | some parts =>
      obtain ⟨head, rest⟩ := parts
      obtain rfl := Request.append_of_cutHead? cut
      have whole : HeadOnly head := headOnly_of_cutHead? cut
      have shorter : rest.length < (head ++ rest).length := by
        have := length_cutHead? cut
        omega
      by_cases exceeds : config.maxRequestSize < head.length
      · exact ⟨_, _, .closes (.here none host) (.longHead whole exceeds) rest⟩
      · have fits : head.length ≤ config.maxRequestSize := Nat.not_lt.1 exceeds
        cases parsed : Request.parseHead head config.maxHeaders with
        | error fault =>
          obtain ⟨stop, last, served⟩ := ih none rest shorter
            (host.write (Host.refusal host.tables (.request fault) false))
          exact ⟨stop, last, served.prepend (.malformed whole fits parsed)⟩
        | ok request =>
          cases sized : request.bodyLength with
          | error fault =>
            exact ⟨_, _, .closes (.here none host) (.doubtfulLength whole fits parsed sized) rest⟩
          | ok length =>
            by_cases large : config.Refuses (head.length + length)
            · exact ⟨_, _, .closes (.here none host) (.largeBody whole parsed sized large) rest⟩
            · obtain ⟨stop, last, served⟩ := ih (some (request, length)) rest shorter host
              exact ⟨stop, last, served.prepend (.head whole fits parsed sized large)⟩
  | body request length window ih => exact exists_servedAs_body config request length window host ih

namespace Http

theorem Headers.getAll_insert (h : Headers) (name written value : String) :
    (h.insert written value).getAll name =
      h.getAll name ++ if Text.sameIgnoringCase written name then [value] else [] := by
  unfold getAll insert
  rw [List.filter_append, List.map_append]
  split
  · rename_i named
    simp [names, named]
  · rename_i other
    simp [names, other]

/-- What replaces the fields of a name is the only field of that name, in whatever case. -/
theorem Headers.getAll_set (h : Headers) {written name : String} (value : String)
    (same : Text.sameIgnoringCase written name = true) :
    (h.set written value).getAll name = [value] := by
  have erased : (h.erase written).getAll name = [] := by
    unfold getAll erase
    rw [List.filter_filter, List.map_eq_nil_iff, List.filter_eq_nil_iff]
    intro field _ both
    rw [Bool.and_eq_true, Bool.not_eq_true'] at both
    obtain ⟨named, other⟩ := both
    unfold names Text.sameIgnoringCase at *
    rw [beq_iff_eq] at same named
    rw [named, same, beq_self_eq_true] at other
    cases other
  rw [set, getAll_insert, erased, if_pos same, List.nil_append]

/-- The fields that are added or left out when a response is written are those of its body. -/
theorem Response.getAll_writtenHeaders (r : Response) {name : String}
    (type : Text.sameIgnoringCase "Content-Type" name = false)
    (length : Text.sameIgnoringCase name "content-length" = false) :
    r.writtenHeaders.getAll name = r.headers.getAll name := by
  unfold writtenHeaders
  rw [Headers.getAll_erase length]
  split
  · rw [Headers.getAll_insert, type]
    exact List.append_nil _
  · rfl

/-- The only empty line of a head is its last. -/
def Response.EndsOnce (r : Response) : Prop :=
  ∀ before after, Text.encode r.head = before ++ crlfcrlf ++ after → after = []

end Http

namespace Host

/-- A closing answer says so in its only Connection field, whatever the application had set. -/
theorem getAll_connection_announce (response : Response) :
    (announce response true).writtenHeaders.getAll "connection" = ["close"] := by
  rw [Response.getAll_writtenHeaders _ (by decide) (by decide)]
  exact response.headers.getAll_set "close" (by decide)

/-- All of a head is written, if no empty line comes before its end. -/
theorem head_prefix_bytesOf {response : Response} (once : response.EndsOnce) (headOnly : Bool) :
    Text.encode response.head <+: bytesOf response headOnly := by
  cases headOnly with
  | false => exact List.prefix_append _ _
  | true =>
    obtain ⟨before, ends⟩ := response.exists_append_crlfcrlf
    obtain ⟨head, rest, cut, early⟩ := Request.exists_cutHead? before response.body
    rw [← ends] at cut early
    have written : bytesOf response true = head := by
      simp [bytesOf, Response.toBytes, cut]
    have start : head <+: Text.encode response.head ++ response.body :=
      ⟨rest, (Request.append_of_cutHead? cut).symm⟩
    obtain ⟨after, whole⟩ := List.prefix_of_prefix_length_le start (List.prefix_append _ _) early
    obtain ⟨⟨lines, tail⟩, -, same⟩ := Option.map_eq_some_iff.1 cut
    obtain ⟨mark, -⟩ := Prod.mk.inj same
    obtain rfl : after = [] := once lines after (by rw [← whole, ← mark])
    have same : Text.encode response.head = bytesOf response true := by
      rw [written, ← whole, List.append_nil]
    exact same ▸ List.prefix_rfl

end Host

/-- Where a connection closes, at most the request it closes for is dispatched, and one response is
written. -/
theorem Closes.shows {pending : Pending} {host asked : Host app} {own : Bytes}
    {response : Response} {headOnly : Bool}
    (h : Closes config pending host own response headOnly asked) (written : Bytes) :
    ∃ requests : List Request, requests.length ≤ 1 ∧
      (∀ whole ∈ requests, ∃ head length,
        pending = some (head, length) ∧ head.attachBody own = .ok whole) ∧
      host.channel.Shows (asked.write written).channel requests [written] := by
  have silent (host : Host app) : ∃ requests : List Request, requests.length ≤ 1 ∧
      (∀ whole ∈ requests, ∃ head length,
        pending = some (head, length) ∧ head.attachBody own = .ok whole) ∧
      host.channel.Shows (host.write written).channel requests [written] :=
    ⟨[], Nat.zero_le 1, nofun, .write _ _⟩
  have tried {host : Host app} {head whole : Request} {length : Nat}
      (there : pending = some (head, length)) (attached : head.attachBody own = .ok whole) :
      ∃ requests : List Request, requests.length ≤ 1 ∧
        (∀ whole ∈ requests, ∃ head length,
          pending = some (head, length) ∧ head.attachBody own = .ok whole) ∧
        host.channel.Shows
          ((host.adopt (App.tryRoute host.tables whole)).2.write written).channel
          requests [written] := by
    obtain ⟨requests, some, shown⟩ := host.shows_tryRoute whole
    have both := shown.trans (.write _ written)
    rw [List.append_nil] at both
    refine ⟨requests, some.length_le, fun other member => ?_, both⟩
    obtain rfl := List.mem_singleton.1 (some.subset member)
    exact ⟨head, length, there, attached⟩
  cases h with
  | endlessHead => exact silent host
  | longHead => exact silent host
  | largeBody => exact silent host
  | doubtfulLength => exact silent host
  | lastRequest comes last =>
    cases comes with
    | routed attached plain result => exact tried rfl attached
  | failure comes last =>
    cases comes with
    | badBody rejected => exact silent host
    | refused attached upgrade opened =>
      exact ⟨[], Nat.zero_le 1, nofun, (Host.shows_openSocket_error opened).trans (.write _ _)⟩
    | failed attached plain result => exact tried rfl attached

/-- A connection that serves requests closes exactly if it gets through to something it closes for:
a head that is too long, ended or not, an announced body that is too large, a length that is in
doubt, a request that is the last of its connection and does not become a WebSocket, or a failure
of the server. It has taken the whole window then. Its last response is written for that cause,
with the one Connection field `close`, whatever the application had set. What stands behind in the
window is neither dispatched nor answered, so that anything else there gives the same. In all other
cases it gets through to where too little is there to go on, and waits, or becomes a WebSocket. -/
theorem close_causes (config : Config) (pending : Pending) (window : Bytes) (host : Host app) :
    let after := (Active.http pending).consume config window host
    (after.1.move = .close ↔
      ∃ taken own behind later met response headOnly asked,
        window = taken ++ (own ++ behind) ∧
          Passes config pending host taken later met ∧
          Closes config later met own response headOnly asked) ∧
    (∀ taken own later met response headOnly asked,
      Passes config pending host taken later met →
      Closes config later met own response headOnly asked →
        let answer := Host.announce response true
        let written := Host.bytesOf answer headOnly
        (∀ behind, (Active.http pending).consume config (taken ++ (own ++ behind)) host =
          (⟨(taken ++ (own ++ behind)).length, .http none, .close⟩, asked.write written)) ∧
        answer.writtenHeaders.getAll "connection" = ["close"] ∧
        (answer.EndsOnce → Text.encode answer.head <+: written) ∧
        ∃ requests : List Request, requests.length ≤ 1 ∧
          (∀ whole ∈ requests, ∃ head length,
            later = some (head, length) ∧ head.attachBody own = .ok whole) ∧
          met.channel.Shows (asked.write written).channel requests [written]) ∧
    (after.1.move ≠ .close →
      (∃ taken rest later, window = taken ++ rest ∧
        Passes config pending host taken later after.2 ∧ later.Lacks config rest ∧
        after.1 = ⟨taken.length, .http later, .wait⟩) ∨
      ∃ taken request body behind met conversation, window = taken ++ (body ++ behind) ∧
        Passes config pending host taken (some (request, body.length)) met ∧
        met.ComesTo config request body (.socket conversation) after.2 ∧
        after.1 = ⟨(taken ++ body).length, .webSocket conversation, .switch⟩) := by
  intro after
  have closing {taken own : Bytes} {later : Pending} {met asked : Host app} {response : Response}
      {headOnly : Bool} (passes : Passes config pending host taken later met)
      (closes : Closes config later met own response headOnly asked) (behind : Bytes) :
      (Active.http pending).consume config (taken ++ (own ++ behind)) host =
        (⟨(taken ++ (own ++ behind)).length, .http none, .close⟩,
          asked.write (Host.bytesOf (Host.announce response true) headOnly)) := by
    have served := (ServedAs.closes passes closes behind).serveWindow_eq
    simp only [Active.consume, served, Active.ofStop]
  obtain ⟨stop, last, served⟩ := exists_servedAs config pending window host
  have comesTo : after = (Active.ofStop window stop, last) := by
    simp only [after, Active.consume, served.serveWindow_eq]
  refine ⟨⟨?_, ?_⟩, ?_, ?_⟩
  · intro closed
    rw [comesTo] at closed
    cases served with
    | closes passes closes behind => exact ⟨_, _, behind, _, _, _, _, _, rfl, passes, closes⟩
    | waits passes lacks => cases closed
    | upgrades passes comes behind => cases closed
  · rintro ⟨taken, own, behind, later, met, response, headOnly, asked, rfl, passes, closes⟩
    simp only [after, closing passes closes behind]
  · intro taken own later met response headOnly asked passes closes answer written
    exact ⟨closing passes closes, Host.getAll_connection_announce response,
      fun once => Host.head_prefix_bytesOf once headOnly, closes.shows written⟩
  · intro goesOn
    rw [comesTo] at goesOn ⊢
    cases served with
    | closes passes closes behind => exact absurd rfl goesOn
    | @waits later met taken rest passes lacks =>
      refine .inl ⟨taken, rest, later, rfl, passes, lacks, ?_⟩
      simp [Active.ofStop]
    | @upgrades met asked request taken body conversation passes comes behind =>
      refine .inr ⟨taken, request, body, behind, met, conversation, rfl, passes, comes, ?_⟩
      simp [Active.ofStop]
      omega

/-- Under the greatest limit a body is waited for that is, with its head, larger than that. -/
theorem unlimited_body_awaited :
    let config : Config := { maxRequestSize := Request.greatestLength }
    let window := Text.encode "POST / HTTP/1.1\r\nContent-Length: 18446744073709551615\r\n\r\n"
    let host : Host bareApp := {}
    ∃ request length, HeadOnly window ∧
      Request.parseHead window config.maxHeaders = .ok request ∧
      request.bodyLength = .ok length ∧ config.maxRequestSize < window.length + length ∧
      ((Active.http none).consume config window host).1.move = .wait := by
  intro config window host
  have whole : HeadOnly window := by
    unfold HeadOnly
    decide +kernel
  have read : ((Request.parseHead window config.maxHeaders).toOption.bind
      fun request => request.bodyLength.toOption) = some Request.greatestLength := by
    decide +kernel
  have waits : ((Active.http none).consume config window host).1.move = .wait := by
    decide +kernel
  cases parsed : Request.parseHead window config.maxHeaders with
  | error fault =>
    rw [parsed] at read
    cases read
  | ok request =>
    cases sized : request.bodyLength with
    | error fault =>
      rw [parsed] at read
      simp [Except.toOption, sized] at read
    | ok length =>
      rw [parsed] at read
      simp [Except.toOption, sized] at read
      refine ⟨request, length, whole, rfl, sized, ?_, waits⟩
      subst read
      decide +kernel

end WebServer

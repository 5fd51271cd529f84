import WebServer.Proofs.Channel.Seen
import WebServer.Proofs.Requests.Elements
import WebServer.Proofs.Stream.Alike

/-!
# Answers to the elements of a stream

What a connection does for one element: a request is passed to the application once, and whatever
comes of it, one response is written. `Element.Answered` says so case by case. The trace of the
channel shows it, whatever the wire does (`Element.Answered.shows`).
-/
namespace WebServer

open Http (Request RequestFault Response Failure)
open WebSocket (Handshake.isUpgrade Handshake.validate Handshake.response)

variable {ε : Type}

namespace Signal

def write? : Signal ε → Option Bytes
  | .wrote data => some data
  | _ => none

def dispatch? : Signal ε → Option Request
  | .handled _ request _ => some request
  | _ => none

end Signal

/-- The writes in a trace, in their order. -/
abbrev writesIn (trace : List (Signal ε)) : List Bytes := seenIn Signal.write? trace

/-- The requests that handlers were called with, in their order. -/
abbrev dispatchesIn (trace : List (Signal ε)) : List Request := seenIn Signal.dispatch? trace

namespace Channel

theorem completion_of_enqueue {ch : Channel ε} {data : Bytes} {after completion : Completion ε}
    (h : (ch.enqueue data after).1 = some completion) : completion = after := by
  unfold enqueue at h
  split at h
  · cases h
  · simp only at h
    split at h
    · cases h
    · split at h
      · exact (Option.some.inj h).symm
      · cases h
      · cases h

/-- A plain write has nothing to run once it is sent. -/
theorem write_eq_enqueue (ch : Channel ε) (data : Bytes) :
    ch.write data = (ch.enqueue data .done).2 := by
  unfold write writeThen
  rw [run]
  split
  · rename_i ch' result
    simp only [result, run]
  · rename_i completion ch' result
    have nothing : completion = .done :=
      completion_of_enqueue (congrArg Prod.fst result)
    simp only [nothing, result, run]

end Channel

/-- What the trace shows of some work: it can only close the channel, and of requests dispatched
and writes made, it shows these, the writes if the channel is open. -/
structure Channel.Shows (ch ch' : Channel ε) (requests : List Request) (writes : List Bytes) :
    Prop where
  opened : ch'.isOpen = true → ch.isOpen = true
  dispatches : dispatchesIn ch'.trace = dispatchesIn ch.trace ++ requests
  writes : ch'.isOpen = true → writesIn ch'.trace = writesIn ch.trace ++ writes

namespace Channel.Shows

variable {ch ch' ch'' : Channel ε} {requests requests' : List Request}
variable {writes writes' : List Bytes}

theorem refl (ch : Channel ε) : ch.Shows ch [] [] := by
  constructor
  · intro opened
    exact opened
  · rw [List.append_nil]
  · intro opened
    rw [List.append_nil]

theorem trans (h : ch.Shows ch' requests writes) (h' : ch'.Shows ch'' requests' writes') :
    ch.Shows ch'' (requests ++ requests') (writes ++ writes') := by
  constructor
  · intro opened
    exact h.opened (h'.opened opened)
  · rw [h'.dispatches, h.dispatches, List.append_assoc]
  · intro opened
    rw [h'.writes opened, h.writes (h'.opened opened), List.append_assoc]

/-- Attempts show nothing. -/
theorem attempts {ch : Channel ε} {data rest : Bytes} {attempts : List (Signal ε)} {wire : Wire}
    (offered : Attempts data attempts rest) :
    ch.Shows { ch with wire, trace := attempts ++ ch.trace } [] [] := by
  have none {β : Type} (shown? : Signal ε → Option β)
      (silent : ∀ bytes answer, shown? (.attempt bytes answer) = none) :
      seenIn shown? attempts = [] := by
    refine seenIn_eq_nil fun signal member => ?_
    obtain ⟨bytes, answer, rfl, -⟩ := offered.offers signal member
    exact silent bytes answer
  constructor
  · intro opened
    exact opened
  · rw [dispatchesIn, seenIn_append, none _ fun _ _ => rfl]
  · intro opened
    rw [writesIn, seenIn_append, none _ fun _ _ => rfl]

theorem record (ch : Channel ε) (signal : Signal ε) :
    ch.Shows (ch.record signal) signal.dispatch?.toList signal.write?.toList := by
  constructor
  · intro opened
    exact opened
  · exact seenIn_cons signal ch.trace
  · intro opened
    exact seenIn_cons signal ch.trace

theorem shut (ch : Channel ε) : ch.Shows ch.shut [] [] := by
  constructor
  · intro opened
    rw [isOpen_shut] at opened
    cases opened
  · unfold Channel.shut
    split <;> simp [Channel.record, Signal.dispatch?]
  · intro opened
    rw [isOpen_shut] at opened
    cases opened

theorem push (ch : Channel ε) (data : Bytes) (after : Completion ε) :
    ch.Shows (ch.push data after) [] [] := by
  constructor
  · intro opened
    exact opened
  · exact (List.append_nil _).symm
  · intro opened
    exact (List.append_nil _).symm

/-- A write shows as such, however far the wire takes it. -/
theorem enqueue (ch : Channel ε) (data : Bytes) (after : Completion ε) :
    ch.Shows (ch.enqueue data after).2 [] [data] := by
  by_cases isOpen : ch.isOpen = true
  · have made : ch.Shows (ch.record (.wrote data)) [] [data] := record ch (.wrote data)
    obtain ⟨attempts, wire, offered, sent, -, -⟩ :=
      (ch.record (.wrote data)).send_attempts data
    have tried : ch.Shows ((ch.record (.wrote data)).send data).2.2 [] [data] := by
      rw [sent]
      exact made.trans (Shows.attempts offered)
    unfold Channel.enqueue
    simp only [isOpen, Bool.not_true, Bool.false_eq_true, if_false]
    generalize (ch.record (.wrote data)).send data = result at tried
    obtain ⟨progress, rest, ch'⟩ := result
    split
    · exact made.trans (push _ _ _)
    · cases progress with
      | complete => exact tried.trans (record ch' .sent)
      | blocked => exact tried.trans (push ch' _ _)
      | failed => exact tried.trans (shut ch')
  · have closed : ch.isOpen = false := by simpa using isOpen
    rw [enqueue_of_closed closed]
    constructor
    · intro opened
      exact opened
    · exact (List.append_nil _).symm
    · intro opened
      exact absurd opened isOpen

theorem write (ch : Channel ε) (data : Bytes) : ch.Shows (ch.write data) [] [data] := by
  have shown := enqueue ch data .done
  rwa [← write_eq_enqueue] at shown

theorem recordAll (ch : Channel ε) (signals : List (Signal ε)) :
    ch.Shows (ch.recordAll signals) (signals.filterMap Signal.dispatch?)
      (signals.filterMap Signal.write?) := by
  rw [Channel.recordAll_eq]
  constructor
  · intro opened
    exact opened
  · simp [seenIn]
  · intro opened
    simp [seenIn]

end Channel.Shows

variable {app : App}

namespace App

theorem filterMap_notes {β : Type} (shown? : Signal app.Event → Option β)
    (silent : ∀ event, shown? (.note event) = none) (events : List app.Event) :
    (events.map Signal.note).filterMap shown? = [] := by
  rw [List.filterMap_map, List.filterMap_eq_nil_iff]
  intro event _
  exact silent event

/-- Trying the routes calls at most one handler, with the request. -/
theorem dispatches_tryRoute (tables : app.Tables) (request : Request) :
    ((tryRoute tables request).signals.filterMap Signal.dispatch?).Sublist [request] := by
  unfold tryRoute
  split
  · exact List.nil_sublist _
  · have notes (events : List app.Event) :=
      filterMap_notes Signal.dispatch? (fun _ => rfl) events
    simp only [List.filterMap_cons, Signal.dispatch?, notes, List.Sublist.refl]

theorem writes_tryRoute (tables : app.Tables) (request : Request) :
    (tryRoute tables request).signals.filterMap Signal.write? = [] := by
  unfold tryRoute
  split
  · rfl
  · have notes (events : List app.Event) :=
      filterMap_notes Signal.write? (fun _ => rfl) events
    simp only [List.filterMap_cons, Signal.write?, notes]

/-- Asking the socket routes shows neither. -/
theorem filterMap_ask {β : Type} (shown? : Signal app.Event → Option β)
    (note : ∀ event, shown? (.note event) = none)
    (asked : ∀ route request captures, shown? (.asked route request captures) = none)
    (request : Request) (tables : app.Tables) (signals : List (Signal app.Event))
    (silent : signals.filterMap shown? = []) (routes : List (SocketRoute app.Gate)) :
    (ask request tables signals routes).signals.filterMap shown? = [] :=
  List.filterMap_eq_nil_iff.2 <|
    forall_ask request (fun _ _ => asked _ _ _) note tables (List.filterMap_eq_nil_iff.1 silent)
      routes

end App

namespace Host

/-- What a response is on the wire; of the answer to a HEAD request, only the head. -/
def bytesOf (response : Response) (headOnly : Bool) : Bytes :=
  if headOnly then ((Request.cutHead? response.toBytes).map Prod.fst).getD response.toBytes
  else response.toBytes

/-- The answer to a failure on the wire, from the page for its status and message. -/
def refusal (tables : app.Tables) (failure : Failure) (closes : Bool) : Bytes :=
  bytesOf (announce (App.errorFor tables failure) closes) false

/-- An upgrade is refused before the application is asked, or because of what it says. -/
theorem openSocket_error {host asked : Host app} {request : Request} {limit : Nat}
    {failure : Failure} (h : host.openSocket request limit = (.error failure, asked)) :
    asked = host ∨ asked = (host.adopt (App.routeSocket host.tables request)).2 := by
  rw [openSocket_eq] at h
  split at h
  · exact .inl (congrArg Prod.snd h).symm
  · simp only at h
    split at h
    · exact .inr (congrArg Prod.snd h).symm
    · cases congrArg Prod.fst h

/-- Trying the routes shows at most one dispatch, and no write. -/
theorem shows_tryRoute (host : Host app) (request : Request) :
    ∃ requests, List.Sublist requests [request] ∧
      host.channel.Shows (host.adopt (App.tryRoute host.tables request)).2.channel requests [] := by
  have shown := Channel.Shows.recordAll host.channel (App.tryRoute host.tables request).signals
  rw [App.writes_tryRoute] at shown
  exact ⟨_, App.dispatches_tryRoute _ _, shown⟩

/-- Refusing an upgrade shows nothing before its answer. -/
theorem shows_openSocket_error {host asked : Host app} {request : Request} {limit : Nat}
    {failure : Failure} (h : host.openSocket request limit = (.error failure, asked)) :
    host.channel.Shows asked.channel [] [] := by
  rcases openSocket_error h with rfl | rfl
  · exact .refl _
  · have recorded :=
      Channel.Shows.recordAll host.channel (App.routeSocket host.tables request).signals
    rwa [App.routeSocket, App.filterMap_ask Signal.dispatch? (fun _ => rfl) (fun _ _ _ => rfl)
        _ _ _ rfl, App.filterMap_ask Signal.write? (fun _ => rfl) (fun _ _ _ => rfl)
        _ _ _ rfl] at recorded

end Host

namespace Element

/-- The requests in an element. -/
def requests : Element → List Request
  | .request whole => [whole]
  | .badHead _ | .badBody _ _ | .unreadable _ => []

/-- How an element is answered: with which response, how the connection goes on, and what it
comes to. -/
inductive Answered (config : Config) (host : Host app) :
    Element → Bytes → Sequel app.Handler → Host app → Prop where
  /-- The request is passed to the routes, and a handler has a response to it. -/
  | routed {request : Request} {response : Response}
    (plain : Handshake.isUpgrade request = false)
    (result : (App.tryRoute host.tables request).result = .ok response) :
    Answered config host (.request request)
      (Host.bytesOf (Host.announce response !request.isKeepAlive) (request.method = .head))
      (.ofClose !request.isKeepAlive)
      ((host.adopt (App.tryRoute host.tables request)).2.write
        (Host.bytesOf (Host.announce response !request.isKeepAlive) (request.method = .head)))
  /-- The request is passed to the routes, and that fails. -/
  | failed {request : Request} {failure : Failure} {closes : Bool}
    (plain : Handshake.isUpgrade request = false)
    (result : (App.tryRoute host.tables request).result = .error failure)
    (last : closes = (!request.isKeepAlive || 500 ≤ failure.status)) :
    Answered config host (.request request)
      (Host.refusal (App.tryRoute host.tables request).tables failure closes) (.ofClose closes)
      ((host.adopt (App.tryRoute host.tables request)).2.write
        (Host.refusal (App.tryRoute host.tables request).tables failure closes))
  /-- The request becomes a WebSocket. -/
  | upgraded {request : Request} {key : String} {conversation : WebSocket.Paused app.Handler}
    {host' : Host app} (upgrade : Handshake.isUpgrade request = true)
    (valid : Handshake.validate request = .ok key)
    (opened : host.openSocket request config.maxMessageSize = (.ok conversation, host')) :
    Answered config host (.request request) (Handshake.response key).toBytes
      (.upgraded conversation) host'
  | refused {request : Request} {failure : Failure} {closes : Bool} {asked : Host app}
    (upgrade : Handshake.isUpgrade request = true)
    (opened : host.openSocket request config.maxMessageSize = (.error failure, asked))
    (last : closes = (!request.isKeepAlive || 500 ≤ failure.status)) :
    Answered config host (.request request) (Host.refusal asked.tables failure closes)
      (.ofClose closes) (asked.write (Host.refusal asked.tables failure closes))
  | badHead {fault : RequestFault} (client : fault.status = 400) :
    Answered config host (.badHead fault) (Host.refusal host.tables (.request fault) false) .next
      (host.write (Host.refusal host.tables (.request fault) false))
  | badBody {head : Request} {fault : RequestFault} (client : fault.status = 400) :
    Answered config host (.badBody head fault)
      (Host.refusal host.tables (.request fault) !head.isKeepAlive) (.ofClose !head.isKeepAlive)
      (host.write (Host.refusal host.tables (.request fault) !head.isKeepAlive))
  | unreadable {fault : RequestFault} :
    Answered config host (.unreadable fault) (Host.refusal host.tables (.request fault) true)
      .close (host.write (Host.refusal host.tables (.request fault) true))

namespace Answered

variable {config : Config} {host host' host'' : Host app} {element : Element}
variable {response response' : Bytes} {sequel sequel' : Sequel app.Handler}

theorem unique (h : element.Answered config host response sequel host')
    (h' : element.Answered config host response' sequel' host'') :
    response = response' ∧ sequel = sequel' ∧ host' = host'' := by
  cases h with
  | routed plain result =>
    cases h' with
    | routed _ result' =>
      cases result.symm.trans result'
      exact ⟨rfl, rfl, rfl⟩
    | failed _ result' => cases result.symm.trans result'
    | upgraded upgrade => cases plain.symm.trans upgrade
    | refused upgrade => cases plain.symm.trans upgrade
  | failed plain result last =>
    cases h' with
    | routed _ result' => cases result.symm.trans result'
    | failed _ result' last' =>
      cases result.symm.trans result'
      subst last last'
      exact ⟨rfl, rfl, rfl⟩
    | upgraded upgrade => cases plain.symm.trans upgrade
    | refused upgrade => cases plain.symm.trans upgrade
  | upgraded upgrade valid opened =>
    cases h' with
    | routed plain => cases plain.symm.trans upgrade
    | failed plain => cases plain.symm.trans upgrade
    | upgraded _ valid' opened' =>
      cases valid.symm.trans valid'
      cases opened.symm.trans opened'
      exact ⟨rfl, rfl, rfl⟩
    | refused _ opened' => cases opened.symm.trans opened'
  | refused upgrade opened last =>
    cases h' with
    | routed plain => cases plain.symm.trans upgrade
    | failed plain => cases plain.symm.trans upgrade
    | upgraded _ _ opened' => cases opened.symm.trans opened'
    | refused _ opened' last' =>
      cases opened.symm.trans opened'
      subst last last'
      exact ⟨rfl, rfl, rfl⟩
  | badHead client =>
    cases h' with
    | badHead _ => exact ⟨rfl, rfl, rfl⟩
  | badBody client =>
    cases h' with
    | badBody _ => exact ⟨rfl, rfl, rfl⟩
  | unreadable =>
    cases h' with
    | unreadable => exact ⟨rfl, rfl, rfl⟩

/-- Unless a WebSocket begins, the trace shows one response, and of the requests in the element
at most that one is dispatched. -/
theorem shows (h : element.Answered config host response sequel host')
    (stays : ∀ conversation, sequel ≠ .upgraded conversation) :
    ∃ requests, List.Sublist requests element.requests ∧
      host.channel.Shows host'.channel requests [response] := by
  have tried (request : Request) (response : Bytes) :
      ∃ requests, List.Sublist requests [request] ∧
        host.channel.Shows
          ((host.adopt (App.tryRoute host.tables request)).2.write response).channel
          requests [response] := by
    obtain ⟨requests, some, shown⟩ := host.shows_tryRoute request
    have whole := shown.trans (.write _ response)
    rw [List.append_nil] at whole
    exact ⟨requests, some, whole⟩
  cases h with
  | routed plain result => exact tried _ _
  | failed plain result last => exact tried _ _
  | upgraded upgrade valid opened => exact absurd rfl (stays _)
  | refused upgrade opened last =>
    exact ⟨[], List.nil_sublist _, (Host.shows_openSocket_error opened).trans (.write _ _)⟩
  | badHead client => exact ⟨[], List.nil_sublist _, .write _ _⟩
  | badBody client => exact ⟨[], List.nil_sublist _, .write _ _⟩
  | unreadable => exact ⟨[], List.nil_sublist _, .write _ _⟩

end Answered

theorem isKeepAlive_attachBody {head whole : Request} {body : Bytes}
    (h : head.attachBody body = .ok whole) : whole.isKeepAlive = head.isKeepAlive := by
  obtain ⟨parts, rfl⟩ := Request.exists_parts_of_attachBody h
  rfl

/-- What a connection does with a head and its body answers the element that they are. -/
theorem answered_ofBody (config : Config) (host : Host app) (head : Request) (body : Bytes) :
    ∃ response, (ofBody head body).Answered config host response
      (host.answer config head body).1 (host.answer config head body).2 := by
  cases added : head.attachBody body with
  | error fault =>
    have client := Request.status_of_attachBody added
    have closes : Host.closesOn (!head.isKeepAlive) (.request fault) = !head.isKeepAlive := by
      simp [Host.closesOn, Failure.isFatal, Failure.status, client]
    simp only [ofBody, Host.answer_eq, added, Host.turnDown, closes]
    exact ⟨_, .badBody client⟩
  | ok whole =>
    have keeps := isKeepAlive_attachBody added
    simp only [ofBody, Host.answer_eq, added]
    by_cases upgrade : Handshake.isUpgrade whole = true
    · rw [if_pos upgrade]
      cases opened : host.openSocket whole config.maxMessageSize with
      | mk result asked =>
        cases result with
        | error failure => exact ⟨_, .refused upgrade opened (by rw [keeps]; rfl)⟩
        | ok conversation =>
          obtain ⟨key, -, valid, -⟩ := Host.openSocket_eq_ok opened
          exact ⟨_, .upgraded upgrade valid opened⟩
    · rw [if_neg upgrade]
      have plain : Handshake.isUpgrade whole = false := by simpa using upgrade
      cases result : (App.tryRoute host.tables whole).result with
      | error failure => exact ⟨_, .failed plain result (by rw [keeps]; rfl)⟩
      | ok response =>
        have routed : (Element.request whole).Answered config host _ _ _ := .routed plain result
        rw [keeps] at routed
        exact ⟨_, routed⟩

end Element
end WebServer

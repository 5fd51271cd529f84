import WebServer.Proofs.Requests.Answers
import WebServer.Proofs.Stream.Windows

/-!
# Serving a stream of requests

A connection and `Request.parse` split a stream at the same places. `Serves` is what repeated
reading at one go makes of a stream: each element that opens what is left of it is answered once,
in order, until a response ends the connection or no element opens the rest. What a connection
does with the stream is that (`requests_served_as_parsed`).
-/
namespace WebServer

open Http (Request RequestFault)

variable {app : App}

/-- An element that was answered, the number of bytes it took up, and the response. -/
structure Exchange where
  element : Element
  size : Nat
  response : Bytes

/-- How a stream is served, if its elements are answered one after another. -/
inductive Serves (config : Config) :
    Bytes → Host app → List Exchange → Stop app.Handler → Host app → Prop where
  /-- Nothing is done as long as no element is there. -/
  | waits {bytes rest : Bytes} {host : Host app} {pending : Pending}
    (silent : ∀ element size, ¬ Element.Opens config.maxRequestSize bytes element size)
    (incomplete : Request.parse bytes = .ok none ∨ Request.parse bytes = .error .lengthOverflow) :
    Serves config bytes host [] (.wait pending rest) host
  | next {bytes response : Bytes} {host host' last : Host app} {element : Element} {size : Nat}
    {later : List Exchange} {stop : Stop app.Handler}
    (opens : element.Opens config.maxRequestSize bytes size)
    (answered : element.Answered config host response .next host')
    (goesOn : Serves config (bytes.drop size) host' later stop last) :
    Serves config bytes host (⟨element, size, response⟩ :: later) stop last
  | close {bytes response : Bytes} {host host' : Host app} {element : Element} {size : Nat}
    (opens : element.Opens config.maxRequestSize bytes size)
    (answered : element.Answered config host response .close host') :
    Serves config bytes host [⟨element, size, response⟩] .close host'
  | upgraded {bytes response : Bytes} {host host' : Host app} {element : Element} {size : Nat}
    {conversation : WebSocket.Paused app.Handler}
    (opens : element.Opens config.maxRequestSize bytes size)
    (answered : element.Answered config host response (.upgraded conversation) host') :
    Serves config bytes host [⟨element, size, response⟩]
      (.upgraded conversation (bytes.drop size)) host'

namespace Serves

variable {config : Config} {bytes : Bytes} {host last last' : Host app}
variable {exchanges exchanges' : List Exchange} {stop stop' : Stop app.Handler}

/-- What comes first in a stream, and what it comes to, is certain. -/
theorem first_unique {element element' : Element} {size size' : Nat} {response response' : Bytes}
    {sequel sequel' : Sequel app.Handler}
    (opens : element.Opens config.maxRequestSize bytes size)
    (answered : element.Answered config host response sequel last)
    (opens' : element'.Opens config.maxRequestSize bytes size')
    (answered' : element'.Answered config host response' sequel' last') :
    (⟨element, size, response⟩ : Exchange) = ⟨element', size', response'⟩ ∧
      sequel = sequel' ∧ last = last' := by
  obtain ⟨rfl, rfl⟩ := opens.unique opens'
  obtain ⟨rfl, goesOn, comesTo⟩ := answered.unique answered'
  exact ⟨rfl, goesOn, comesTo⟩

/-- A stream is served in one way only. -/
theorem unique (h : Serves config bytes host exchanges stop last)
    (h' : Serves config bytes host exchanges' stop' last') :
    exchanges = exchanges' ∧ last = last' := by
  induction h generalizing exchanges' with
  | waits silent incomplete =>
    cases h' with
    | waits => exact ⟨rfl, rfl⟩
    | next opens => exact absurd opens (silent _ _)
    | close opens => exact absurd opens (silent _ _)
    | upgraded opens => exact absurd opens (silent _ _)
  | next opens answered goesOn ih =>
    cases h' with
    | waits silent => exact absurd opens (silent _ _)
    | next opens' answered' goesOn' =>
      obtain ⟨same, -, rfl⟩ := first_unique opens answered opens' answered'
      cases same
      obtain ⟨rfl, rfl⟩ := ih goesOn'
      exact ⟨rfl, rfl⟩
    | close opens' answered' => cases (first_unique opens answered opens' answered').2.1
    | upgraded opens' answered' => cases (first_unique opens answered opens' answered').2.1
  | close opens answered =>
    cases h' with
    | waits silent => exact absurd opens (silent _ _)
    | next opens' answered' => cases (first_unique opens answered opens' answered').2.1
    | close opens' answered' =>
      obtain ⟨same, -, rfl⟩ := first_unique opens answered opens' answered'
      exact ⟨congrArg (List.cons · []) same, rfl⟩
    | upgraded opens' answered' => cases (first_unique opens answered opens' answered').2.1
  | upgraded opens answered =>
    cases h' with
    | waits silent => exact absurd opens (silent _ _)
    | next opens' answered' => cases (first_unique opens answered opens' answered').2.1
    | close opens' answered' => cases (first_unique opens answered opens' answered').2.1
    | upgraded opens' answered' =>
      obtain ⟨same, -, rfl⟩ := first_unique opens answered opens' answered'
      exact ⟨congrArg (List.cons · []) same, rfl⟩

/-- As long as no WebSocket begins, the trace shows one response for each element, in order, and
of the requests each is dispatched at most once, in order. -/
theorem shows (h : Serves config bytes host exchanges stop last)
    (stays : ∀ conversation rest, stop ≠ .upgraded conversation rest) :
    ∃ requests, List.Sublist requests (exchanges.flatMap (·.element.requests)) ∧
      host.channel.Shows last.channel requests (exchanges.map (·.response)) := by
  induction h with
  | waits silent incomplete => exact ⟨[], List.nil_sublist _, .refl _⟩
  | next opens answered goesOn ih =>
    obtain ⟨requests, some, shown⟩ := answered.shows (by intro conversation same; cases same)
    obtain ⟨later, others, shownLater⟩ := ih stays
    refine ⟨requests ++ later, ?_, shown.trans shownLater⟩
    rw [List.flatMap_cons]
    exact some.append others
  | close opens answered =>
    obtain ⟨requests, some, shown⟩ := answered.shows (by intro conversation same; cases same)
    refine ⟨requests, ?_, shown⟩
    rw [List.flatMap_singleton]
    exact some
  | upgraded opens answered => exact absurd rfl (stays _ _)

end Serves

namespace Element

variable {config : Config} {bytes : Bytes} {element : Element} {size : Nat}

/-- An element at the beginning is answered, and what is behind it is served then. -/
theorem Opens.served (limit : config.maxHeaders = Request.defaultFieldLimit)
    (opens : element.Opens config.maxRequestSize bytes size) (host : Host app) :
    ∃ response sequel host', element.Answered config host response sequel host' ∧
      serveWindow config none bytes host =
        match sequel with
        | .next => serveWindow config none (bytes.drop size) host'
        | .close => (.close, host')
        | .upgraded conversation => (.upgraded conversation (bytes.drop size), host') := by
  have found := opens.ofOpening_eq limit
  cases opening : Opening.ofWindow config bytes with
  | incomplete =>
    rw [opening] at found
    cases found
  | request head length rest =>
    rw [opening] at found
    obtain ⟨⟨body, behind⟩, split, same⟩ := Option.map_eq_some_iff.1 found
    obtain ⟨rfl, rfl⟩ := Prod.mk.inj same
    obtain ⟨response, answered⟩ := answered_ofBody config host head body
    have turn : serveWindow config none bytes host =
        serveWindow config (some (head, length)) rest host := by
      rw [serveWindow_none, opening]
    refine ⟨response, _, _, answered, ?_⟩
    cases goesOn : (host.answer config head body).1 with
    | next => simp only [turn, serveWindow_some, split, goesOn]
    | close => simp only [turn, serveWindow_some, split, goesOn]
    | upgraded conversation => simp only [turn, serveWindow_some, split, goesOn]
  | malformed fault rest =>
    rw [opening] at found
    obtain ⟨rfl, rfl⟩ := Prod.mk.inj (Option.some.inj found)
    have client : fault.status = 400 := by
      cases opens with
      | badHead cut fits rejected => exact Request.status_of_parseHead rejected
    have goesOn : Host.closesOn false (.request fault) = false := by
      simp [Host.closesOn, Http.Failure.isFatal, Http.Failure.status, client]
    refine ⟨_, .next, _, .badHead client, ?_⟩
    simp only [serveWindow_none config bytes, opening, goesOn]
    rfl
  | unframed fault =>
    rw [opening] at found
    obtain ⟨rfl, -⟩ := Prod.mk.inj (Option.some.inj found)
    refine ⟨_, .close, _, .unreadable, ?_⟩
    rw [serveWindow_none, opening]
    rfl

end Element

/-- If no element is there, more bytes are waited for. -/
theorem serveWindow_of_silent {config : Config} {bytes : Bytes}
    (limit : config.maxHeaders = Request.defaultFieldLimit)
    (buffer : bytes.length ≤ Request.greatestLength)
    (silent : ∀ element size, ¬ Element.Opens config.maxRequestSize bytes element size)
    (host : Host app) :
    (Request.parse bytes = .ok none ∨ Request.parse bytes = .error .lengthOverflow) ∧
      ∃ pending rest, serveWindow config none bytes host = (.wait pending rest, host) := by
  cases cut : Request.cutHead? bytes with
  | none =>
    have small : ¬ config.maxRequestSize < bytes.length := by
      intro exceeds
      exact silent _ _ (.tooLarge (.endless cut exceeds))
    have opening : Opening.ofWindow config bytes = .incomplete := by
      simp only [Opening.ofWindow, cut, if_neg small]
    refine ⟨.inl ?_, none, bytes, ?_⟩
    · simp only [Request.parse, cut]
    · rw [serveWindow_none, opening]
  | some parts =>
    obtain ⟨head, behind⟩ := parts
    have small : ¬ config.maxRequestSize < head.length := by
      intro exceeds
      exact silent _ _ (.tooLarge (.head cut exceeds))
    have fits : head.length ≤ config.maxRequestSize := Nat.le_of_not_lt small
    cases parsed : Request.parseHead head Request.defaultFieldLimit with
    | error fault => exact absurd (.badHead cut fits parsed) (silent _ _)
    | ok request =>
      cases sized : request.bodyLength with
      | error fault => exact absurd (.unframed cut fits parsed sized) (silent _ _)
      | ok length =>
        have within : ¬ config.maxRequestSize <
            min (head.length + length) Request.greatestLength := by
          intro exceeds
          exact silent _ _ (.tooLarge (.body cut parsed sized exceeds))
        have opening : Opening.ofWindow config bytes = .request request length behind := by
          simp only [Opening.ofWindow, cut, if_neg small, limit, parsed, sized, if_neg within]
        cases split : Bytes.splitExactly? length behind with
        | none =>
          constructor
          · by_cases exceeds : Request.greatestLength < head.length + length
            · right
              simp only [Request.parse, cut, parsed, sized, bind, Except.bind, if_pos exceeds]
              rfl
            · left
              simp only [Request.parse, cut, parsed, sized, bind, Except.bind, if_neg exceeds,
                split]
              rfl
          · refine ⟨some (request, length), behind, ?_⟩
            rw [serveWindow_none, opening]
            simp only [serveWindow_some, split]
        | some parts =>
          obtain ⟨body, rest⟩ := parts
          obtain ⟨rfl, rfl⟩ := Bytes.splitExactly?_eq_some_iff.1 split
          have framed : Request.Framed bytes head body rest request := ⟨cut, parsed, sized⟩
          have sizes := (length_cutHead? cut).2
          rw [List.length_append] at sizes
          -- What is in a buffer is shorter than the greatest length, so the limit holds of it.
          have whole : head.length + body.length ≤ config.maxRequestSize := by omega
          cases added : request.attachBody body with
          | error fault => exact absurd (.badBody framed whole added) (silent _ _)
          | ok attached =>
            have read := Request.parse_eq_some_iff.2
              ⟨head, body, rest, request, framed, added, rfl, by omega⟩
            exact absurd (.request read whole) (silent _ _)

theorem exists_serves {config : Config}
    (limit : config.maxHeaders = Request.defaultFieldLimit) (bytes : Bytes)
    (buffer : bytes.length ≤ Request.greatestLength) (host : Host app) :
    ∃ exchanges, Serves config bytes host exchanges (serveWindow config none bytes host).1
      (serveWindow config none bytes host).2 := by
  induction size : bytes.length using Nat.strongRecOn generalizing bytes host with
  | ind length ih =>
    by_cases opening : ∃ element size, Element.Opens config.maxRequestSize bytes element size
    · obtain ⟨element, size, opens⟩ := opening
      obtain ⟨response, sequel, host', answered, served⟩ := opens.served limit host
      rw [served]
      cases sequel with
      | next =>
        have pos := opens.size_pos
        have within := opens.size_le
        have shorter : (bytes.drop size).length < length := by
          rw [List.length_drop]
          omega
        have small : (bytes.drop size).length ≤ Request.greatestLength := by
          rw [List.length_drop]
          omega
        obtain ⟨later, goesOn⟩ := ih _ shorter _ small host' rfl
        exact ⟨_, .next opens answered goesOn⟩
      | close => exact ⟨_, .close opens answered⟩
      | upgraded conversation => exact ⟨_, .upgraded opens answered⟩
    · have silent : ∀ element size, ¬ Element.Opens config.maxRequestSize bytes element size := by
        intro element size opens
        exact opening ⟨element, size, opens⟩
      obtain ⟨incomplete, pending, rest, waits⟩ := serveWindow_of_silent limit buffer silent host
      rw [waits]
      exact ⟨[], .waits silent incomplete⟩

/-- Serves a stream that comes in pieces. What is left of one piece is served with the next. -/
def servePieces (config : Config) (host : Host app) (pieces : List Bytes) :
    Stop app.Handler × Host app :=
  pieces.foldl (fun served piece => served.1.serveMore config piece served.2)
    (.wait none [], host)

/-- It does not matter how a stream is cut. -/
theorem servePieces_eq (config : Config) (host : Host app) (pieces : List Bytes) :
    servePieces config host pieces = serveWindow config none pieces.flatten host := by
  -- Along the pieces: what was served so far is what serving the pieces so far as one comes to.
  have onward (done : Bytes) : pieces.foldl
      (fun served piece => served.1.serveMore config piece served.2)
      (serveWindow config none done host) =
        serveWindow config none (done ++ pieces.flatten) host := by
    induction pieces generalizing done with
    | nil => rw [List.foldl_nil, List.flatten_nil, List.append_nil]
    | cons piece pieces ih =>
      rw [List.foldl_cons, ← serveWindow_append, ih, List.flatten_cons, List.append_assoc]
  have start : serveWindow config none [] host = (.wait none [], host) :=
    serveWindow_nil config (by decide) host
  have whole := onward []
  rw [start, List.nil_append] at whole
  exact whole

/-- A connection that is given a stream at once or in pieces, with the number of header fields that
`Request.parse` allows and whatever limit for the length of requests, answers exactly the elements
that repeated reading at one go finds: each once and in order, until a response ends the
connection, a WebSocket begins, or more bytes are needed. Unless a WebSocket begins, the trace
shows exactly one response for each of them, and dispatches of their requests only, none of them
twice and in order. -/
theorem requests_served_as_parsed (config : Config)
    (limit : config.maxHeaders = Request.defaultFieldLimit) {bytes : Bytes}
    (buffer : bytes.length ≤ Request.greatestLength) (host : Host app) :
    ∃ exchanges stop last,
      (Active.http none).consume config bytes host = (Active.ofStop bytes stop, last) ∧
      (∀ pieces, pieces.flatten = bytes → servePieces config host pieces = (stop, last)) ∧
      Serves config bytes host exchanges stop last ∧
      (∀ exchanges' stop' last', Serves config bytes host exchanges' stop' last' →
        exchanges' = exchanges ∧ last' = last) ∧
      ((∀ conversation rest, stop ≠ .upgraded conversation rest) →
        ∃ requests, List.Sublist requests (exchanges.flatMap (·.element.requests)) ∧
          host.channel.Shows last.channel requests (exchanges.map (·.response))) := by
  obtain ⟨exchanges, serves⟩ := exists_serves limit bytes buffer host
  refine ⟨exchanges, _, _, rfl, ?_, serves, ?_, serves.shows⟩
  · intro pieces cut
    rw [servePieces_eq, cut]
  · intro exchanges' stop' last' serves'
    exact serves'.unique serves

/-- Two requests in one window, of which the second is the last of its connection. -/
theorem two_requests_served :
    let config : Config := {}
    let bytes := Text.encode "GET /a HTTP/1.1\r\n\r\nGET /b HTTP/1.0\r\n\r\n"
    let host : Host bareApp := {}
    config.maxHeaders = Request.defaultFieldLimit ∧ bytes.length ≤ Request.greatestLength ∧
      ∃ exchanges stop last,
        (Active.http none).consume config bytes host = (Active.ofStop bytes stop, last) ∧
        (∀ pieces, pieces.flatten = bytes → servePieces config host pieces = (stop, last)) ∧
        Serves config bytes host exchanges stop last ∧
        (∀ exchanges' stop' last', Serves config bytes host exchanges' stop' last' →
          exchanges' = exchanges ∧ last' = last) ∧
        ((∀ conversation rest, stop ≠ .upgraded conversation rest) →
          ∃ requests, List.Sublist requests (exchanges.flatMap (·.element.requests)) ∧
            host.channel.Shows last.channel requests (exchanges.map (·.response))) := by
  intro config bytes host
  have limit : config.maxHeaders = Request.defaultFieldLimit := rfl
  have length : bytes.length = 38 := by decide +kernel
  have buffer : bytes.length ≤ Request.greatestLength := by
    rw [length]
    decide
  exact ⟨limit, buffer, requests_served_as_parsed config limit buffer host⟩

end WebServer

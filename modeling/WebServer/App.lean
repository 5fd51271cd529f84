import WebServer.Http.Response
import WebServer.Routing.Route
import WebServer.WebSocket.Script

/-!
# Applications

What an application brings along: functions that answer requests, decide on upgrades, react to
what happens on a WebSocket, and make pages for failures. Each of them may fail by panicking.
They are told apart by values of four types, which stand in the tables of a dispatcher.
-/
namespace WebServer

open Http (Request Response Failure)

/-- The tables of an application: its routes for requests and for WebSockets, each in the order of
registration, and its page for failures. -/
structure Dispatcher (κ γ ρ : Type) where
  routes : List (Route κ) := []
  socketRoutes : List (SocketRoute γ) := []
  errorPage : Option ρ := none

/-- What a function of the application does: it notes events, may edit the tables, and comes to a
verdict. -/
structure Reply (ε δ ν : Type) where
  notes : List ε := []
  edit : δ → δ := id
  verdict : ν

/-- What a handler of requests comes to. -/
inductive Verdict where
  | respond (response : Response)
  | decline
  | fail (failure : Failure)
  | panic
  deriving DecidableEq, Repr

/-- What a socket route comes to, when it is asked for a handler. -/
inductive Admission (η : Type) where
  | accept (handler : η)
  | decline
  | panic
  deriving DecidableEq, Repr

structure App where
  /-- What the application notes. -/
  Event : Type
  /-- Names the functions that answer requests. -/
  Endpoint : Type
  /-- Names the functions that decide on upgrades. -/
  Gate : Type
  /-- Names the functions that make pages for failures. -/
  Page : Type
  /-- The states of handlers of WebSockets. -/
  Handler : Type
  call : Endpoint → Request → Captures →
    Reply Event (Dispatcher Endpoint Gate Page) Verdict
  answerUpgrade : Gate → Request → Captures →
    Reply Event (Dispatcher Endpoint Gate Page) (Admission Handler)
  react : Handler → WebSocket.Callback → WebSocket.Script Event Handler
  /-- The page for a status and a message; none if the function panics. -/
  page : Page → Nat → String → Option Response

/-- The tables of an application. -/
abbrev App.Tables (app : App) := Dispatcher app.Endpoint app.Gate app.Page

end WebServer

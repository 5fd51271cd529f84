import WebServer.App

/-!
# Dispatch

Finds the handler for a request and turns whatever happens into a response. Of the routes that
match the path and allow the method, the one with the best score answers, and of equal ones the
first. The tables are those at the beginning of the search: what a handler registers counts only
for later requests.
-/
namespace WebServer

open Http (Request Response Failure RoutingFault Method)

namespace Dispatcher

variable {κ γ ρ : Type}

def addRoute (d : Dispatcher κ γ ρ) (route : Route κ) : Dispatcher κ γ ρ :=
  { d with routes := d.routes ++ [route] }

/-- Takes away the first route with that key. -/
def removeRoute (d : Dispatcher κ γ ρ) (key : Nat) : Dispatcher κ γ ρ :=
  { d with routes := d.routes.eraseP (·.key == key) }

def hasRoute (d : Dispatcher κ γ ρ) (key : Nat) : Bool := d.routes.any (·.key == key)

def addSocketRoute (d : Dispatcher κ γ ρ) (route : SocketRoute γ) : Dispatcher κ γ ρ :=
  { d with socketRoutes := d.socketRoutes ++ [route] }

def removeSocketRoute (d : Dispatcher κ γ ρ) (key : Nat) : Dispatcher κ γ ρ :=
  { d with socketRoutes := d.socketRoutes.eraseP (·.key == key) }

def hasSocketRoute (d : Dispatcher κ γ ρ) (key : Nat) : Bool := d.socketRoutes.any (·.key == key)

def setErrorPage (d : Dispatcher κ γ ρ) (page : ρ) : Dispatcher κ γ ρ :=
  { d with errorPage := some page }

/-- A route that matches a path, with what it captured and how specific it is. -/
structure Candidate (κ : Type) where
  route : Route κ
  captures : Captures
  score : Int

/-- The routes that match the path, whatever methods they allow. -/
def matching (routes : List (Route κ)) (path : String) : List (Candidate κ) :=
  routes.filterMap fun route =>
    (route.captures? path).map fun captures => ⟨route, captures, WebServer.score path captures⟩

/-- The first candidate of the best score. -/
def best? (candidates : List (Candidate κ)) : Option (Candidate κ) :=
  candidates.foldl (fun top next =>
    match top with
    | none => some next
    | some top => if top.score < next.score then some next else some top) none

/-- The candidate that answers for a method and a path. -/
def choose (routes : List (Route κ)) (method : Method) (path : String) :
    Except RoutingFault (Candidate κ) :=
  let candidates := matching routes path
  match best? (candidates.filter fun c => c.route.allows method) with
  | some candidate => .ok candidate
  | none =>
    if candidates.isEmpty then .error (.noRoute path) else .error (.methodNotAllowed method path)

/-- The response for a failure when the application has no page for it. -/
def plainPage (status : Nat) (message : String) : Response :=
  ({ status } : Response).withJson (.ofMembers [("status", .nat status),
    ("error", .text ((Http.reasonPhrase? status).getD "Unknown")), ("message", .text message)])

end Dispatcher

/-- A result together with the tables and signals that go with it. -/
structure Dispatched (app : App) (α : Type) where
  result : α
  tables : app.Tables
  signals : List (Signal app.Event)

namespace App

variable {app : App}

/-- What the verdict of a handler means for the request. -/
def Verdict.result (path : String) : Verdict → Except Failure Response
  | .respond response => .ok response
  | .decline => .error (.routing (.declined path))
  | .fail failure => .error failure
  | .panic => .error (.routing .handlerPanicked)

/-- Calls the best handler for the request. -/
def tryRoute (tables : app.Tables) (request : Request) :
    Dispatched app (Except Failure Response) :=
  match Dispatcher.choose tables.routes request.method request.path with
  | .error fault => ⟨.error (.routing fault), tables, []⟩
  | .ok candidate =>
    let reply := app.call candidate.route.endpoint request candidate.captures
    ⟨Verdict.result request.path reply.verdict, reply.edit tables,
      .handled candidate.route.key request candidate.captures :: reply.notes.map .note⟩

/-- The response for a status and a message. If the application's page panics, the plain one
stands in for it. -/
def errorResponse (tables : app.Tables) (status : Nat) (message : String) : Response :=
  match tables.errorPage.bind fun page => app.page page status message with
  | some response => response
  | none => Dispatcher.plainPage status message

def errorFor (tables : app.Tables) (failure : Failure) : Response :=
  errorResponse tables failure.status failure.message

/-- Routes a request; every failure becomes a response. -/
def route (tables : app.Tables) (request : Request) : Dispatched app Response :=
  let tried := tryRoute tables request
  match tried.result with
  | .ok response => ⟨response, tried.tables, tried.signals⟩
  | .error failure => ⟨errorFor tried.tables failure, tried.tables, tried.signals⟩

/-- Asks the socket routes that match, in their order, until one of them accepts or panics. -/
def ask (request : Request) (tables : app.Tables) (signals : List (Signal app.Event)) :
    List (SocketRoute app.Gate) → Dispatched app (Except Failure app.Handler)
  | [] => ⟨.error (.routing (.noSocketRoute request.path)), tables, signals⟩
  | route :: routes =>
    match route.captures? request.path with
    | none => ask request tables signals routes
    | some captures =>
      let reply := app.answerUpgrade route.gate request captures
      let tables := reply.edit tables
      let signals := signals ++ .asked route.key request captures :: reply.notes.map .note
      match reply.verdict with
      | .accept handler => ⟨.ok handler, tables, signals⟩
      | .decline => ask request tables signals routes
      | .panic => ⟨.error (.routing .factoryPanicked), tables, signals⟩

/-- Finds a handler for a request that wants to become a WebSocket. -/
def routeSocket (tables : app.Tables) (request : Request) :
    Dispatched app (Except Failure app.Handler) :=
  ask request tables [] tables.socketRoutes

end App
end WebServer

import WebServer.Routing.Dispatcher
import WebServer.Routing.Signature
import WebServer.Scenario.Actor

/-!
# Scripted applications

An application whose handlers, socket routes and pages do fixed things, each of which is written
down as a value.
-/
namespace WebServer.Scenario

open Http (Request Response Failure Method)
open WebSocket (Callback)

/-- What the handler of a route does. -/
inductive Play where
  | respond (response : Response)
  /-- Sends back the body. -/
  | echo
  /-- Sends the report of the request. -/
  | dump
  /-- Sends that many bytes, which count up to 250 over and over. -/
  | big (count : Nat)
  /-- Sends the captured groups. -/
  | captures
  | decline
  | fail (failure : Failure)
  | panic
  /-- Adds a route to the tables and sends an empty answer. -/
  | register (id pattern : String) (methods : List Method) (play : Play)
  /-- Reads the groups as values and sends them one after another. -/
  | typed (signature : Signature)
  deriving Inhabited

/-- A handler of a route. -/
structure Endpoint where
  id : String
  play : Play

/-- How a socket route decides. -/
inductive Policy where
  | always (accepts : Bool)
  | panic
  /-- Accepts if the first argument of a name has a value. -/
  | argument (name value : String)
  deriving DecidableEq, Repr

structure Gate where
  id : String
  policy : Policy
  actor : Actor
  deriving DecidableEq, Repr

/-- What makes a page for a failure. -/
inductive Page where
  | custom
  | respond (response : Response)
  | panic
  deriving DecidableEq, Repr

abbrev Tables := Dispatcher Endpoint Gate Page

def ok : Response := { status := 200 }

def bigBody (count : Nat) : Bytes := (List.range count).map fun i => (i % 251).toUInt8

def capturesReport (captures : Captures) : Json :=
  .ofMembers [("caps", Report.captures captures), ("len", .nat captures.length),
    ("empty", .bool captures.isEmpty), ("past_end", .null)]

/-- The answer of a handler with typed arguments. -/
def typedAnswer (signature : Signature) (captures : Captures) : Verdict :=
  match signature.read captures with
  | .error fault => .fail (.routing fault)
  | .ok [] => .respond (ok.withText "unit")
  | .ok values => .respond (ok.withText ("|".intercalate (values.map ArgValue.shown)))

/-- The route of a handler: one with typed arguments needs as many groups. -/
def Endpoint.route (key : Nat) (endpoint : Endpoint) (pattern : String) (methods : List Method) :
    Except RouteFault (Route Endpoint) :=
  match endpoint.play with
  | .typed signature => Route.compileTyped key pattern methods signature.length endpoint
  | _ => Route.compile key pattern methods endpoint

/-- Routes that a handler adds have odd keys, so that no step of a scenario names them. -/
def registeredKey (tables : Tables) : Nat := 2 * tables.routes.length + 1

/-- What a handler comes to, and how it changes the tables. -/
def Play.perform (request : Request) (captures : Captures) : Play → Verdict × (Tables → Tables)
  | .respond response => (.respond response, id)
  | .echo => (.respond (ok.withBody request.body), id)
  | .dump => (.respond (ok.withJson (Report.request request)), id)
  | .big count => (.respond (ok.withBody (bigBody count)), id)
  | .captures => (.respond (ok.withJson (capturesReport captures)), id)
  | .decline => (.decline, id)
  | .fail failure => (.fail failure, id)
  | .panic => (.panic, id)
  | .register name pattern methods play =>
    match Endpoint.route 1 ⟨name, play⟩ pattern methods with
    | .error _ => (.panic, id)
    | .ok route =>
      (.respond { status := 201 },
        fun tables => tables.addRoute { route with key := registeredKey tables })
  | .typed signature => (typedAnswer signature captures, id)

/-- A typed handler notes nothing. -/
def Play.notes (id : String) : Play → List Event
  | .typed _ => []
  | _ => [.called id]

def Endpoint.call (endpoint : Endpoint) (request : Request) (captures : Captures) :
    Reply Event Tables Verdict :=
  let (verdict, edit) := endpoint.play.perform request captures
  { notes := endpoint.play.notes endpoint.id, edit, verdict }

def Gate.decide (gate : Gate) (request : Request) : Admission Actor :=
  let admission (accepts : Bool) : Admission Actor :=
    if accepts then .accept gate.actor else .decline
  match gate.policy with
  | .always accepts => admission accepts
  | .panic => .panic
  | .argument name value => admission (request.arg? name = some value)

def Gate.ask (gate : Gate) (request : Request) (captures : Captures) :
    Reply Event Tables (Admission Actor) :=
  { notes := [.asked gate.id captures], verdict := gate.decide request }

def Page.render (page : Page) (status : Nat) (message : String) : Option Response :=
  match page with
  | .custom => some (({ status } : Response).withText s!"custom {status}: {message}")
  | .respond response => some response
  | .panic => none

/-- The application of a scenario. -/
def site : App where
  Event := Event
  Endpoint := Endpoint
  Gate := Gate
  Page := Page
  Handler := Actor
  call := Endpoint.call
  answerUpgrade := Gate.ask
  react := Actor.react
  page := Page.render

end WebServer.Scenario

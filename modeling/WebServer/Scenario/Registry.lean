import WebServer.Scenario.Site

/-!
# Registering and dispatching

A registry remembers by name the routes that a scenario defined, whether they stand in the tables
or not, so that later steps can add them again or take them away.
-/
namespace WebServer.Scenario

open Http (Request Method)

/-- A route as a scenario defines it. -/
structure RouteSpec where
  endpoint : Endpoint
  pattern : String
  methods : List Method

/-- A socket route as a scenario defines it. -/
structure GateSpec where
  gate : Gate
  pattern : String
  /-- The report shows the route in full. -/
  debug : Bool := false

/-- What the tables hold at the beginning. -/
structure Setup where
  routes : List RouteSpec := []
  gates : List GateSpec := []
  errorPage : Option Page := none

structure Registry where
  tables : Tables := {}
  /-- All routes that were defined, the latest first. -/
  routes : List (String × Route Endpoint) := []
  gates : List (String × SocketRoute Gate) := []

namespace Registry

/-- Defines a route and adds it. Routes of a registry have even keys. -/
def define (r : Registry) (spec : RouteSpec) : Except RouteFault (Route Endpoint × Registry) := do
  let route ← spec.endpoint.route (2 * r.routes.length) spec.pattern spec.methods
  return (route, { r with
    tables := r.tables.addRoute route
    routes := (spec.endpoint.id, route) :: r.routes })

/-- Defines a socket route and adds it. -/
def defineGate (r : Registry) (spec : GateSpec) :
    Except RouteFault (SocketRoute Gate × Registry) := do
  let route ← SocketRoute.compile (2 * r.gates.length) spec.pattern spec.gate
  return (route, { r with
    tables := r.tables.addSocketRoute route
    gates := (spec.gate.id, route) :: r.gates })

def ofSetup (setup : Setup) : Except RouteFault Registry := do
  let r ← setup.routes.foldlM (fun r spec => return (← define r spec).2) {}
  let r ← setup.gates.foldlM (fun r spec => return (← defineGate r spec).2) r
  return { r with tables := { r.tables with errorPage := setup.errorPage } }

end Registry

namespace Report

def methodWords : Method → String
  | .get => "Get"
  | .post => "Post"
  | .put => "Put"
  | .delete => "Delete"
  | .head => "Head"
  | .options => "Options"
  | .patch => "Patch"
  | .connect => "Connect"
  | .trace => "Trace"
  | .custom name => s!"Custom({Text.quoted name})"

/-- A route in full. -/
def routeWords (route : Route Endpoint) : String :=
  let methods := ", ".intercalate (route.methods.map methodWords)
  s!"Route \x7b pattern: {Text.quoted route.pattern}, methods: [{methods}], .. \x7d"

def socketRouteWords (route : SocketRoute Gate) : String :=
  s!"WsRoute \x7b pattern: {Text.quoted route.pattern}, .. \x7d"

def routeFault : RouteFault → Json
  | .pattern _ => .ofMembers [("error", .text "Pattern")]
  | .arity pattern expected found => .ofMembers [("error", .text "Arity"),
      ("message", .text (arityMessage pattern expected found)), ("expected", .nat expected),
      ("found", .nat found)]

def methods (methods : List Method) : Json := .texts (methods.map Method.name)

/-- What a route does with a path. -/
def pathMatch (route : Route Endpoint) (path : String) : Json :=
  match route.captures? path with
  | none => .null
  | some groups => .ofMembers [("caps", captures groups), ("score", .int (score path groups))]

end Report

/-- Defines one route and shows what it does with paths and methods. -/
def tryRoute (spec : RouteSpec) (paths : List String) (allows : List Method) (debug : Bool) :
    Json :=
  match spec.endpoint.route 0 spec.pattern spec.methods with
  | .error fault => Report.routeFault fault
  | .ok route =>
    .ofMembers [("pattern", .text route.pattern), ("methods", Report.methods route.methods),
      ("matches", .list (paths.map (Report.pathMatch route))),
      ("allows", .list (allows.map fun method => .bool (route.allows method))),
      ("debug", if debug then .text (Report.routeWords route) else .null)]

/-- A step of a scenario of dispatching. -/
inductive RegistryStep where
  | define (spec : RouteSpec)
  | add (id : String)
  | remove (id : String)
  | defineGate (spec : GateSpec)
  | addGate (id : String)
  | removeGate (id : String)
  | setErrorPage (page : Page)
  | errorResponse (status : Nat) (message : String)
  /-- Routes a request; failures become responses. -/
  | route (request : Bytes)
  | tryRoute (request : Bytes)
  | routeSocket (request : Bytes)

namespace Registry

/-- Dispatches a request that is sent as bytes. -/
def withRequest (r : Registry) (bytes : Bytes)
    (dispatch : Tables → Request → Json × Tables × List (Signal Event)) :
    Json × Registry × List (Signal Event) :=
  match Request.parse bytes with
  | .error fault => (.ofMembers [("parse", Report.failure (.request fault))], r, [])
  | .ok none => (.ofMembers [("incomplete", .bool true)], r, [])
  | .ok (some (request, _)) =>
    let (result, tables, signals) := dispatch r.tables request
    (result, { r with tables }, signals)

/-- The result of a step, the registry after it and what happened. -/
def step (r : Registry) : RegistryStep → Json × Registry × List (Signal Event)
  | .define spec =>
    match r.define spec with
    | .error fault => (Report.routeFault fault, r, [])
    | .ok (route, r) =>
      (.ofMembers [("pattern", .text route.pattern), ("methods", Report.methods route.methods)],
        r, [])
  | .add id =>
    match r.routes.lookup id with
    | none => (.null, r, [])
    | some route => (.null, { r with tables := r.tables.addRoute route }, [])
  | .remove id =>
    match r.routes.lookup id with
    | none => (.bool false, r, [])
    | some route =>
      (.bool (r.tables.hasRoute route.key), { r with tables := r.tables.removeRoute route.key }, [])
  | .defineGate spec =>
    match r.defineGate spec with
    | .error fault => (Report.routeFault fault, r, [])
    | .ok (route, r) =>
      (.ofMembers [("pattern", .text route.pattern),
        ("debug", if spec.debug then .text (Report.socketRouteWords route) else .null)], r, [])
  | .addGate id =>
    match r.gates.lookup id with
    | none => (.null, r, [])
    | some route => (.null, { r with tables := r.tables.addSocketRoute route }, [])
  | .removeGate id =>
    match r.gates.lookup id with
    | none => (.bool false, r, [])
    | some route =>
      (.bool (r.tables.hasSocketRoute route.key),
        { r with tables := r.tables.removeSocketRoute route.key }, [])
  | .setErrorPage page => (.null, { r with tables := r.tables.setErrorPage page }, [])
  | .errorResponse status message =>
    let tables : site.Tables := r.tables
    (Report.response (App.errorResponse tables status message), r, [])
  | .route request => r.withRequest request fun tables request =>
    let routed := App.route (show site.Tables from tables) request
    (Report.response routed.result, routed.tables, routed.signals)
  | .tryRoute request => r.withRequest request fun tables request =>
    let tried := App.tryRoute (show site.Tables from tables) request
    let result := match tried.result with
      | .ok response => Report.response response
      | .error failure => Report.failure failure
    (result, tried.tables, tried.signals)
  | .routeSocket request => r.withRequest request fun tables request =>
    let asked := App.routeSocket (show site.Tables from tables) request
    let result := match asked.result with
      | .ok _ => .text "accepted"
      | .error failure => Report.failure failure
    (result, asked.tables, asked.signals)

/-- The reports of steps one after another. -/
def run (r : Registry) : List RegistryStep → List Json
  | [] => []
  | step :: steps =>
    let (result, r, signals) := r.step step
    .ofMembers [("result", result), ("ev", Report.events signals),
      ("routes", .nat r.tables.routes.length),
      ("ws_routes", .nat r.tables.socketRoutes.length)] :: run r steps

end Registry

/-- A step of a scenario of the place where a dispatcher is installed for all. -/
inductive DefaultStep where
  | install (name : String)
  | get
  | clear

/-- The names of the dispatchers that the steps give: one that is installed or cleared gives the
one that was there before. -/
def runDefaults (current : Option String) : List DefaultStep → List (Option String)
  | [] => []
  | .install name :: steps => current :: runDefaults (some name) steps
  | .get :: steps => current :: runDefaults current steps
  | .clear :: steps => current :: runDefaults none steps

end WebServer.Scenario

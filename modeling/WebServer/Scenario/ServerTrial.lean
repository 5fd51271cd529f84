import WebServer.Scenario.ConnectionTrial
import WebServer.Scenario.Registry
import WebServer.Server

/-!
# Trials of a server

A server listens, and clients connect to it one after another. What a client receives is computed
from its connection: it sends all at once, the application acts, the client may stop sending, and
then only the timers of the connection run.
-/
namespace WebServer.Scenario

/-- What a client does, and what the application does beside it. -/
structure Visit where
  send : Bytes := []
  acts : List Deed := []
  /-- The application closes the connection. -/
  close : Bool := false
  /-- The client stops sending, but goes on to receive. -/
  halfClose : Bool := false

structure ServerTrial where
  setup : Setup := {}
  config : Config := {}
  addresses : List String := []
  visits : List Visit := []

/-- Why a trial of a server fails. -/
inductive TrialFault where
  | route (fault : RouteFault)
  | server (fault : ServerFault)
  /-- The clients have no network. -/
  | unreachable

namespace ServerTrial

/-- Runs the timers that are due, one after another, until the connection closes. -/
def runTimers (server : Server site) (c : Connection site (Active Actor)) :
    Nat → Connection site (Active Actor)
  | 0 => c
  | fuel + 1 =>
    match Connection.deadline server.protocol c with
    | none => c
    | some now =>
      if c.isClosed then c
      else
        let c := ConnectionTrial.onHost c fun host => { host with now }
        runTimers server (c.onTimer server.protocol now) fuel

/-- How many timers a client waits for. -/
def patience : Nat := 1000

/-- The life of the connection of a client. -/
def visit (server : Server site) (v : Visit) : Connection site (Active Actor) :=
  let step (c : Connection site (Active Actor)) (s : ConnectionStep) :=
    ConnectionTrial.step server.protocol reachSocket none c s
  let c := if v.send.isEmpty then server.accept else step server.accept (.feed v.send)
  let c := v.acts.foldl (fun c deed =>
    (reachSocket c.protocol c.host deed).elim c fun (protocol, host) => { c with protocol, host }) c
  let c := if v.close then c.close else c
  let c := if v.halfClose then step (step c (.socket .ended)) (.event { readable := true }) else c
  (runTimers server c patience).tearDown server.protocol

/-- The reports of clients one after another. What handlers register stays. -/
def serve (server : Server site) : List Visit → List Json
  | [] => []
  | v :: vs =>
    let host := (visit server v).host
    let signals := host.channel.trace.reverse
    .ofMembers [("recv", Report.written signals), ("end", .text "eof"),
      ("ev", Report.events signals)] :: serve { server with tables := host.tables } vs

def listen (server : Server site) (addresses : List String) :
    Except ServerFault (Server site) :=
  addresses.foldlM Server.bind server

/-- Runs a trial. Without a network no client gets through. -/
def run (t : ServerTrial) (network : Bool) : Except TrialFault Json := do
  let registry ← (Registry.ofSetup t.setup).mapError .route
  let server ← ((Server.make t.config registry.tables).bind fun server => do
    let server ← listen server t.addresses
    server.check
    return server).mapError .server
  if !network && !t.visits.isEmpty then throw .unreachable
  return .ofMembers [("server", .ofMembers [("config", Report.config t.config),
      ("routes", .nat registry.tables.routes.length)]), ("same_addrs", .bool true),
    ("sessions", .list (serve server t.visits)), ("stopped", .bool true)]

end ServerTrial

namespace Report

def serverFault (f : ServerFault) : Json :=
  match f with
  | .config fault => .ofMembers [("error", .text "Config"), ("message", .text f.message),
      ("inner", configFault fault)]
  | .bind address => .ofMembers [("error", .text "Bind"), ("addr", .text address)]
  | .noListeners => .ofMembers [("error", .text "NoListeners"), ("message", .text f.message)]

end Report
end WebServer.Scenario

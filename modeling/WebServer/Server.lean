import WebServer.Server.Serving
import WebServer.Text.Ascii

/-!
# Servers

A server has a configuration, the tables of its application, and addresses where it listens. Each
connection that it accepts begins with requests.
-/
namespace WebServer

inductive ServerFault where
  | config (fault : ConfigFault)
  /-- The server cannot listen at that address. -/
  | bind (address : String)
  | noListeners
  deriving DecidableEq, Repr

def ServerFault.message : ServerFault → String
  | .config fault => s!"invalid configuration: {fault.message}"
  | .bind address => s!"failed to bind to {address}"
  | .noListeners => "no listener bound"

structure Server (app : App) where
  config : Config := {}
  tables : app.Tables
  listeners : List String := []

namespace Server

variable {app : App}

/-- A server that does not listen yet. -/
def make (config : Config) (tables : app.Tables) : Except ServerFault (Server app) := do
  config.check.mapError .config
  return { config, tables }

/-- One of the four numbers of an address. -/
def isOctet (text : List Char) : Bool :=
  (Text.unsigned? 255 text).isSome && text.length ≤ 3 && text.head?.all Char.isDigit &&
    (text.head? != some '0' || text.length = 1)

/-- The host of an address names this machine: all of its addresses, or one that only it can
reach. -/
def isLocalHost (host : List Char) : Bool :=
  match host.splitOn '.' with
  | [a, b, c, d] =>
    [a, b, c, d].all isOctet &&
      (a = "127".toList || [a, b, c, d].all (· = ['0']))
  | _ => false

/-- An address where a server can listen: a host of this machine, a colon and a port. -/
def isBindable (address : String) : Bool :=
  match address.toList.splitOn ':' with
  | [host, port] =>
    isLocalHost host && port.all Char.isDigit && (Text.unsigned? 65535 port).isSome
  | _ => false

/-- Listens at one more address. -/
def bind (server : Server app) (address : String) : Except ServerFault (Server app) :=
  if isBindable address then .ok { server with listeners := server.listeners ++ [address] }
  else .error (.bind address)

/-- A server without listeners cannot run. -/
def check (server : Server app) : Except ServerFault Unit :=
  if server.listeners.isEmpty then .error .noListeners else .ok ()

def protocol (server : Server app) : Protocol app (Active app.Handler) :=
  serving app server.config

/-- A connection that was just accepted. -/
def accept (server : Server app) : Connection app (Active app.Handler) where
  host := { tables := server.tables }
  protocol := .http none
  chunk := server.config.readChunkSize

end Server
end WebServer

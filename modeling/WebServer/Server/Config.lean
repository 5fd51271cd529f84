import WebServer.Json.Skip
import WebServer.Json.Typed

/-!
# Configuration

The limits of a server. A document gives them by name, or in their order; what it leaves out has
its default.
-/
namespace WebServer

structure Config where
  /-- The most bytes that a head, or a head with its body, may take. -/
  maxRequestSize : Nat := 8388608
  /-- The most bytes that one read takes from a socket. -/
  readChunkSize : Nat := 4096
  /-- The most header fields that a request may have. -/
  maxHeaders : Nat := 64
  /-- The most bytes that a message on a WebSocket may have. -/
  maxMessageSize : Nat := 16777216
  /-- Small writes are sent without delay. -/
  nodelay : Bool := true
  deriving DecidableEq, Repr

/-- The fields of a configuration. -/
inductive Setting where
  | maxRequestSize | readChunkSize | maxHeaders | maxMessageSize | nodelay
  deriving DecidableEq, Repr

namespace Setting

def all : List Setting := [.maxRequestSize, .readChunkSize, .maxHeaders, .maxMessageSize, .nodelay]

def name : Setting → String
  | .maxRequestSize => "max_request_size"
  | .readChunkSize => "read_chunk_size"
  | .maxHeaders => "max_headers"
  | .maxMessageSize => "max_message_size"
  | .nodelay => "nodelay"

def ofName? (name : String) : Option Setting := all.find? (·.name = name)

end Setting

inductive ConfigFault where
  /-- The document is not one of a configuration. -/
  | document (fault : Json.Fault)
  /-- A limit under which nothing could be served. -/
  | zero (setting : Setting)
  deriving DecidableEq, Repr

def ConfigFault.message : ConfigFault → String
  | .document fault => s!"invalid configuration document: {fault.message}"
  | .zero setting => s!"`{setting.name}` must be greater than zero"

namespace Config

/-- The limit that a setting is, if it is one. -/
def limit? (config : Config) : Setting → Option Nat
  | .maxRequestSize => some config.maxRequestSize
  | .readChunkSize => some config.readChunkSize
  | .maxHeaders => some config.maxHeaders
  | .maxMessageSize => some config.maxMessageSize
  | .nodelay => none

/-- No limit may be zero. The first that is counts. -/
def check (config : Config) : Except ConfigFault Unit :=
  match Setting.all.find? fun setting => config.limit? setting = some 0 with
  | some setting => .error (.zero setting)
  | none => .ok ()

open Json.Reader in
/-- Reads the value of a setting and puts it in its place. -/
def readSetting (config : Config) (fuel : Nat) : Setting → Json.Reader Config
  | .maxRequestSize => do return { config with maxRequestSize := ← size fuel }
  | .readChunkSize => do return { config with readChunkSize := ← size fuel }
  | .maxHeaders => do return { config with maxHeaders := ← size fuel }
  | .maxMessageSize => do return { config with maxMessageSize := ← size fuel }
  | .nodelay => do return { config with nodelay := ← bool fuel }

open Json.Reader in
/-- The values of settings in order, as many as there are. -/
def readInOrder (config : Config) (fuel : Nat) (first : Bool) : List Setting → Json.Reader Config
  | [] => return config
  | setting :: settings => do
    if ← moreItems first then
      let config ← config.readSetting fuel setting
      readInOrder config fuel false settings
    else return config

open Json.Reader in
/-- The end of a list of values in order. -/
def endOrder : Json.Reader Unit := do
  match ← peekPastBlanks with
  | none => failAhead .endInList
  | some b =>
    if b = 0x5D then skip
    else if b = 0x2C then
      skip
      if (← peekPastBlanks) = some 0x5D then failAhead .trailingComma
      else failAhead .trailingCharacters
    else failAhead .trailingCharacters

open Json.Reader in
/-- A setting is named again. The fault lies before what follows, or behind the object if that ends
there. -/
def duplicate (setting : Setting) : Json.Reader Config := do
  if (← peekPastBlanks) = some 0x7D then skip
  fail (.custom s!"duplicate field `{setting.name}`")

open Json.Reader in
/-- The members of an object up to its brace. Members of unknown names are skipped. Every round
takes a byte. -/
def readByName (config : Config) (fuel rounds : Nat) (first : Bool) (seen : List Setting) :
    Json.Reader Config :=
  match rounds with
  | 0 => failAhead .endInObject
  | rounds + 1 => do
    if ← moreMembers first then
      skip
      match Setting.ofName? (← string fuel) with
      | none =>
        colon
        skipValue fuel
        readByName config fuel rounds false seen
      | some setting =>
        if seen.contains setting then duplicate setting
        else
          colon
          let config ← config.readSetting fuel setting
          readByName config fuel rounds false (setting :: seen)
    else return config

/-- The words for a whole configuration. -/
def words : String := "struct ServerConfig"

open Json.Reader in
def reader (fuel : Nat) : Json.Reader Config := do
  match ← peekPastBlanks with
  | none => failAhead .endInValue
  | some b =>
    if b = 0x5B then
      skip
      let config ← readInOrder {} fuel true Setting.all
      endOrder
      return config
    else if b = 0x7B then
      skip
      let config ← readByName {} fuel fuel true []
      skip
      return config
    else wrongType fuel words

/-- The configuration that a document gives, if it is usable. -/
def ofDocument (document : Bytes) : Except ConfigFault Config := do
  let config ← (Json.Reader.run reader document).mapError .document
  config.check
  return config

end Config
end WebServer

import WebServer.Digest.Sha1
import WebServer.Http.Request
import WebServer.Http.Response
import WebServer.Text.Base64

/-!
# Handshake

A WebSocket begins as a GET request that asks for the upgrade and carries a key. The answer proves
by a digest of the key that the server understood it.
-/
namespace WebServer.WebSocket

namespace Handshake

open Http (Request Response UpgradeFault)

def guid : String := "258EAFA5-E914-47DA-95CA-C5AB0DC85B11"

/-- The only version of the protocol that the server speaks. -/
def version : String := "13"

def acceptKey (key : String) : String :=
  Text.base64 (Digest.sha1 (Text.encode (key ++ guid)))

/-- The request asks for some other protocol. -/
def isUpgrade (request : Request) : Bool := request.headers.contains "upgrade"

/-- Checks what an upgrade requires and gives the client's key. -/
def validate (request : Request) : Except UpgradeFault String := do
  let target := (request.headers.get? "upgrade").getD ""
  if !Text.sameIgnoringCase target "websocket" then throw (.unsupportedTarget target)
  if !request.headers.hasToken "connection" "upgrade" then throw .noUpgradeToken
  if request.method ≠ .get then throw (.wrongMethod request.method)
  match (request.headers.get? "sec-websocket-key").filter (· ≠ "") with
  | none => throw .noKey
  | some key =>
    match request.headers.get? "sec-websocket-version" with
    | none => throw .noVersion
    | some v => if v = version then return key else throw (.unsupportedVersion v)

/-- The answer that switches protocols. -/
def response (key : String) : Response :=
  (({ status := 101 } : Response).header "Upgrade" "websocket"
    |>.header "Connection" "Upgrade").header "Sec-WebSocket-Accept" (acceptKey key)

end Handshake
end WebServer.WebSocket

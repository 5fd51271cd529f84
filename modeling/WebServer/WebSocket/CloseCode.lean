import WebServer.Text.Utf8

/-!
# Close codes

The number that says why a WebSocket closed, and the payload of a close frame.
-/
namespace WebServer.WebSocket

inductive CloseCode where
  | normal | goingAway | protocolError | unsupported
  /-- A close frame came without a code. Never sent. -/
  | noStatus
  /-- The peer vanished without a close frame. Never sent. -/
  | abnormal
  | invalidPayload | policyViolation | tooBig | internal
  | other (code : UInt16)
  deriving DecidableEq, Repr

namespace CloseCode

def ofCode (code : UInt16) : CloseCode :=
  match code.toNat with
  | 1000 => .normal
  | 1001 => .goingAway
  | 1002 => .protocolError
  | 1003 => .unsupported
  | 1005 => .noStatus
  | 1006 => .abnormal
  | 1007 => .invalidPayload
  | 1008 => .policyViolation
  | 1009 => .tooBig
  | 1011 => .internal
  | _ => .other code

def code : CloseCode → UInt16
  | .normal => 1000
  | .goingAway => 1001
  | .protocolError => 1002
  | .unsupported => 1003
  | .noStatus => 1005
  | .abnormal => 1006
  | .invalidPayload => 1007
  | .policyViolation => 1008
  | .tooBig => 1009
  | .internal => 1011
  | .other code => code

/-- The payload of a close frame: the code in network order, then the reason. -/
def payload (closeCode : CloseCode) (reason : String) : Bytes :=
  Bytes.ofNatBE 2 closeCode.code.toNat ++ Text.encode reason

/-- The code and the reason of a close payload; `none` for a payload of one byte, which holds
neither. -/
def ofPayload? : Bytes → Option (CloseCode × String)
  | [] => some (.noStatus, "")
  | [_] => none
  | high :: low :: reason =>
    some (ofCode (Bytes.toNatBE [high, low]).toUInt16, Text.decodeLossy reason)

end CloseCode
end WebServer.WebSocket

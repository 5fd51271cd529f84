import WebServer.Connection
import WebServer.Scenario.Site

/-!
# A protocol of records

A small protocol beside the one of servers: it takes records that end with a semicolon, one a
window, and acknowledges them. Some records do more than that. What it hands over to sends
everything back in upper case.
-/
namespace WebServer.Scenario

inductive Lines where
  | lines | upper
  deriving DecidableEq, Repr

namespace Lines

def semicolon : Bytes := [0x3B]

def upperByte (b : UInt8) : UInt8 := if 97 ≤ b && b ≤ 122 then b - 32 else b

def acknowledgement (record : Bytes) : Bytes := Text.encode "ack " ++ record ++ [Bytes.lf]

/-- Takes the first record of a window. -/
def takeRecord (window : Bytes) (host : Host site) : Consumed Lines × Host site :=
  match Bytes.cut? semicolon window with
  | none => (⟨0, .lines, .wait⟩, host)
  | some (record, _) =>
    let used := record.length + 1
    let host := host.write (acknowledgement record)
    if record = Text.encode "switch" then (⟨used, .upper, .switch⟩, host)
    else if record = Text.encode "quit" then (⟨used, .lines, .close⟩, host)
    else if record = Text.encode "over" then (⟨window.length + 100, .lines, .wait⟩, host)
    else if record = Text.encode "drop" then (⟨used, .lines, .wait⟩, host.close)
    else (⟨used, .lines, .wait⟩, host)

def consume (state : Lines) (window : Bytes) (host : Host site) : Consumed Lines × Host site :=
  let host := host.note (Event.offered window)
  match state with
  | .lines => takeRecord window host
  | .upper => (⟨window.length, .upper, .wait⟩, host.write (window.map upperByte))

/-- Notes an event, unless the state is the one that notes nothing of the kind. -/
def noteIn (event : Event) (state : Lines) (host : Host site) : Lines × Host site :=
  match state with
  | .lines => (.lines, host.note event)
  | .upper => (.upper, host)

def name : Lines → String
  | .lines => "lines"
  | .upper => "upper"

end Lines

def lines : Protocol site Lines where
  name := Lines.name
  consume := Lines.consume
  peerClosed := Lines.noteIn .peerClosed
  timer := fun state _ => Lines.noteIn .timer state

end WebServer.Scenario

import WebServer.Bytes

/-!
# FNV-1a

A 64-bit checksum by which long byte strings are told apart in reports.
-/
namespace WebServer.Digest

def fnvOffset : UInt64 := 0xCBF29CE484222325
def fnvPrime : UInt64 := 0x100000001B3

/-- Each byte is mixed in before the multiplication. -/
def fnv1a (bytes : Bytes) : UInt64 :=
  bytes.foldl (fun h b => (h ^^^ b.toUInt64) * fnvPrime) fnvOffset

/-- The sixteen hexadecimal digits of a word. -/
def hexWord (word : UInt64) : String :=
  String.ofList ((List.range 16).map fun i =>
    Bytes.hexDigit (word.toNat / Nat.pow 16 (15 - i) % 16))

end WebServer.Digest

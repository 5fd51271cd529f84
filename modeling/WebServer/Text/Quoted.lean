import WebServer.Bytes
import WebServer.Unicode.Lookup

/-!
# Quoted text

A text in double quotes for people to read: what cannot be seen is written as an escape.
-/
namespace WebServer.Text

/-- The hexadecimal digits of a number, without leading zeros. -/
def hexNumeral (n : Nat) : String := String.ofList (Nat.toDigits 16 n)

def quoteChar (out : String) (c : Char) : String :=
  if c = '\\' then out ++ "\\\\"
  else if c = '"' then out ++ "\\\""
  else if c = '\n' then out ++ "\\n"
  else if c = '\r' then out ++ "\\r"
  else if c = '\t' then out ++ "\\t"
  else if c.toNat = 0 then out ++ "\\0"
  else if Unicode.hidden.contains c then out ++ "\\u\x7b" ++ hexNumeral c.toNat ++ "\x7d"
  else out.push c

def quoted (text : String) : String := (text.toList.foldl quoteChar "\"").push '"'

end WebServer.Text

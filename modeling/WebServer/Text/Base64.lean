import WebServer.Bytes

/-!
# Base 64

Three bytes become four characters; a last group of one or two bytes is filled up with `=`.
-/
namespace WebServer.Text

/-- The character for a number below 64. -/
def base64Digit (n : Nat) : Char :=
  if n < 26 then Char.ofNat (65 + n)
  else if n < 52 then Char.ofNat (97 + (n - 26))
  else if n < 62 then Char.ofNat (48 + (n - 52))
  else if n = 62 then '+' else '/'

/-- The four digits of a number below 2^24. -/
def base64Group (n : Nat) : List Char :=
  [base64Digit (n / 262144), base64Digit (n / 4096 % 64), base64Digit (n / 64 % 64),
    base64Digit (n % 64)]

def base64Chars : Bytes → List Char
  | [] => []
  | [a] => (base64Group (a.toNat * 65536)).take 2 ++ ['=', '=']
  | [a, b] => (base64Group (a.toNat * 65536 + b.toNat * 256)).take 3 ++ ['=']
  | a :: b :: c :: rest =>
    base64Group (a.toNat * 65536 + b.toNat * 256 + c.toNat) ++ base64Chars rest

def base64 (bytes : Bytes) : String := String.ofList (base64Chars bytes)

end WebServer.Text

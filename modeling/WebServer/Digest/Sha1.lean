import WebServer.Bytes

/-!
# SHA-1

The digest of 160 bits, as the handshake of a WebSocket needs it. A message is padded to whole
blocks of 64 bytes; each block mixes eighty words into the five words of the state.
-/
namespace WebServer.Digest

def rotateLeft (word : UInt32) (count : UInt32) : UInt32 :=
  (word <<< count) ||| (word >>> (32 - count))

structure State where
  a : UInt32
  b : UInt32
  c : UInt32
  d : UInt32
  e : UInt32
  deriving DecidableEq, Repr

def initial : State := ⟨0x67452301, 0xEFCDAB89, 0x98BADCFE, 0x10325476, 0xC3D2E1F0⟩

/-- A bit, then zeros, then the length in bits as eight bytes fill the last block. -/
def padded (message : Bytes) : Bytes :=
  let length := message.length
  message ++ 0x80 :: List.replicate ((119 - length % 64) % 64) 0 ++
    Bytes.ofNatBE 8 (8 * length)

/-- The words of a block, four bytes each. -/
def words : Bytes → List UInt32
  | a :: b :: c :: d :: rest => (Bytes.toNatBE [a, b, c, d]).toUInt32 :: words rest
  | _ => []

/-- The words that the rounds mix in: after the first sixteen each one comes from four earlier
ones. The argument holds the last sixteen words, the youngest first. -/
def schedule : Nat → List UInt32 → List UInt32
  | 0, _ => []
  | count + 1, recent =>
    let word := rotateLeft
      (recent.getD 2 0 ^^^ recent.getD 7 0 ^^^ recent.getD 13 0 ^^^ recent.getD 15 0) 1
    word :: schedule count (word :: recent.take 15)

/-- The function and the constant of a round. -/
def mix (round : Nat) (s : State) : UInt32 × UInt32 :=
  if round < 20 then ((s.b &&& s.c) ||| (~~~s.b &&& s.d), 0x5A827999)
  else if round < 40 then (s.b ^^^ s.c ^^^ s.d, 0x6ED9EBA1)
  else if round < 60 then ((s.b &&& s.c) ||| (s.b &&& s.d) ||| (s.c &&& s.d), 0x8F1BBCDC)
  else (s.b ^^^ s.c ^^^ s.d, 0xCA62C1D6)

def round (s : State) (step : UInt32 × Nat) : State :=
  let (f, k) := mix step.2 s
  ⟨rotateLeft s.a 5 + f + s.e + k + step.1, s.a, rotateLeft s.b 30, s.c, s.d⟩

def compress (s : State) (block : Bytes) : State :=
  let first := words block
  let t := ((first ++ schedule 64 first.reverse).zipIdx).foldl round s
  ⟨s.a + t.a, s.b + t.b, s.c + t.c, s.d + t.d, s.e + t.e⟩

/-- Cuts bytes into blocks of 64. -/
def blocks (count : Nat) (bytes : Bytes) : List Bytes :=
  match count with
  | 0 => []
  | count + 1 => bytes.take 64 :: blocks count (bytes.drop 64)

def sha1 (message : Bytes) : Bytes :=
  let bytes := padded message
  let s := (blocks (bytes.length / 64) bytes).foldl compress initial
  [s.a, s.b, s.c, s.d, s.e].flatMap fun word => Bytes.ofNatBE 4 word.toNat

end WebServer.Digest

/-!
# Shortest decimals

A binary floating-point number stands for an interval of reals: those that round to it. `shortest`
finds the decimal with the fewest digits in that interval, and of several the one nearest to the
number. All arithmetic is exact, on natural numbers.
-/
namespace WebServer.Decimal

/-- A positive finite double: `mantissa * 2 ^ exponent`. `atPowerOfTwo` says that the gap below
it is half the gap above it. -/
structure Binary where
  mantissa : Nat
  exponent : Int
  atPowerOfTwo : Bool
  deriving DecidableEq, Repr

/-- The magnitude of a finite double, read off its bits. -/
def Binary.ofBits (bits : UInt64) : Binary :=
  let fraction : Nat := bits.toNat % Nat.pow 2 52
  let biased : Nat := bits.toNat / Nat.pow 2 52 % Nat.pow 2 11
  if biased = 0 then ⟨fraction, -1074, false⟩
  else ⟨fraction + Nat.pow 2 52, (biased : Int) - 1075, fraction = 0 ∧ 1 < biased⟩

/-- Numbers of the form `digits * 10 ^ exponent`. -/
structure Digits where
  digits : Nat
  exponent : Int
  deriving DecidableEq, Repr

/-- The interval that rounds to a number, and the number itself, over a common denominator. -/
structure Interval where
  low : Nat
  value : Nat
  high : Nat
  unit : Nat
  closed : Bool
  deriving DecidableEq, Repr

/-- The bounds lie half a gap below and above; they belong to it if the mantissa is even. -/
def Interval.of (b : Binary) : Interval :=
  let scale := Nat.pow 2 (b.exponent - 2).toNat
  { low := (4 * b.mantissa - if b.atPowerOfTwo then 1 else 2) * scale
    value := 4 * b.mantissa * scale
    high := (4 * b.mantissa + 2) * scale
    unit := Nat.pow 2 (2 - b.exponent).toNat
    closed := b.mantissa % 2 = 0 }

/-- The number of decimal digits of a positive number. -/
def width (n : Nat) : Nat := (Nat.toDigits 10 n).length

/-- The exponent of the leading digit of the positive number `value / unit`. -/
def leading (value unit : Nat) : Int :=
  if unit ≤ value then (width (value / unit) : Int) - 1
  else -(((List.range 400).find? fun k => unit ≤ value * Nat.pow 10 k).getD 0 : Int)

/-- The candidate `d * 10 ^ e` lies in the interval. -/
def Interval.contains (i : Interval) (d : Nat) (e : Int) : Bool :=
  let point := d * Nat.pow 10 e.toNat * i.unit
  let scale := Nat.pow 10 (-e).toNat
  if i.closed then i.low * scale ≤ point && point ≤ i.high * scale
  else i.low * scale < point && point < i.high * scale

/-- The two neighbours of the number on the grid of multiples of `10 ^ e`, as far as they lie in
the interval; of two the nearer one, and the even one of two equally near. -/
def Interval.onGrid? (i : Interval) (e : Int) : Option Nat :=
  let scale := Nat.pow 10 (-e).toNat
  let step := Nat.pow 10 e.toNat * i.unit
  let below := i.value * scale / step
  let rest := i.value * scale % step
  let above := below + 1
  match i.contains below e, i.contains above e with
  | true, true =>
    if 2 * rest < step then some below
    else if step < 2 * rest then some above
    else if below % 2 = 0 then some below else some above
  | true, false => some below
  | false, true => some above
  | false, false => none

/-- Takes zeros off the end of the digits. -/
def Digits.trimmed (fuel : Nat) (d : Digits) : Digits :=
  match fuel with
  | 0 => d
  | fuel + 1 =>
    if d.digits % 10 = 0 ∧ d.digits ≠ 0 then
      Digits.trimmed fuel ⟨d.digits / 10, d.exponent + 1⟩
    else d

/-- The shortest decimal that reads back as the number. Seventeen digits always do. -/
def shortest (b : Binary) : Digits :=
  let i := Interval.of b
  let top := leading i.value i.unit
  let found := (List.range 17).findSome? fun n : Nat =>
    (i.onGrid? (top - (n : Int))).map fun d => Digits.trimmed 400 ⟨d, top - (n : Int)⟩
  found.getD ⟨0, 0⟩

end WebServer.Decimal

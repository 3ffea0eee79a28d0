import TriggerScript.Decimal.Dyadic

/-!
# Shortest decimal text

The fewest digits that read back as the same number, never with an exponent.

* `shortest` : those digits, as a whole number and a power of ten.
* `place` : digits with the decimal point in its place.
* `display` : the text of a number; the sign of `-0` is kept.
* `numberText` : the text that scripts see, in which `-0` is `0`.
-/

namespace TriggerScript.Decimal

/-- The decimal digits of a whole number. -/
def digits (n : Nat) : List Char :=
  Nat.toDigits 10 n

/-- The power of ten just above `num / den`: the least `p` with `num / den < 10 ^ p`. For a
fraction below one, at most `limit` leading zeros are looked through. -/
def decimalExponent (num den limit : Nat) : Int :=
  if den ≤ num then (digits (num / den)).length
  else go limit 0
where
  go : Nat → Nat → Int
    | 0, zeros => -zeros
    | limit + 1, zeros =>
      if den ≤ num * Nat.pow 10 (zeros + 1) then -zeros else go limit (zeros + 1)

/-- Numbers within half a step of a binary number, over a common denominator: `low / den` to
`high / den` around `mid / den`, the ends included if `closed`. -/
structure Interval where
  low : Nat
  mid : Nat
  high : Nat
  den : Nat
  closed : Bool

/-- Whether `num / den` of the grid lies in the interval, where both are scaled alike. -/
def Interval.holds (i : Interval) (scaleUp n : Nat) : Bool :=
  let x := n * i.den
  if i.closed then i.low * scaleUp ≤ x && x ≤ i.high * scaleUp
  else i.low * scaleUp < x && x < i.high * scaleUp

/-- The numbers that round to `mantissa * 2 ^ exponent`. Below a power of two the step is half
as wide. -/
def interval (mantissa : Nat) (exponent : Int) : Interval :=
  let up := Nat.pow 2 exponent.toNat
  let down := Nat.pow 2 (-exponent).toNat
  let lower := if mantissa = fractionSize && exponent != -1074 then 1 else 2
  { low := (4 * mantissa - lower) * up, mid := 4 * mantissa * up, high := (4 * mantissa + 2) * up,
    den := 4 * down, closed := mantissa % 2 == 0 }

/-- The better of the two neighbours on the grid of `10 ^ power` that lies in the interval. Of
two the nearer is taken, and the upper one if both are as near. -/
def Interval.onGrid? (i : Interval) (power : Int) : Option Nat :=
  let up := Nat.pow 10 (-power).toNat
  let scaled : Interval := { i with den := i.den * Nat.pow 10 power.toNat }
  let below := i.mid * up / scaled.den
  let rest := i.mid * up % scaled.den
  let lowFits := scaled.holds up below
  let highFits := scaled.holds up (below + 1)
  if highFits && (!lowFits || scaled.den ≤ 2 * rest) then some (below + 1)
  else if lowFits then some below
  else none

/-- The first grid with a number of the interval, trying one digit more each time. -/
def Interval.firstGrid (i : Interval) (power : Int) : Nat → Nat × Int
  | 0 => (i.mid * Nat.pow 10 (-power).toNat / (i.den * Nat.pow 10 power.toNat), power)
  | tries + 1 =>
    match i.onGrid? power with
    | some n => (n, power)
    | none => i.firstGrid (power - 1) tries

/-- The shortest digits of `mantissa * 2 ^ exponent` and the power of ten they are counted in. -/
def shortest (mantissa : Nat) (exponent : Int) : Nat × Int :=
  let i := interval mantissa exponent
  i.firstGrid (decimalExponent i.mid i.den 330 - 1) 17

/-- Whole digits times a power of ten, written out. A point has a digit on both sides. -/
def place (n : Nat) (power : Int) : List Char :=
  let ds := digits n
  if 0 ≤ power then ds ++ List.replicate power.toNat '0'
  else
    let places := (-power).toNat
    let padded := List.replicate (places + 1 - ds.length) '0' ++ ds
    let whole := padded.take (padded.length - places)
    let fraction := ((padded.drop whole.length).reverse.dropWhile (· == '0')).reverse
    if fraction.isEmpty then whole else whole ++ '.' :: fraction

/-- The text of a number. -/
def display (x : Number) : String :=
  match Dyadic.ofNumber x with
  | .nan => "NaN"
  | .infinite negative => if negative then "-inf" else "inf"
  | .finite negative mantissa exponent =>
    let body :=
      if mantissa = 0 then ['0'] else (fun d => place d.1 d.2) (shortest mantissa exponent)
    String.ofList (if negative then '-' :: body else body)

/-- The text that a script sees: the sign of a zero is dropped. -/
def numberText (x : Number) : String :=
  match Dyadic.ofNumber x with
  | .finite _ 0 _ => "0"
  | _ => display x

end TriggerScript.Decimal

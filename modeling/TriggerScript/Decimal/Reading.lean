import TriggerScript.Decimal.Dyadic

/-!
# Reading decimal numbers

* `gridPoint` : what the bits of a number stand for, in steps of the smallest number.
* `nearestBits` : the bits of the binary number nearest to a fraction.
* `ofDigits` : a whole number times a power of ten, rounded to the nearest binary number.
* `read?` : a number with an optional sign, fraction and exponent, or one of the words for an
  infinity and for what is not a number.
* `readNat?` : a whole number with an optional plus sign and an upper bound.
-/

namespace TriggerScript.Decimal

/-- The value of decimal digits after those already read. -/
def digitsValue (start : Nat) (ds : List Char) : Nat :=
  ds.foldl (fun n c => 10 * n + (c.toNat - '0'.toNat)) start

/-- How many times the smallest number fits into the number with these bits, the sign aside. The
bits of the infinity count as those of the number that would come next. -/
def gridPoint (bits : Nat) : Nat :=
  if bits < fractionSize then bits
  else (fractionSize + bits % fractionSize) * Nat.pow 2 (bits / fractionSize - 1)

/-- The last bits, out of `2 ^ choices` from `bits` on, whose number is at most `num / den` times
the smallest one. -/
def lastBelow (num den : Nat) : Nat → Nat → Nat
  | 0, bits => bits
  | choices + 1, bits =>
    let middle := bits + Nat.pow 2 choices
    lastBelow num den choices (if gridPoint middle * den ≤ num then middle else bits)

/-- The bits of the number nearest to `num / den` times the smallest one. Of two that are as near
the one with an even last bit is taken. -/
def nearestBits (num den : Nat) : Nat :=
  let bits := lastBelow num den 63 0
  let middle := (gridPoint bits + gridPoint (bits + 1)) * den
  if 2 * num < middle then bits
  else if middle < 2 * num then bits + 1
  else if bits % 2 = 0 then bits else bits + 1

/-- The power of two that makes the smallest number one. -/
def smallestPower : Nat := 1074

/-- The binary number nearest to `n * 10 ^ power`. Powers far outside the range of binary
numbers are not computed. -/
def ofDigits (n : Nat) (power : Int) : Number :=
  let size : Int := (Nat.toDigits 10 n).length
  if n = 0 then .zero
  else if size + power > 400 then .infinity
  else if size + power < -400 then .zero
  else
    let bits := nearestBits (n * Nat.pow 10 power.toNat * Nat.pow 2 smallestPower)
      (Nat.pow 10 (-power).toNat)
    if Number.infinity.bits.toNat ≤ bits then .infinity else ⟨.ofNat bits⟩

/-- A whole number of any length, or none if some character is no digit. -/
def readDigits? (ds : List Char) : Option Nat :=
  if !ds.isEmpty && ds.all Char.isDigit then some (digitsValue 0 ds) else none

/-- The exponent behind a mantissa: nothing, or `e` and a whole number with optional sign. -/
def readExponent? : List Char → Option Int
  | [] => some 0
  | e :: rest =>
    if e == 'e' || e == 'E' then
      match rest with
      | '-' :: ds => (readDigits? ds).map fun n => -(n : Int)
      | '+' :: ds => (readDigits? ds).map fun n => (n : Int)
      | ds => (readDigits? ds).map fun n => (n : Int)
    else none

/-- A number without its sign. -/
def readUnsigned? (cs : List Char) : Option Number :=
  let word := cs.map Char.toLower
  if word == ['i', 'n', 'f'] || word == ['i', 'n', 'f', 'i', 'n', 'i', 't', 'y'] then
    some .infinity
  else if word == ['n', 'a', 'n'] then some .nan
  else
    let whole := cs.takeWhile Char.isDigit
    let (fraction, rest) := match cs.dropWhile Char.isDigit with
      | '.' :: rest => (rest.takeWhile Char.isDigit, rest.dropWhile Char.isDigit)
      | rest => ([], rest)
    if whole.isEmpty && fraction.isEmpty then none
    else (readExponent? rest).map fun exponent =>
      ofDigits (digitsValue (digitsValue 0 whole) fraction) (exponent - fraction.length)

/-- A decimal number. -/
def read? : List Char → Option Number
  | '-' :: rest => (readUnsigned? rest).map Number.neg
  | '+' :: rest => readUnsigned? rest
  | cs => readUnsigned? cs

/-- A whole number of at most `limit`; a plus sign may stand in front. -/
def readNat? (limit : Nat) (cs : List Char) : Option Nat :=
  let ds := match cs with
    | '+' :: rest => rest
    | _ => cs
  (readDigits? ds).filter (· ≤ limit)

end TriggerScript.Decimal

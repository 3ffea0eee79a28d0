/-!
# Binary numbers

A number is kept as the 64 bits of a binary number, so that the sign of a zero and of what is not
a number is kept too. It is not a number, an infinity, or a whole number times a power of two.
Order, rounding and printing are decided on that exact form.

* `Number` : the numbers.
* `Number.ofFloat`, `Number.toFloat` : the number with the same bits for calculations.
* `Number.neg`, `Number.add` : the opposite of a number, and sums.
* `Dyadic`, `Dyadic.ofNumber` : the exact form and how to read it off the bits.
* `compare?` : the order of numbers; what is not a number has no place in it.
* `totalCompare` : the order of bit patterns, with `-0` below `0`.
* `toTicks` : a number of ticks, at least one, halves rounded up.
-/

namespace TriggerScript

/-- A 64-bit binary number by its bits. -/
structure Number where
  bits : UInt64
  deriving DecidableEq, Repr, Inhabited

namespace Number

def ofFloat (x : Float) : Number := ⟨x.toBits⟩

def toFloat (x : Number) : Float := .ofBits x.bits

/-- The number nearest to a whole number. -/
def ofNat (n : Nat) : Number := ofFloat n.toFloat

def zero : Number := ⟨0⟩

def infinity : Number := ⟨0x7FF0000000000000⟩

/-- What is not a number, with a positive sign. -/
def nan : Number := ⟨0x7FF8000000000000⟩

/-- The number with the other sign. -/
def neg (x : Number) : Number := ⟨x.bits ^^^ 0x8000000000000000⟩

/-- Neither a number nor an infinity. -/
def isNaN (x : Number) : Bool := infinity.bits < x.bits &&& 0x7FFFFFFFFFFFFFFF

/-- The sum. What is not a number stays what it is, and two infinities without a sum make something
that is not a number with a negative sign. -/
def add (x y : Number) : Number :=
  if x.isNaN then x
  else if y.isNaN then y
  else
    let sum := x.toFloat + y.toFloat
    if (ofFloat sum).isNaN then nan.neg else ofFloat sum

end Number

end TriggerScript

namespace TriggerScript.Decimal

/-- The exact meaning of a 64-bit binary number; `finite` stands for
`±mantissa * 2 ^ exponent`. -/
inductive Dyadic where
  | nan
  | infinite (negative : Bool)
  | finite (negative : Bool) (mantissa : Nat) (exponent : Int)
  deriving DecidableEq, Repr

/-- The value of the sign bit. -/
def signBit : Nat := 9223372036854775808

/-- The number of values that the fraction bits can have. -/
def fractionSize : Nat := 4503599627370496

/-- Whether the sign bit is set. -/
def isNegative (bits : Nat) : Bool := bits / signBit == 1

/-- The bits without the sign. -/
def magnitude (bits : Nat) : Nat := bits % signBit

/-- The form of a number given by its bits. -/
def Dyadic.ofBits (bits : Nat) : Dyadic :=
  let negative := isNegative bits
  let field : Nat := magnitude bits / fractionSize
  let fraction : Nat := bits % fractionSize
  if field = 2047 then if fraction = 0 then .infinite negative else .nan
  else if field = 0 then .finite negative fraction (-1074)
  else .finite negative (fractionSize + fraction) ((field : Int) - 1075)

/-- The form of a number. -/
def Dyadic.ofNumber (x : Number) : Dyadic :=
  .ofBits x.bits.toNat

/-- Neither an infinity nor something that is not a number. -/
def isFinite (x : Number) : Bool :=
  match Dyadic.ofNumber x with
  | .finite .. => true
  | _ => false

/-- A whole number that grows with the number; both zeros have key zero. -/
def orderKey (x : Number) : Int :=
  let bits := x.bits.toNat
  if isNegative bits then -(magnitude bits : Int) else magnitude bits

/-- The order of two numbers, if both are numbers. -/
def compare? (x y : Number) : Option Ordering :=
  if x.isNaN || y.isNaN then none else some (compare (orderKey x) (orderKey y))

/-- Equal as numbers. -/
def same (x y : Number) : Bool :=
  compare? x y == some .eq

/-- At most, as numbers. -/
def atMost (x y : Number) : Bool :=
  match compare? x y with
  | some .gt | none => false
  | _ => true

/-- Below, as numbers. -/
def below (x y : Number) : Bool :=
  compare? x y == some .lt

/-- A key that orders all bit patterns: `-0` comes before `0`, and what is not a number comes
after everything else of its sign. -/
def totalKey (x : Number) : Int :=
  let bits := x.bits.toNat
  if isNegative bits then -(magnitude bits : Int) - 1 else magnitude bits

/-- The order of bit patterns. -/
def totalCompare (x y : Number) : Ordering :=
  compare (totalKey x) (totalKey y)

/-- The whole number nearest to `mantissa * 2 ^ exponent`, halves rounded up. -/
def nearest (mantissa : Nat) (exponent : Int) : Nat :=
  if 0 ≤ exponent then mantissa * Nat.pow 2 exponent.toNat
  else
    let unit := Nat.pow 2 (-exponent).toNat
    (2 * mantissa + unit) / (2 * unit)

/-- The largest number of ticks. -/
def maxTicks : Nat := UInt64.size - 1

/-- The number of ticks that a finite number of ticks is rounded to: at least one, and never
more than a tick counter holds. -/
def toTicks (x : Number) : UInt64 :=
  match Dyadic.ofNumber x with
  | .finite false mantissa exponent => .ofNat (max 1 (min maxTicks (nearest mantissa exponent)))
  | _ => 1

end TriggerScript.Decimal

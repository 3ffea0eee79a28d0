/-!
# Plain numbers

* `isPlainNumber` : digits with an optional sign and an optional fraction.
-/

namespace TriggerScript.Text

/-- One or more of the digits `0` to `9`. -/
def isDigits (cs : List Char) : Bool :=
  !cs.isEmpty && cs.all Char.isDigit

/-- Digits, optionally followed by a point and more digits. -/
def isUnsignedNumber (cs : List Char) : Bool :=
  isDigits (cs.takeWhile (· != '.')) &&
    match cs.dropWhile (· != '.') with
    | [] => true
    | _ :: fraction => isDigits fraction

/-- A number as scripts write it: no exponent, no plus sign, a digit on both sides of a point. -/
def isPlainNumber : List Char → Bool
  | '-' :: rest => isUnsignedNumber rest
  | cs => isUnsignedNumber cs

end TriggerScript.Text

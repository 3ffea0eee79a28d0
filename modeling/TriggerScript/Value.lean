import TriggerScript.Text.Property
import TriggerScript.Decimal.Shortest

/-!
# Values

What expressions produce.

* `Text.isInvisible` : whether a character would not show by itself.
* `Text.literal` : a text in double quotes with every character that would not show spelled out.
* `Value` : a truth value, a number, a text or an object of the host.
* `Value.typeName` : the code name of its type.
* `Value.same` : equality of values; objects are equal if type and key are.
* `Value.text`, `Value.spelling` : the default text of a value, and its form in diagnostics.
-/

namespace TriggerScript.Text

/-! ### Texts as literals -/

/-- Voiced and half-voiced sound marks of half width, which show although they extend the
character before them. -/
def halfWidthMarks : CodeSet := .range 0xFF9E 0xFF9F

/-- Characters that do not show by themselves: controls, separators, code points without a
character, marks that extend another character, and what may be ignored where it is not known. -/
def invisible : CodeSet :=
  .unions [Category.sets [.control, .format, .privateUse], unassigned.diff latest,
    Category.sets Category.separators, CodeSet.graphemeExtend.diff halfWidthMarks, latestMarks,
    CodeSet.defaultIgnorable]

/-- Whether a character is spelled by its code point in a literal. -/
def isInvisible (c : Char) : Bool :=
  if 32 ≤ c.toNat && c.toNat < 127 then false else invisible.contains c

/-- How a literal spells one character. -/
def escapeChar (c : Char) : List Char :=
  match c with
  | '\x00' => ['\\', '0']
  | '\t' => ['\\', 't']
  | '\r' => ['\\', 'r']
  | '\n' => ['\\', 'n']
  | '"' => ['\\', '"']
  | '\\' => ['\\', '\\']
  | _ => if isInvisible c then ['\\', 'u', '{'] ++ hexDigits c.toNat ++ ['}'] else [c]

/-- The text as a literal. -/
def literal (s : String) : String :=
  String.ofList ('"' :: s.toList.flatMap escapeChar ++ ['"'])

end TriggerScript.Text

namespace TriggerScript

/-! ### Values -/

/-- Code names of the types that every engine has. -/
def objectType : String := "object"

def booleanType : String := "boolean"

def numberType : String := "number"

def textType : String := "text"

/-- A value of a script. A host object is known by the code name of its type and a key. -/
inductive Value where
  | boolean (b : Bool)
  | number (x : Number)
  | text (s : String)
  | object (type key : String)
  deriving Inhabited

namespace Value

/-- The code name of the value's type. -/
def typeName : Value → String
  | .boolean _ => booleanType
  | .number _ => numberType
  | .text _ => textType
  | .object type _ => type

def asNumber? : Value → Option Number
  | .number x => some x
  | _ => none

def asText? : Value → Option String
  | .text s => some s
  | _ => none

def asBoolean? : Value → Option Bool
  | .boolean b => some b
  | _ => none

/-- The key of a host object. -/
def asKey? : Value → Option String
  | .object _ key => some key
  | _ => none

/-- Equal values are of one type; numbers are equal as numbers. -/
def same : Value → Value → Bool
  | .boolean a, .boolean b => a == b
  | .number x, .number y => Decimal.same x y
  | .text s, .text t => s == t
  | .object t k, .object t' k' => t == t' && k == k'
  | _, _ => false

/-- The words for the two truth values. -/
def boolText (b : Bool) : String := if b then "true" else "false"

/-- The text of a value whose type has no format of its own. -/
def toText : Value → String
  | .boolean b => boolText b
  | .number x => Decimal.numberText x
  | .text s => s
  | .object _ key => key

/-- The value as diagnostics spell it. -/
def spelling : Value → String
  | .boolean b => boolText b
  | .number x => Decimal.display x
  | .text s => Text.literal s
  | .object type key => type ++ "(" ++ key ++ ")"

end Value

end TriggerScript

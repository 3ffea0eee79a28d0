import TriggerScript.Registry.Basic
import TriggerScript.Decimal.Reading
import TriggerScript.Text.PlainNumber

/-!
# Built-in types

Objects, truth values, numbers and texts, with their conversions and comparators.

* `readBoolean?`, `readNumber?` : the literals of truth values and numbers.
* `addTypes` : registers the built-in types.
-/

namespace TriggerScript.Vocabulary

/-- Reads one of the six words for truth values, in any letter case. -/
def readBoolean? (text : String) : Option Value :=
  let word := Text.lowerString (Text.trimString text)
  if ["true", "yes", "on"].contains word then some (.boolean true)
  else if ["false", "no", "off"].contains word then some (.boolean false)
  else none

/-- Reads a plain number. -/
def readNumber? (text : String) : Option Value :=
  let cs := Text.trim text.toList
  if Text.isPlainNumber cs then (Decimal.read? cs).map .number else none

def compareNumbers (a b : Value) : Relation :=
  match a, b with
  | .number x, .number y =>
    match Decimal.compare? x y with
    | some o => .ofOrdering o
    | none => .notEqual
  | _, _ => .notEqual

/-- Letter case does not count. -/
def compareTexts (a b : Value) : Relation :=
  match a, b with
  | .text s, .text t => .ofOrdering (Text.compareChars (Text.lower s.toList) (Text.lower t.toList))
  | _, _ => .notEqual

def compareBooleans (a b : Value) : Relation :=
  if a.same b then .equal else .notEqual

def objects : TypeInfo := .named objectType "object¦s"

def booleans : TypeInfo :=
  { TypeInfo.named booleanType "boolean¦s" with
    reader := some readBoolean?, writer := some Value.toText }

def numbers : TypeInfo :=
  { TypeInfo.named numberType "number¦s" with
    reader := some readNumber?
    writer := some fun v => (v.asNumber?.map Decimal.numberText).getD "" }

def texts : TypeInfo :=
  { TypeInfo.named textType "text¦s" with writer := some fun v => v.asText?.getD "" }

def numberToText (v : Value) : Option Value :=
  v.asNumber?.map fun x => .text (Decimal.numberText x)

def booleanToText (v : Value) : Option Value :=
  v.asBoolean?.map fun b => .text (Value.boolText b)

/-- Registers the built-in types. -/
def addTypes (r : Registration) : Except Fault Registration := do
  let r ← r.addType objects
  let r ← r.addType booleans
  let r ← r.addType numbers
  let r ← r.addType texts
  let r := r.addConversion numberType textType numberToText
  let r := r.addConversion booleanType textType booleanToText
  let r := r.addComparator ⟨numberType, numberType, compareNumbers, true⟩
  let r := r.addComparator ⟨textType, textType, compareTexts, true⟩
  pure (r.addComparator ⟨booleanType, booleanType, compareBooleans, false⟩)

end TriggerScript.Vocabulary

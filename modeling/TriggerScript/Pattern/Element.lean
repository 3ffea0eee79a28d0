import TriggerScript.Regex.Basic

/-!
# Patterns

The small grammars in which syntax elements declare the texts they accept: words, which match in
any letter case; blanks; optional parts in brackets; alternatives in parentheses; slots for
expressions between percent signs; regular expressions between angle brackets.

* `Slot` : what an expression has to be to stand in a slot.
* `Element`, `Alternative` : the parts of a pattern.
* `Pattern` : a compiled pattern with its slots and regular expressions.
-/

namespace TriggerScript

/-- The demands that a place makes on the expression standing there. -/
structure Slot where
  /-- Code names of the accepted types. -/
  types : List String
  /-- Only one value may stand here. -/
  single : Bool
  /-- An omitted expression is left out instead of taken from the event. -/
  nullable : Bool
  /-- Only constants are accepted. -/
  literalOnly : Bool
  /-- The longest text is tried first. -/
  greedy : Bool
  deriving DecidableEq, Repr, Inhabited

/-- A place for any number of values of the given types. -/
def Slot.many (types : List String) : Slot :=
  ⟨types, false, false, false, false⟩

/-- A place for one value of the given types. -/
def Slot.one (types : List String) : Slot :=
  { Slot.many types with single := true }

mutual

/-- A part of a pattern. -/
inductive Element where
  /-- Characters without blanks, in lower case. -/
  | literal (cs : List Char)
  /-- Blanks. -/
  | space
  | group (alternatives : List Alternative) (optional : Bool)
  /-- The slot with this number. -/
  | slot (index : Nat)
  /-- The regular expression with this number. -/
  | regex (index : Nat)

/-- One way through a group, and the bits that taking it adds to the mark. -/
inductive Alternative where
  | mk (mark : Int32) (elements : List Element)

end

deriving instance Inhabited for Element
deriving instance Inhabited for Alternative

def Alternative.mark : Alternative → Int32
  | .mk mark _ => mark

def Alternative.elements : Alternative → List Element
  | .mk _ elements => elements

/-- A compiled pattern. Slots and regular expressions are numbered from left to right. -/
structure Pattern where
  source : String
  elements : List Element
  slots : List Slot
  regexes : List Regex
  deriving Inhabited

end TriggerScript

import TriggerScript.Event.Kind
import TriggerScript.Fault

/-!
# Declared elements

A host can add syntax elements by stating what they do instead of programming it.

* `Use` : how such an element came to be matched.
* `DeclaredExpression`, `DeclaredCondition`, `DeclaredEffect` : what the three kinds can do.
-/

namespace TriggerScript

/-- The pattern, marks and regular expression texts with which an element was matched. -/
structure Use where
  pattern : Nat
  mark : Int32
  regexes : List String
  deriving DecidableEq, Repr, Inhabited

/-- The text of a declared element: its name, how it was matched, and its parts. -/
def Use.describe (name : String) (use : Use) (parts : List String) : String :=
  name ++ "#" ++ toString use.pattern ++ "/" ++ toString use.mark.toInt ++
    "[" ++ "; ".intercalate parts ++ "]<" ++ "|".intercalate use.regexes ++ ">"

/-- An expression with fixed values. -/
structure DeclaredExpression where
  name : String
  returns : String
  single : Bool
  together : Bool
  /-- Why producing values fails, if it does. -/
  fault : Option String
  values : List Value
  /-- Whether the values of its parts follow the fixed ones. -/
  echo : Bool
  deriving Inhabited

/-- A condition with a fixed outcome, or one that tests the type of values. -/
structure DeclaredCondition where
  name : String
  fault : Option String
  /-- The type that the values of its first part are tested for. -/
  tests : Option String
  outcome : Bool
  deriving Inhabited

/-- An effect that announces itself. -/
structure DeclaredEffect where
  name : String
  fault : Option String
  /-- A failure whose message stands for itself. -/
  abandons : Option String
  /-- For how many ticks it suspends the trigger. -/
  suspends : Option UInt64
  /-- Whether it says that it suspends the trigger. -/
  delays : Bool
  deriving Inhabited

end TriggerScript

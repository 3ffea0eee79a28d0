/-!
# Three-valued truth

Answers to a question that can stay open, such as whether a delay has happened by now.

* `Ternary` : no, maybe or yes.
* `and`, `or`, `not` : the connectives that keep an open answer open unless the rest decides it.
* `merge` : the common answer of alternatives, or maybe.
-/

namespace TriggerScript

/-- An answer that can stay open. -/
inductive Ternary where
  | no
  | maybe
  | yes
  deriving DecidableEq, Repr, Inhabited

namespace Ternary

def isYes (t : Ternary) : Bool := t == .yes

def isNo (t : Ternary) : Bool := t == .no

def isMaybe (t : Ternary) : Bool := t == .maybe

/-- Not ruled out. -/
def isPossible (t : Ternary) : Bool := t != .no

/-- Both: a no decides. -/
def and : Ternary → Ternary → Ternary
  | .no, _ => .no
  | _, .no => .no
  | .yes, .yes => .yes
  | _, _ => .maybe

/-- Either: a yes decides. -/
def or : Ternary → Ternary → Ternary
  | .yes, _ => .yes
  | _, .yes => .yes
  | .no, .no => .no
  | _, _ => .maybe

def not : Ternary → Ternary
  | .no => .yes
  | .maybe => .maybe
  | .yes => .no

def ofBool (b : Bool) : Ternary := if b then .yes else .no

/-- The answer that all alternatives agree on, and maybe if they differ. Without alternatives
the answer is no. -/
def merge : List Ternary → Ternary
  | [] => .no
  | first :: rest => if rest.all (· == first) then first else .maybe

def text : Ternary → String
  | .no => "no"
  | .maybe => "maybe"
  | .yes => "yes"

/-- The answer with a name. -/
def ofName? (s : String) : Option Ternary :=
  [no, maybe, yes].find? (·.text == s)

end Ternary

end TriggerScript

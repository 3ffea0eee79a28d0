import TriggerScript.Syntax.Expression
import TriggerScript.Pattern.Element
import TriggerScript.Types.System
import TriggerScript.Diagnostics.Log
import TriggerScript.Ternary

/-!
# Setting elements up

When a pattern of an element matches, the element decides whether it accepts. All that it can do
then is to leave notes and to have further texts read as expressions.

* `Scope` : what is known at the place of a line.
* `Capture` : what a pattern took from a text.
* `Setup` : a decision together with the notes and readings that it needs.
-/

namespace TriggerScript

/-- A loop around the line that is read. -/
structure LoopInfo where
  id : ItemId
  type : String
  deriving DecidableEq, Repr, Inhabited

/-- What is known at the place of a line. -/
structure Scope where
  system : TypeSystem
  /-- The kinds of events that run the trigger. -/
  events : List EventKind
  /-- The enclosing loops, outermost first. -/
  loops : List LoopInfo
  /-- Whether a delay may have happened before. -/
  delay : Ternary
  location : Option Location
  /-- Whether to complain about lists that are joined by commas only. -/
  warnMissingAnd : Bool
  deriving Inhabited

/-- What a pattern took from a text. -/
structure Capture where
  /-- The number of the pattern among those of its element. -/
  pattern : Nat
  mark : Int32
  /-- An expression for each slot, or none if it was left out. -/
  parts : List (Option Expression)
  /-- The texts that regular expressions took. -/
  regexes : List String
  deriving Inhabited

namespace Capture

/-- The expression in a slot. -/
def part? (c : Capture) (i : Nat) : Option Expression :=
  c.parts[i]?.join

/-- Whether all bits of a mark are set. -/
def hasMark (c : Capture) (mark : Int32) : Bool :=
  c.mark &&& mark == mark

/-- How the element was matched. -/
def use (c : Capture) : Use :=
  ⟨c.pattern, c.mark, c.regexes⟩

end Capture

/-- The decision of an element about a match, with the steps that lead to it. -/
inductive Setup (α : Type) where
  /-- Accepts with a result, or rejects. -/
  | done (result : Option α)
  | error (message : String) (quality : Quality) (next : Setup α)
  | warning (message : String) (next : Setup α)
  /-- Has a text read as an expression for a slot and goes on with the outcome. -/
  | parse (text : String) (slot : Slot) (next : Option Expression → Setup α)

namespace Setup

def accept {α : Type} (a : α) : Setup α := .done (some a)

def reject {α : Type} : Setup α := .done none

/-- Rejects and says why. -/
def refuse {α : Type} (message : String) (quality : Quality) : Setup α :=
  .error message quality (.done none)

/-- Goes on with the result, rejected or not. -/
def andThen {α β : Type} (m : Setup α) (f : Option α → Setup β) : Setup β :=
  match m with
  | .done result => f result
  | .error message quality next => .error message quality (next.andThen f)
  | .warning message next => .warning message (next.andThen f)
  | .parse text slot next => .parse text slot fun e => (next e).andThen f

/-- Goes on with an accepted result. -/
def bind {α β : Type} (m : Setup α) (f : α → Setup β) : Setup β :=
  m.andThen fun
    | some a => f a
    | none => .done none

/-- Applies a function to an accepted result. -/
def map {α β : Type} (f : α → β) (m : Setup α) : Setup β :=
  m.bind fun a => .accept (f a)

end Setup

end TriggerScript

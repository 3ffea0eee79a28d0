/-!
# Outlines

The shape of a script: lines and, below some of them, indented lines.

* `Node` : an entry, or a heading with the nodes below it.
-/

namespace TriggerScript

/-- A line of an outline. Its key is the line without indentation, comment and colon. -/
inductive Node where
  | entry (line : Nat) (key : String)
  | heading (line : Nat) (key : String) (children : List Node)
  deriving Inhabited

namespace Node

def line : Node → Nat
  | .entry line _ => line
  | .heading line _ _ => line

def key : Node → String
  | .entry _ key => key
  | .heading _ key _ => key

def isHeading : Node → Bool
  | .entry .. => false
  | .heading .. => true

/-- The nodes below a heading. -/
def children : Node → List Node
  | .entry .. => []
  | .heading _ _ children => children

end Node

end TriggerScript

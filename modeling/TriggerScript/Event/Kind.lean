import TriggerScript.Types.Table

/-!
# Events

* `EventKind` : a kind of event that the host can report.
* `Occurrence` : one event, with the values it carries.
-/

namespace TriggerScript

/-- A kind of event. A kind that derives from another also reaches those who listen to it. -/
structure EventKind where
  name : String
  /-- The kinds it derives from, nearest first. -/
  ancestors : List String
  /-- Types of the values that every such event carries. -/
  values : List String
  cancellable : Bool
  /-- Whether events from elsewhere have to be handed to the main thread. -/
  needsMain : Bool
  deriving DecidableEq, Repr, Inhabited

namespace EventKind

/-- The kind itself and those it derives from. -/
def lineage (kind : EventKind) : List String :=
  kind.name :: kind.ancestors

/-- Whether it is the other kind or derives from it. -/
def isA (kind other : EventKind) : Bool :=
  kind.lineage.contains other.name

/-- The type of the carried value that serves as one of type `wanted`. -/
def valueType? (kind : EventKind) (types : TypeTable) (wanted : String) : Option String :=
  (kind.values.find? (· == wanted)).or (kind.values.find? fun t => types.isAssignable t wanted)

/-- A kind of event on its own that carries nothing. -/
def plain (name : String) : EventKind :=
  ⟨name, [], [], false, false⟩

end EventKind

/-- One event. Its number tells it from other events of its kind. -/
structure Occurrence where
  id : Nat
  kind : EventKind
  values : List (String × Value)
  asynchronous : Bool
  deriving Inhabited

/-- The value carried under a type. -/
def Occurrence.value? (e : Occurrence) (type : String) : Option Value :=
  e.values.lookup type

end TriggerScript

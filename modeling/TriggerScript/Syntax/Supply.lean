import TriggerScript.Types.System

/-!
# Supplies of values

A loop takes its values one by one from a supply, so a long range is never written out.

* `Source`, `Source.next?` : given values, or numbers in steps of one.
* `Supply`, `Supply.next?` : a source whose values are converted; what cannot be converted is
  passed over.
* `Source.toList` : all values of a source.
-/

namespace TriggerScript

/-- How many numbers a range can be asked for. -/
def rangeLimit : Nat := UInt64.size

/-- Values that can be taken one by one. -/
inductive Source where
  | values (vs : List Value)
  /-- `low + step`, `low + step + 1`, … as long as `high` is not exceeded. -/
  | numbers (low high : Number) (step : Nat)
  deriving Inhabited

namespace Source

/-- A bound on how many values are left. -/
def size : Source → Nat
  | .values vs => vs.length
  | .numbers _ _ step => rangeLimit - step

/-- The next value and what is left. -/
def next? : Source → Option (Value × Source)
  | .values [] => none
  | .values (v :: vs) => some (v, .values vs)
  | .numbers low high step =>
    let x := low.add (.ofNat step)
    if step < rangeLimit && Decimal.atMost x high then
      some (.number x, .numbers low high (step + 1))
    else none

theorem next?_size {s rest : Source} {v : Value} (h : s.next? = some (v, rest)) :
    rest.size < s.size := by
  unfold next? at h
  split at h
  · cases h
  · cases h; simp [size]
  · simp only [Bool.and_eq_true, decide_eq_true_eq] at h
    split at h
    · next hs => cases h; simp only [size]; omega
    · cases h

/-- The values of a source behind those given in reverse. -/
def toListAfter (taken : List Value) (s : Source) : List Value :=
  match h : s.next? with
  | some (v, rest) =>
    have := next?_size h
    toListAfter (v :: taken) rest
  | none => taken.reverse
  termination_by s.size

/-- All values of a source. -/
def toList (s : Source) : List Value :=
  s.toListAfter []

end Source

/-- A source, and the types that its values are converted to one after the other. -/
structure Supply where
  source : Source
  targets : List String
  deriving Inhabited

/-- A value converted to several types one after the other. -/
def TypeSystem.convertThrough (s : TypeSystem) : List String → Value → Option Value
  | [], value => some value
  | target :: targets, value => (s.convert value target).bind (s.convertThrough targets)

namespace Supply

/-- The next value that can be converted, and what is left. -/
def nextFrom? (system : TypeSystem) (targets : List String) (source : Source) :
    Option (Value × Source) :=
  match h : source.next? with
  | none => none
  | some (v, rest) =>
    have := Source.next?_size h
    match system.convertThrough targets v with
    | some w => some (w, rest)
    | none => nextFrom? system targets rest
  termination_by source.size

/-- The next value and the supply behind it. -/
def next? (system : TypeSystem) (s : Supply) : Option (Value × Supply) :=
  (nextFrom? system s.targets s.source).map fun r => (r.1, ⟨r.2, s.targets⟩)

/-- At most the first `n` values. -/
def take (system : TypeSystem) : Nat → Supply → List Value
  | 0, _ => []
  | n + 1, s =>
    match s.next? system with
    | some (v, rest) => v :: take system n rest
    | none => []

end Supply

end TriggerScript

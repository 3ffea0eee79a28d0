import TriggerScript.Types.Table

/-!
# Conversions

* `Conversion` : a way from the values of one type to values of another; it may fail on a value.
* `Conversions.close` : adds the composite conversions until no new pair of types arises.
* `Conversions.find?`, `Conversions.convert` : the conversion for a pair of types, and its use.
-/

namespace TriggerScript

/-- A registered or composite conversion. -/
structure Conversion where
  source : String
  target : String
  run : Value → Option Value
  composite : Bool

namespace Conversion

/-- One conversion after another. -/
def andThen (first second : Conversion) : Conversion :=
  { source := first.source, target := second.target,
    run := fun value => (first.run value).bind second.run, composite := true }

/-- Whether it goes between exactly these types. -/
def connects (c : Conversion) (source target : String) : Bool :=
  c.source == source && c.target == target

def text (c : Conversion) : String :=
  c.source ++ " -> " ++ c.target ++ if c.composite then " (chained)" else ""

end Conversion

/-- The conversions of an engine, registered ones first. -/
structure Conversions where
  list : List Conversion
  deriving Inhabited

namespace Conversions

def empty : Conversions := ⟨[]⟩

def register (cs : Conversions) (source target : String) (run : Value → Option Value) :
    Conversions :=
  ⟨cs.list ++ [⟨source, target, run, false⟩]⟩

/-- Adds the composite of two conversions to those found so far, if they fit together, lead
somewhere else and no conversion between the two ends is known. -/
def addComposite (types : TypeTable) (known found : List Conversion)
    (pair : Conversion × Conversion) : List Conversion :=
  let (first, second) := pair
  if !types.isAssignable first.target second.source || first.source == second.target then found
  else if known.any (·.connects first.source second.target) ||
      found.any (·.connects first.source second.target) then found
  else found ++ [first.andThen second]

/-- The composites of two known conversions between pairs of types that had none. -/
def composites (types : TypeTable) (known : List Conversion) : List Conversion :=
  (known.flatMap fun first => known.map fun second => (first, second)).foldl
    (addComposite types known) []

/-- Adds composites, round by round, until a round adds none. -/
def closeWithin (types : TypeTable) : Nat → List Conversion → List Conversion
  | 0, known => known
  | rounds + 1, known =>
    match composites types known with
    | [] => known
    | found => closeWithin types rounds (known ++ found)

/-- All composites. Each round but the last settles a new pair of a source and a target, so
there are no more rounds than such pairs. -/
def close (types : TypeTable) (cs : Conversions) : Conversions :=
  ⟨closeWithin types (cs.list.length * cs.list.length + 1) cs.list⟩

/-- The conversion for exactly these types, or else the first one that accepts the source type
and yields something usable as the target type. -/
def find? (cs : Conversions) (types : TypeTable) (source target : String) : Option Conversion :=
  (cs.list.find? (·.connects source target)).or <| cs.list.find? fun c =>
    types.isAssignable source c.source && types.isAssignable c.target target

/-- The value as one of the target type; a value of that type already is left alone. -/
def convert (cs : Conversions) (types : TypeTable) (value : Value) (target : String) :
    Option Value :=
  if types.isAssignable value.typeName target then some value
  else (cs.find? types value.typeName target).bind fun c => c.run value

end Conversions

end TriggerScript

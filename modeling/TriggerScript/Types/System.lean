import TriggerScript.Types.Conversion

/-!
# Comparing values, and type systems

The types of an engine together with their conversions and comparators.

* `Relation` : the six comparisons.
* `Relation.switched`, `Relation.inverse` : the comparison seen from the other side, and denied.
* `Relation.impliedBy` : whether a comparison holds, given how two values compare.
* `Relation.name`, `Relation.ofName?` : comparisons in data.
* `Comparator` : compares values of two types.
* `Comparators.compare` : how two values compare: by a comparator for their types in either
  order, else after converting one of them, else by plain equality.
* `TypeSystem.acceptance?` : how values of one type satisfy a demand for others.
* `TypeSystem.convert`, `TypeSystem.compare` : conversion and comparison of values.
-/

namespace TriggerScript

/-! ### Relations -/

inductive Relation where
  | equal
  | notEqual
  | greater
  | greaterOrEqual
  | smaller
  | smallerOrEqual
  deriving DecidableEq, Repr, Inhabited

namespace Relation

def ofOrdering : Ordering → Relation
  | .lt => .smaller
  | .eq => .equal
  | .gt => .greater

/-- `a > b` is `b < a`. -/
def switched : Relation → Relation
  | .greater => .smaller
  | .greaterOrEqual => .smallerOrEqual
  | .smaller => .greater
  | .smallerOrEqual => .greaterOrEqual
  | other => other

/-- `a > b` fails where `a <= b` holds. -/
def inverse : Relation → Relation
  | .equal => .notEqual
  | .notEqual => .equal
  | .greater => .smallerOrEqual
  | .greaterOrEqual => .smaller
  | .smaller => .greaterOrEqual
  | .smallerOrEqual => .greater

/-- Whether this comparison holds of values that compare as `actual` says. -/
def impliedBy : Relation → Relation → Bool
  | .equal, actual => actual == .equal
  | .notEqual, actual => actual != .equal
  | .greater, actual => actual == .greater
  | .greaterOrEqual, actual => actual == .greater || actual == .equal
  | .smaller, actual => actual == .smaller
  | .smallerOrEqual, actual => actual == .smaller || actual == .equal

def text : Relation → String
  | .equal => "equal to"
  | .notEqual => "not equal to"
  | .greater => "greater than"
  | .greaterOrEqual => "greater than or equal to"
  | .smaller => "smaller than"
  | .smallerOrEqual => "smaller than or equal to"

/-- The name of a relation in data. -/
def name : Relation → String
  | .equal => "Equal"
  | .notEqual => "NotEqual"
  | .greater => "Greater"
  | .greaterOrEqual => "GreaterOrEqual"
  | .smaller => "Smaller"
  | .smallerOrEqual => "SmallerOrEqual"

def all : List Relation :=
  [.equal, .notEqual, .greater, .greaterOrEqual, .smaller, .smallerOrEqual]

/-- The relation with a name. -/
def ofName? (s : String) : Option Relation := all.find? (·.name == s)

end Relation

/-! ### Comparators -/

/-- Compares a value of one type with a value of another. It answers equal, not equal, greater
or smaller. -/
structure Comparator where
  first : String
  second : String
  run : Value → Value → Relation
  ordered : Bool

/-- The comparators of an engine in order of registration. -/
structure Comparators where
  list : List Comparator
  deriving Inhabited

namespace Comparators

def empty : Comparators := ⟨[]⟩

def register (cs : Comparators) (c : Comparator) : Comparators :=
  ⟨cs.list ++ [c]⟩

/-- The comparator for exactly these types, or else the first that accepts both. -/
def find? (cs : Comparators) (types : TypeTable) (a b : String) : Option Comparator :=
  (cs.list.find? fun c => c.first == a && c.second == b).or <| cs.list.find? fun c =>
    types.isAssignable a c.first && types.isAssignable b c.second

/-- Compares two values as they are, by a comparator for their types in either order. -/
def compareDirect? (cs : Comparators) (types : TypeTable) (a b : Value) : Option Relation :=
  match cs.find? types a.typeName b.typeName with
  | some c => some (c.run a b)
  | none => (cs.find? types b.typeName a.typeName).map fun c => (c.run b a).switched

/-- How two values compare. -/
def compare (cs : Comparators) (types : TypeTable) (conversions : Conversions) (a b : Value) :
    Relation :=
  let direct := cs.compareDirect? types a b
  let second := (conversions.convert types b a.typeName).bind fun b' =>
    cs.compareDirect? types a b'
  let first := (conversions.convert types a b.typeName).bind fun a' =>
    cs.compareDirect? types a' b
  match (direct.or second).or first with
  | some relation => relation
  | none => if a.same b then .equal else .notEqual

/-- Whether a relation holds between two values. -/
def holds (cs : Comparators) (types : TypeTable) (conversions : Conversions) (a : Value)
    (relation : Relation) (b : Value) : Bool :=
  relation.impliedBy (cs.compare types conversions a b)

end Comparators

/-! ### Type systems -/

/-- Types, conversions and comparators. -/
structure TypeSystem where
  types : TypeTable
  conversions : Conversions
  comparators : Comparators
  deriving Inhabited

/-- How produced values satisfy a demand. -/
inductive Acceptance where
  /-- They are of an accepted type already. -/
  | direct
  /-- They have to be converted to this type when they are produced. -/
  | convert (target : String)
  deriving DecidableEq, Repr

namespace TypeSystem

/-- How values of type `produced` satisfy a demand for one of the types `required`. A type more
general than a required one may still produce values of that type. -/
def acceptance? (s : TypeSystem) (produced : String) (required : List String) :
    Option Acceptance :=
  if required.any (s.types.isAssignable produced) then some .direct
  else match required.find? fun r => (s.conversions.find? s.types produced r).isSome with
    | some target => some (.convert target)
    | none => (required.find? fun r => s.types.isAssignable r produced).map .convert

def convert (s : TypeSystem) (value : Value) (target : String) : Option Value :=
  s.conversions.convert s.types value target

def compare (s : TypeSystem) (a b : Value) : Relation :=
  s.comparators.compare s.types s.conversions a b

def holds (s : TypeSystem) (a : Value) (relation : Relation) (b : Value) : Bool :=
  relation.impliedBy (s.compare a b)

end TypeSystem

end TriggerScript

import TriggerScript.Value
import TriggerScript.Text.Cut
import TriggerScript.Text.LetterCase
import TriggerScript.Fault
import TriggerScript.Text.Enumeration

/-!
# The table of types

* `TypeInfo` : what is known of one type: its names, its supertype, how its literals are read
  and how its values are written.
* `splitPlural` : the singular and plural that a name with plural marks stands for.
* `TypeTable` : the registered types in order; no two share a code name or a user name.
* `TypeTable.get?`, `TypeTable.lookup?` : types by code name and by the name scripts use.
* `TypeTable.supertypes`, `TypeTable.isAssignable`, `TypeTable.common` : the order of types.
* `TypeTable.readLiteral?`, `TypeTable.format` : literals and texts of values.
-/

namespace TriggerScript

/-! ### Types -/

/-- Reads a name with plural marks: `number¦s` is number and numbers, `entit¦y¦ies` is entity
and entities. -/
def splitPlural (name : String) : String × String :=
  match (Text.pieces '¦' name.toList).map String.ofList with
  | [stem, ending] => (stem, stem ++ ending)
  | stem :: singular :: plural :: _ => (stem ++ singular, stem ++ plural)
  | _ => (name, name)

/-- A type that scripts can name. -/
structure TypeInfo where
  /-- The name that registrations refer to. -/
  code : String
  singular : String
  plural : String
  supertype : Option String
  /-- Reads a literal, if the type has any. -/
  reader : Option (String → Option Value)
  /-- Writes a value, if the type has a form of its own. -/
  writer : Option (Value → String)
  /-- Whether an omitted slot of this type stands for the event's value. -/
  eventDefault : Bool

namespace TypeInfo

/-- A type without literals; every type but the most general one is an object. -/
def named (code name : String) : TypeInfo :=
  { code, singular := (splitPlural name).1, plural := (splitPlural name).2,
    supertype := if code == objectType then none else some objectType,
    reader := none, writer := none, eventDefault := false }

/-- Reads a text as a literal of this type. -/
def read? (info : TypeInfo) (text : String) : Option Value :=
  info.reader.bind fun read => read text

/-- The singular with its indefinite article. -/
def withArticle (info : TypeInfo) : String :=
  let vowel := match info.singular.toList with
    | c :: _ => ['a', 'e', 'i', 'o', 'u'].contains c.toLower
    | [] => false
  (if vowel then "an " else "a ") ++ info.singular

/-- Whether `name`, given in lower case, names the type, and if so whether in the plural. -/
def answersTo? (info : TypeInfo) (name : String) : Option Bool :=
  if Text.lowerString info.singular == name then some false
  else if Text.lowerString info.plural == name then some true
  else none

end TypeInfo

/-! ### The table -/

/-- The registered types, oldest first. -/
structure TypeTable where
  infos : List TypeInfo
  deriving Inhabited

namespace TypeTable

def empty : TypeTable := ⟨[]⟩

/-- The type with a code name. -/
def get? (table : TypeTable) (code : String) : Option TypeInfo :=
  table.infos.find? (·.code == code)

/-- The type that has a name, given in lower case, and whether the name is its plural. -/
def byName? (table : TypeTable) (name : String) : Option (TypeInfo × Bool) :=
  table.infos.findSome? fun info => (info.answersTo? name).map fun plural => (info, plural)

/-- The type that a script names, in any letter case, and whether it does so in the plural. -/
def lookup? (table : TypeTable) (name : String) : Option (TypeInfo × Bool) :=
  table.byName? (Text.lowerString (Text.trimString name))

/-- Adds a type. Its code name and its user names must be new. -/
def register (table : TypeTable) (info : TypeInfo) : Except Fault TypeTable :=
  if (table.get? info.code).isSome then
    .error (.registration ("type '" ++ info.code ++ "' is already registered"))
  else
    let names := [Text.lowerString info.singular, Text.lowerString info.plural]
    match names.findSome? fun name => (table.byName? name).map fun other => (name, other.1) with
    | some (name, other) =>
      .error (.registration ("type name '" ++ name ++ "' of '" ++ info.code ++
        "' is already used by '" ++ other.code ++ "'"))
    | none => .ok ⟨table.infos ++ [info]⟩

/-- A type followed by its supertypes, at most `steps` of them. -/
def climb (table : TypeTable) : Nat → String → List String
  | 0, code => [code]
  | steps + 1, code =>
    code :: match (table.get? code).bind (·.supertype) with
      | some above => table.climb steps above
      | none => []

/-- A type followed by its supertypes. A circle of supertypes is left after as many steps as
there are types. -/
def supertypes (table : TypeTable) (code : String) : List String :=
  table.climb (table.infos.length + 1) code

/-- Whether values of type `sub` may stand where `sup` is asked for. -/
def isAssignable (table : TypeTable) (sub sup : String) : Bool :=
  sup == objectType || (table.supertypes sub).contains sup

/-- The first supertype of `a` that `b` is assignable to. -/
def common (table : TypeTable) (a b : String) : String :=
  ((table.supertypes a).find? fun t => table.isAssignable b t).getD objectType

/-- Reads a literal of a type or of a subtype. The most general type has every literal. -/
def readLiteral? (table : TypeTable) (code text : String) : Option Value :=
  if code == objectType then table.infos.findSome? (·.read? text)
  else (table.get? code).bind fun info =>
    (info.read? text).or <| table.infos.findSome? fun sub =>
      if sub.code != info.code && table.isAssignable sub.code code then sub.read? text else none

/-- Writes a value in the form of its type or of the nearest supertype that has one. -/
def format (table : TypeTable) (value : Value) : String :=
  match (table.supertypes value.typeName).findSome? fun t => (table.get? t).bind (·.writer) with
  | some write => write value
  | none => value.toText

/-- Writes values as a list. -/
def formatList (table : TypeTable) (values : List Value) (together : Bool) : String :=
  Text.joinList (Text.conjunction together) (values.map table.format)

/-- The types that are asked for, in words. -/
def describe (table : TypeTable) (codes : List String) : String :=
  Text.joinList "or" (codes.map fun code =>
    match table.get? code with
    | some info => info.withArticle
    | none => code)

end TypeTable

end TriggerScript

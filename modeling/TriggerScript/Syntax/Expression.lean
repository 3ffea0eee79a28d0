import TriggerScript.Syntax.Declared
import TriggerScript.Text.Enumeration
import TriggerScript.Text.Quoted

/-!
# Expressions

* `Expression`, `Part` : what can be written where values are asked for, and the pieces of a
  text with expressions in it.
* `Expression.returns`, `isSingle`, `together` : its type, whether it has at most one value, and
  whether several values are meant together or as a choice.
* `Expression.constants?` : the values known before anything runs.
* `Expression.describe` : the expression as it would be written.
-/

namespace TriggerScript

/-- The number of an item of a trigger. -/
abbrev ItemId := Nat

mutual

/-- What can be written where values are asked for. -/
inductive Expression where
  /-- `{name}`, where the name may hold expressions. -/
  | variable (name : List Part)
  /-- The current value of an enclosing loop. -/
  | loopValue (name : String) (loop : ItemId) (type : String)
  /-- The value of a type that the event carries. -/
  | eventValue (type : String)
  /-- The numbers from one up to another in steps of one. -/
  | range (low high : Expression)
  /-- Constants. -/
  | literal (values : List Value) (type : String) (all : Bool)
  /-- A quoted text, which may hold expressions. -/
  | quoted (parts : List Part)
  /-- A list of expressions, meant together or as a choice. -/
  | list (items : List Expression) (all : Bool) (type : String)
  /-- An expression whose values are converted, as far as they can be. -/
  | converted (inner : Expression) (target : String)
  /-- An element that the host declares. -/
  | declared (d : DeclaredExpression) (use : Use) (parts : List (Option Expression))

/-- A piece of a text with expressions in it. -/
inductive Part where
  | text (s : String)
  | expression (e : Expression)

end

deriving instance Inhabited for Expression
deriving instance Inhabited for Part

/-- A constant as it would be written. -/
def Value.source : Value → String
  | .text s => "\"" ++ Text.doubleString '"' s ++ "\""
  | other => other.toText

/-- The text of the pieces if no expression is among them. -/
def plainText? : List Part → Option String
  | [] => some ""
  | .text s :: rest => (plainText? rest).map fun t => s ++ t
  | .expression _ :: _ => none

namespace Expression

/-- The code name of the type of its values. -/
def returns : Expression → String
  | .variable _ => objectType
  | .loopValue _ _ type => type
  | .eventValue type => type
  | .range _ _ => numberType
  | .literal _ type _ => type
  | .quoted _ => textType
  | .list _ _ type => type
  | .converted _ target => target
  | .declared d _ _ => d.returns

/-- Whether several values are meant together; else one of them is meant. -/
def together : Expression → Bool
  | .literal _ _ all => all
  | .list _ all _ => all
  | .converted inner _ => inner.together
  | .declared d _ _ => d.together
  | _ => true

mutual

/-- Whether it stands for at most one value. -/
def isSingle : Expression → Bool
  | .range _ _ => false
  | .literal values _ all => values.length == 1 || !all
  | .list items all _ => if all then items.length == 1 && allSingle items else allSingle items
  | .converted inner _ => inner.isSingle
  | .declared d _ _ => d.single
  | _ => true

/-- Whether each of some expressions stands for at most one value. -/
def allSingle : List Expression → Bool
  | [] => true
  | e :: rest => e.isSingle && allSingle rest

end

mutual

/-- Its values, if they are known before anything runs. -/
def constants? : Expression → Option (List Value)
  | .literal values _ _ => some values
  | .quoted parts => (plainText? parts).map fun s => [.text s]
  | .list items _ _ => allConstants? items
  | _ => none

/-- The values of some expressions in order, if all are known. -/
def allConstants? : List Expression → Option (List Value)
  | [] => some []
  | e :: rest =>
    match e.constants?, allConstants? rest with
    | some values, some more => some (values ++ more)
    | _, _ => none

end

mutual

/-- The expression as it would be written; with `debug`, types are added. -/
def describe (debug : Bool) : Expression → String
  | .variable name => "\x7b" ++ describeParts debug name ++ "\x7d"
  | .loopValue name _ _ => "loop-" ++ name
  | .eventValue type => "event-" ++ type ++ if debug then " (event value)" else ""
  | .range low high => "numbers from " ++ low.describe debug ++ " to " ++ high.describe debug
  | .literal values type all =>
    Text.joinList (Text.conjunction all) (values.map Value.source) ++
      if debug then " (" ++ type ++ ")" else ""
  | .quoted parts => "\"" ++ Text.doubleString '"' (describeParts debug parts) ++ "\""
  | .list items all _ => Text.joinList (Text.conjunction all) (describeAll debug items)
  | .converted inner target =>
    inner.describe debug ++ if debug then " (as " ++ target ++ ")" else ""
  | .declared d use parts => use.describe d.name (describeOptions debug parts)

/-- Several expressions as they would be written. -/
def describeAll (debug : Bool) : List Expression → List String
  | [] => []
  | e :: rest => e.describe debug :: describeAll debug rest

/-- Pieces of a text as they would be written. -/
def describeParts (debug : Bool) : List Part → String
  | [] => ""
  | p :: rest => describePart debug p ++ describeParts debug rest

/-- The parts of a declared element; a hyphen stands for one left out. -/
def describeOptions (debug : Bool) : List (Option Expression) → List String
  | [] => []
  | e :: rest => describeOption debug e :: describeOptions debug rest

/-- One part of a declared element. -/
def describeOption (debug : Bool) : Option Expression → String
  | none => "-"
  | some e => e.describe debug

/-- One piece of a text as it would be written. -/
def describePart (debug : Bool) : Part → String
  | .text s => Text.doubleString '%' s
  | .expression e => "%" ++ e.describe debug ++ "%"

end

end Expression

end TriggerScript

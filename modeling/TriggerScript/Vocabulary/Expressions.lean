import TriggerScript.Registry.Basic
import TriggerScript.Vocabulary.Template
import TriggerScript.Decimal.Reading
import TriggerScript.Text.PlainNumber

/-!
# Built-in expressions

Variables, loop values, values of the event and ranges of numbers.

* `loopValue` : which loop `loop-value`, `loop-number-2` and the like stand for.
* `eventValue?` : the value of a type that every event of the trigger carries.
* `addExpressions` : registers the built-in expressions.
-/

namespace TriggerScript.Vocabulary

/-- `{name}`. -/
def namedVariable (_ : Scope) (c : Capture) : Setup Expression :=
  match c.regexes.head? with
  | some name => (variableName name).map .variable
  | none => .reject

/-- The name of a loop without its number, and the number if it is one. A number too large for
any machine word counts as none. -/
def loopNumber (name : List Char) : List Char × Option Nat :=
  match Text.cutAtLast? '-' name with
  | some (base, ds) =>
    if Text.isDigits ds then (base, Decimal.readNat? (UInt64.size - 1) ds) else (name, none)
  | none => (name, none)

/-- The enclosing loops whose values are of a wanted type. -/
def loopsOf (scope : Scope) (wanted : Option String) : List LoopInfo :=
  match wanted with
  | none => scope.loops
  | some w => scope.loops.filter fun l => scope.system.types.isAssignable l.type w

/-- The one among some loops that is meant: the numbered one, counted from the outermost, or the
innermost. -/
def chooseLoop (candidates : List LoopInfo) : Option Nat → Option LoopInfo
  | some 0 => none
  | some (n + 1) => candidates[n]?
  | none => candidates.getLast?

/-- `loop-value` and `loop-` with a type, with a number if several loops fit. -/
def loopValue (scope : Scope) (c : Capture) : Setup Expression :=
  match c.regexes.head? with
  | none => .reject
  | some text =>
    let name := Text.lower (Text.trim text.toList)
    let (base, index) := loopNumber name
    let shown := String.ofList name
    let baseName := String.ofList base
    let pick (wanted : Option String) : Setup Expression :=
      let candidates := loopsOf scope wanted
      if index.isNone && wanted.isSome && 1 < candidates.length then
        .refuse ("There are multiple loops that match 'loop-" ++ shown ++ "'; use 'loop-" ++
          baseName ++ "-1', 'loop-" ++ baseName ++ "-2', etc.") .semantic
      else match chooseLoop candidates index with
        | some l => .accept (.loopValue shown l.id (wanted.getD l.type))
        | none => .refuse ("There's no loop that matches 'loop-" ++ shown ++ "'") .semantic
    if baseName == "value" then pick none
    else match scope.system.types.lookup? baseName with
      | some (info, _) => pick (some info.code)
      | none =>
        .refuse ("'" ++ baseName ++ "' is not a type, so 'loop-" ++ shown ++ "' means nothing")
          .semantic

/-- The type under which events of all the given kinds carry a value of type `wanted`. The first
kind decides which type it is. -/
def eventValue? (types : TypeTable) (kinds : List EventKind) (wanted : String) : Option String :=
  match kinds with
  | [] => none
  | first :: rest =>
    if rest.all fun kind => (kind.valueType? types wanted).isSome then
      first.valueType? types wanted
    else none

/-- `event-` with a type, or just the type. -/
def eventValue (scope : Scope) (c : Capture) : Setup Expression :=
  match c.regexes.head? with
  | none => .reject
  | some name =>
    match scope.system.types.lookup? name with
    | none => .reject
    | some (info, _) =>
      match eventValue? scope.system.types scope.events info.code with
      | some type => .accept (.eventValue type)
      | none =>
        let place := match scope.events with
          | [] => "outside of an event"
          | kinds => "in a " ++ "/".intercalate (kinds.map (·.name)) ++ " event"
        .refuse ("There's no " ++ Text.trimString name ++ " " ++ place) .semantic

/-- `numbers from` one `to` another. -/
def range (_ : Scope) (c : Capture) : Setup Expression :=
  match c.part? 0, c.part? 1 with
  | some low, some high => .accept (.range low high)
  | _, _ => .reject

/-- Registers the built-in expressions. -/
def addExpressions (r : Registration) : Registration :=
  let r := r.addExpression ⟨"variable", objectType, .simple, ["\\\x7b<.+>\\\x7d"], namedVariable⟩
  let r := r.addExpression ⟨"loop value", objectType, .simple, ["[the] loop-<.+>"], loopValue⟩
  let r := r.addExpression ⟨"event value", objectType, .event,
    ["[the] event-<.+>", "[the] <[a-z][a-z ]*>"], eventValue⟩
  r.addExpression ⟨"number range", numberType, .combined,
    ["[the] numbers (from|between) %number% (to|and) %number%"], range⟩

end TriggerScript.Vocabulary

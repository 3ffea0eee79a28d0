import TriggerScript.Syntax.Expression
import TriggerScript.Syntax.Supply

/-!
# Evaluating expressions

* `Dice`, `Eval` : outcomes of random choices, and computations that use them and can fail.
* `Sight` : what an expression can see of the running trigger.
* `Expression.all` : all values; of a choice, every alternative.
* `Expression.array`, `Expression.one?` : the values as effects see them; of a choice, one.
* `Expression.supply` : the values for a loop.
* `Expression.check` : whether the values pass a test.
-/

namespace TriggerScript

/-- The outcomes of all random choices, and how many have been used. -/
structure Dice where
  outcomes : Nat → Nat
  used : Nat

/-- Dice that always show the same. -/
def Dice.constant (n : Nat) : Dice := ⟨fun _ => n, 0⟩

instance : Inhabited Dice := ⟨.constant 0⟩

/-- A computation that makes random choices and can fail. -/
abbrev Eval := StateT Dice (Except Fault)

/-- One of the numbers below `n`. -/
def roll (n : Nat) : Eval Nat :=
  fun dice => .ok (dice.outcomes dice.used % n, { dice with used := dice.used + 1 })

/-- A computation that fails. -/
def fail {α : Type} (fault : Fault) : Eval α :=
  fun _ => .error fault

/-- Fails if there is something to report. -/
def failIf (message : Option String) : Eval Unit :=
  match message with
  | some m => fail (.runtime m)
  | none => pure ()

/-- What an expression can see: the types, the event, the variables and the running loops. -/
structure Sight where
  system : TypeSystem
  event : Occurrence
  stored? : String → Option Value
  loopValue? : ItemId → Option Value

/-- One of some values. -/
def pickValue (values : List Value) : Eval (List Value) := do
  match values with
  | [] => pure []
  | _ =>
    let i ← roll values.length
    pure (values[i]?).toList

/-- The bounds of a range, if both are finite numbers. -/
def bounds? (low high : Option Value) : Option (Number × Number) :=
  match low.bind Value.asNumber?, high.bind Value.asNumber? with
  | some x, some y => if Decimal.isFinite x && Decimal.isFinite y then some (x, y) else none
  | _, _ => none

/-- The numbers of a range. -/
def rangeSource (bounds : Option (Number × Number)) : Source :=
  match bounds with
  | some (low, high) => .numbers low high 0
  | none => .values []

namespace Expression

mutual

/-- The values: all of them, or with `choose` one alternative of each choice. -/
def values (sight : Sight) (choose : Bool) : Expression → Eval (List Value)
  | .variable name => do
    let key ← textOf sight name
    pure (sight.stored? (Text.lowerString key)).toList
  | .loopValue _ loop _ => pure (sight.loopValue? loop).toList
  | .eventValue type => pure (sight.event.value? type).toList
  | .range low high => do
    let low ← low.values sight true
    let high ← high.values sight true
    pure (rangeSource (bounds? low.head? high.head?)).toList
  | .literal vs _ together => if choose && !together then pickValue vs else pure vs
  | .quoted parts => do
    let s ← textOf sight parts
    pure [.text s]
  | .list items together _ =>
    if choose && !together && !items.isEmpty then do
      let i ← roll items.length
      valuesAt sight i items
    else valuesOf sight choose items
  | .converted inner target => do
    let vs ← inner.values sight choose
    pure (vs.filterMap fun v => sight.system.convert v target)
  | .declared d _ parts => do
    failIf d.fault
    if d.echo then
      let more ← valuesOfOptions sight parts
      pure (d.values ++ more)
    else pure d.values

/-- The values of several expressions one after the other. -/
def valuesOf (sight : Sight) (choose : Bool) : List Expression → Eval (List Value)
  | [] => pure []
  | e :: rest => do
    let vs ← e.values sight choose
    let more ← valuesOf sight choose rest
    pure (vs ++ more)

/-- The values of the expression with a number, choosing. -/
def valuesAt (sight : Sight) (i : Nat) : List Expression → Eval (List Value)
  | [] => pure []
  | e :: rest => if i = 0 then e.values sight true else valuesAt sight (i - 1) rest

/-- All values of the parts of a declared element. -/
def valuesOfOptions (sight : Sight) : List (Option Expression) → Eval (List Value)
  | [] => pure []
  | e :: rest => do
    let vs ← valuesOfOption sight e
    let more ← valuesOfOptions sight rest
    pure (vs ++ more)

/-- All values of a part of a declared element. -/
def valuesOfOption (sight : Sight) : Option Expression → Eval (List Value)
  | none => pure []
  | some e => e.values sight false

/-- The text that pieces come to. -/
def textOf (sight : Sight) : List Part → Eval String
  | [] => pure ""
  | p :: rest => do
    let s ← textOfPart sight p
    let more ← textOf sight rest
    pure (s ++ more)

/-- The text that a piece comes to; several values are listed. -/
def textOfPart (sight : Sight) : Part → Eval String
  | .text s => pure s
  | .expression e => do
    let vs ← e.values sight true
    pure (sight.system.types.formatList vs e.together)

end

attribute [grind =] values valuesOf valuesAt valuesOfOptions valuesOfOption textOf textOfPart

/-- All values; of a choice, every alternative. -/
def all (sight : Sight) (e : Expression) : Eval (List Value) :=
  e.values sight false

/-- The values as effects see them; of a choice, one alternative. -/
def array (sight : Sight) (e : Expression) : Eval (List Value) :=
  e.values sight true

/-- The first of the values that effects see. -/
def one? (sight : Sight) (e : Expression) : Eval (Option Value) := do
  let values ← e.array sight
  pure values.head?

/-- The values for a loop. -/
def supply (sight : Sight) : Expression → Eval Supply
  | .range low high => do
    let low ← low.one? sight
    let high ← high.one? sight
    pure ⟨rangeSource (bounds? low high), []⟩
  | .converted inner target => do
    let s ← inner.supply sight
    pure { s with targets := s.targets ++ [target] }
  | e => do
    let values ← e.all sight
    pure ⟨.values values, []⟩

/-- Whether values pass a test: all of them, or some of them. Without values nothing passes. -/
def checkValues (together : Bool) (test : Value → Bool) (negated : Bool) (values : List Value) :
    Bool :=
  if values.isEmpty then false
  else (if together then values.all test else values.any test) != negated

mutual

/-- Whether the values pass a test, or fail it if `negated`. A list is tested item by item. -/
def check (sight : Sight) (test : Value → Bool) (negated : Bool) : Expression → Eval Bool
  | .list items together _ => do
    let holds ← checkItems sight test together items
    pure (holds != negated)
  | .converted inner target =>
    inner.check sight (fun v => (sight.system.convert v target).any test) negated
  | .variable name => do
    let values ← all sight (.variable name)
    pure (checkValues true test negated values)
  | .loopValue name loop type => do
    let values ← all sight (.loopValue name loop type)
    pure (checkValues true test negated values)
  | .eventValue type => do
    let values ← all sight (.eventValue type)
    pure (checkValues true test negated values)
  | .range low high => do
    let values ← all sight (.range low high)
    pure (checkValues true test negated values)
  | .literal values _ together => pure (checkValues together test negated values)
  | .quoted parts => do
    let values ← all sight (.quoted parts)
    pure (checkValues true test negated values)
  | .declared d use parts => do
    let values ← all sight (.declared d use parts)
    pure (checkValues d.together test negated values)

/-- Whether all items pass a test, or some item does. The first item that decides ends it. -/
def checkItems (sight : Sight) (test : Value → Bool) (together : Bool) :
    List Expression → Eval Bool
  | [] => pure together
  | e :: rest => do
    let holds ← e.check sight test false
    if holds != together then pure holds else checkItems sight test together rest

end

attribute [grind =] check checkItems

end Expression

end TriggerScript

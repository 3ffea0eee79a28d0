import TriggerScript.Syntax.Evaluation
import TriggerScript.Syntax.Expression

/-!
# Conditions, effects and headers

* `Condition` : a comparison of values, or an element that the host declares.
* `Condition.check` : whether it holds.
* `Effect` : what a line of a trigger can do.
* `Action`, `Pace` : the changes that an effect asks for, and how the trigger goes on after it.
* `Effect.perform` : what an effect does, seen from where it stands.
* `Header` : when a trigger runs: when its script is loaded, every so many ticks, or for events
  of some kinds that it accepts.
-/

namespace TriggerScript

/-! ### Conditions -/

/-- Something that can be asked before going on. -/
inductive Condition where
  | comparison (first second : Expression) (relation : Relation) (negated : Bool)
  | declared (d : DeclaredCondition) (use : Use) (parts : List (Option Expression))
  deriving Inhabited

namespace Condition

/-- The words for a comparison. -/
def relationWords : Relation → Bool → String
  | .equal, false => "is"
  | .equal, true => "is not"
  | .notEqual, _ => "is not"
  | .greater, _ => "is greater than"
  | .greaterOrEqual, _ => "is greater than or equal to"
  | .smaller, _ => "is less than"
  | .smallerOrEqual, _ => "is less than or equal to"

/-- The condition as it would be written. -/
def describe (debug : Bool) : Condition → String
  | .comparison first second relation negated =>
    first.describe debug ++ " " ++ relationWords relation negated ++ " " ++ second.describe debug
  | .declared d use parts => use.describe d.name (Expression.describeOptions debug parts)

/-- Whether a value stands in a relation to the targets: to all of them, or to one. -/
def relates (system : TypeSystem) (relation : Relation) (targets : List Value) (together : Bool)
    (value : Value) : Bool :=
  if together then targets.all (system.holds value relation)
  else targets.any (system.holds value relation)

/-- Whether the condition holds. A comparison with nothing fails. -/
def check (sight : Sight) : Condition → Eval Bool
  | .comparison first second relation negated => do
    let targets ← second.all sight
    if targets.isEmpty then pure false
    else first.check sight (relates sight.system relation targets second.together) negated
  | .declared d use parts => do
    failIf d.fault
    match d.tests, parts.head? with
    | some type, some (some e) =>
      e.check sight (fun v => v.typeName == type) (use.mark &&& 1 == 1)
    | _, _ => pure d.outcome

end Condition

/-! ### Effects -/

/-- Something that a line can do. -/
inductive Effect where
  | broadcast (messages : Expression)
  /-- Gives a variable a value; without a value it is deleted. -/
  | set (name : List Part) (value : Expression)
  /-- Adds to a variable; an unset one counts as zero. -/
  | add (amount : Expression) (name : List Part)
  | delete (name : List Part)
  | wait (ticks : Expression)
  /-- Cancels the event or takes that back; on the next tick if a delay may have passed. -/
  | cancelEvent (cancel deferred : Bool)
  | declared (d : DeclaredEffect) (use : Use) (parts : List (Option Expression))
  deriving Inhabited

/-- A change outside the expression at hand. -/
inductive Action where
  | broadcast (message : String)
  | setVariable (name : String) (value : Value)
  | deleteVariable (name : String)
  | setCancelled (cancelled : Bool)
  | setCancelledLater (cancelled : Bool)
  deriving Inhabited

/-- How a trigger goes on: at once, or after a number of ticks. -/
inductive Pace where
  | proceed
  | suspend (ticks : UInt64)
  deriving DecidableEq, Repr, Inhabited

namespace Effect

/-- The effect as it would be written. -/
def describe (debug : Bool) : Effect → String
  | .broadcast messages => "broadcast " ++ messages.describe debug
  | .set name value =>
    "set \x7b" ++ Expression.describeParts debug name ++ "\x7d to " ++ value.describe debug
  | .add amount name =>
    "add " ++ amount.describe debug ++ " to \x7b" ++ Expression.describeParts debug name ++ "\x7d"
  | .delete name => "delete \x7b" ++ Expression.describeParts debug name ++ "\x7d"
  | .wait ticks => "wait " ++ ticks.describe debug ++ " ticks"
  | .cancelEvent cancel _ => if cancel then "cancel the event" else "uncancel the event"
  | .declared d use parts => use.describe d.name (Expression.describeOptions debug parts)

/-- Whether it says that it suspends the trigger. -/
def isDelay : Effect → Bool
  | .wait _ => true
  | .declared d _ _ => d.delays
  | _ => false

/-- The name of a variable at this moment. -/
def nameOf (sight : Sight) (name : List Part) : Eval String := do
  let s ← Expression.textOf sight name
  pure (Text.lowerString s)

/-- The complaint about adding to something that is no number. -/
def addFault (amount : Number) (name : String) (other : Value) : Fault :=
  .runtime ("can't add " ++ Decimal.display amount ++ " to \x7b" ++ name ++
    "\x7d because it holds a " ++ other.typeName ++ " ('" ++ other.toText ++ "')")

/-- The line that a declared effect announces: its name and the values of its parts. -/
def announcement (sight : Sight) : List (Option Expression) → Eval String
  | [] => pure ""
  | none :: rest => do
    let more ← announcement sight rest
    pure (" [-]" ++ more)
  | some e :: rest => do
    let values ← e.all sight
    let more ← announcement sight rest
    pure (" [" ++ sight.system.types.formatList values e.together ++ "]" ++ more)

/-- The changes that the effect asks for and how the trigger goes on. -/
def perform (sight : Sight) : Effect → Eval (List Action × Pace)
  | .broadcast messages => do
    let values ← messages.array sight
    pure (values.map fun v => .broadcast (sight.system.types.format v), .proceed)
  | .set name value => do
    let name ← nameOf sight name
    let value ← value.one? sight
    match value with
    | some v => pure ([.setVariable name v], .proceed)
    | none => pure ([.deleteVariable name], .proceed)
  | .add amount name => do
    let amount ← amount.one? sight
    match amount.bind Value.asNumber? with
    | none => pure ([], .proceed)
    | some amount =>
      let name ← nameOf sight name
      match sight.stored? name with
      | none => pure ([.setVariable name (.number (Number.zero.add amount))], .proceed)
      | some (.number n) => pure ([.setVariable name (.number (n.add amount))], .proceed)
      | some other => fail (addFault amount name other)
  | .delete name => do
    let name ← nameOf sight name
    pure ([.deleteVariable name], .proceed)
  | .wait ticks => do
    let ticks ← ticks.one? sight
    match (ticks.bind Value.asNumber?).filter Decimal.isFinite with
    | some n => pure ([], .suspend (Decimal.toTicks n))
    | none => fail (.runtime "the wait duration is not a number")
  | .cancelEvent cancel deferred =>
    pure ([if deferred then .setCancelledLater cancel else .setCancelled cancel], .proceed)
  | .declared d _ parts => do
    failIf d.fault
    match d.abandons with
    | some message => fail (.abandoned message)
    | none =>
      let line ← announcement sight parts
      pure ([.broadcast (d.name ++ line)],
        match d.suspends with
        | some ticks => .suspend ticks
        | none => .proceed)

end Effect

/-! ### Headers -/

/-- A header that decides about each event. -/
structure Listener where
  /-- The header as it would be written, with more detail if asked for. -/
  describe : Bool → String
  accepts : Occurrence → Bool
  deriving Inhabited

/-- When a trigger runs. -/
inductive Header where
  /-- Once, when its script is loaded. -/
  | onLoad
  /-- Again and again with this many ticks between. -/
  | every (period : UInt64)
  /-- For every event that the listener accepts. -/
  | listens (listener : Listener)
  deriving Inhabited

namespace Header

def describe (debug : Bool) : Header → String
  | .onLoad => "script load"
  | .every period => "every " ++ toString period.toNat ++ " ticks"
  | .listens listener => listener.describe debug

/-- Whether it drives its trigger without events of the host. -/
def drivesItself : Header → Bool
  | .listens _ => false
  | _ => true

end Header

/-- Whether a declared header accepts an event: its first part, if it has constant values, has
to name the event's value of their type. -/
def acceptsByParts (parts : List (Option Expression)) (e : Occurrence) : Bool :=
  match parts.head? with
  | some (some part) =>
    match part.constants? with
    | some values => values.any fun v =>
      match e.value? v.typeName with
      | some w => v.same w
      | none => false
    | none => true
  | _ => true

/-- A header that the host declares. -/
def declaredListener (name : String) (use : Use) (parts : List (Option Expression)) : Listener :=
  { describe := fun debug => use.describe name (Expression.describeOptions debug parts),
    accepts := acceptsByParts parts }

end TriggerScript

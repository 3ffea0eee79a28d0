import TriggerScript.Registry.Basic
import TriggerScript.Vocabulary.Template
import TriggerScript.Vocabulary.Types
import TriggerScript.Vocabulary.Expressions

/-!
# The built-in vocabulary

* `relationOf` : the comparison that marks stand for.
* `cancelEvent` : where events can be cancelled, and whether that has to wait for the next tick.
* `addConditions`, `addEffects` : register the built-in statements.
* `scriptLoad`, `periodic` : the kinds of events that the engine itself brings about.
* `every` : which periods a trigger can have.
* `addHeaders` : registers the built-in headers.
* `addElements` : registers the built-in elements; conditions come before effects, so a line is
  first tried as a condition.
* `builtIn` : the registry of an engine whose host adds nothing.
-/

namespace TriggerScript.Vocabulary

/-! ### Conditions and effects -/

/-- The comparison that the marks of `is greater than` and its kin stand for. -/
def relationOf (mark : Int32) : Relation :=
  let orEqual := mark &&& 4 != 0
  if mark &&& 1 != 0 then if orEqual then .greaterOrEqual else .greater
  else if mark &&& 2 != 0 then if orEqual then .smallerOrEqual else .smaller
  else .equal

/-- Comparisons. The second pattern of `is` is its contracted denial. -/
def comparison (_ : Scope) (c : Capture) : Setup Condition :=
  match c.part? 0, c.part? 1 with
  | some first, some second =>
    let relation := relationOf c.mark
    let negated := c.hasMark 8 || (relation == .equal && c.pattern == 1)
    .accept (.comparison first second relation negated)
  | _, _ => .reject

def broadcast (_ : Scope) (c : Capture) : Setup Effect :=
  match c.part? 0 with
  | some messages => .accept (.broadcast messages)
  | none => .reject

/-- The name of the variable that an effect is about. -/
def targetName (c : Capture) : Setup (List Part) :=
  match c.regexes.head? with
  | some name => variableName name
  | none => .reject

def setVariable (_ : Scope) (c : Capture) : Setup Effect :=
  (targetName c).bind fun name =>
    match c.part? 0 with
    | some value => .accept (.set name value)
    | none => .reject

def addToVariable (_ : Scope) (c : Capture) : Setup Effect :=
  (targetName c).bind fun name =>
    match c.part? 0 with
    | some amount => .accept (.add amount name)
    | none => .reject

def deleteVariable (_ : Scope) (c : Capture) : Setup Effect :=
  (targetName c).map .delete

def wait (_ : Scope) (c : Capture) : Setup Effect :=
  match c.part? 0 with
  | some ticks => .accept (.wait ticks)
  | none => .reject

/-- Cancelling needs an event, all of whose kinds can be cancelled. If a delay may have passed,
the host has dealt with the event already, so the change waits for the next tick. -/
def cancelEvent (scope : Scope) (c : Capture) : Setup Effect :=
  if scope.events.isEmpty then
    .refuse "Events can only be cancelled inside a trigger" .semantic
  else match scope.events.find? fun kind => !kind.cancellable with
    | some kind => .refuse ("A '" ++ kind.name ++ "' event can't be cancelled") .semantic
    | none => .accept (.cancelEvent (c.hasMark 1) scope.delay.isPossible)

/-- Registers the built-in conditions. -/
def addConditions (r : Registration) : Registration :=
  let r := r.addStatement ⟨"comparison",
    ["%number% (is|are) (1¦greater|1¦more|2¦less|2¦smaller) than [4¦or equal to] %number%"],
    .condition comparison⟩
  r.addStatement ⟨"is",
    ["%objects% (is|are) [8¦not] %objects%", "%objects% (isn't|aren't) %objects%"],
    .condition comparison⟩

/-- Registers the built-in effects. -/
def addEffects (r : Registration) : Registration :=
  let r := r.addStatement ⟨"broadcast", ["broadcast %texts%"], .effect broadcast⟩
  let r := r.addStatement ⟨"set", ["set \\\x7b<.+>\\\x7d to %object%"], .effect setVariable⟩
  let r := r.addStatement ⟨"add", ["add %number% to \\\x7b<.+>\\\x7d"], .effect addToVariable⟩
  let r := r.addStatement ⟨"delete", ["(delete|clear) \\\x7b<.+>\\\x7d"], .effect deleteVariable⟩
  let r := r.addStatement ⟨"wait", ["wait [for] %number% tick[s]"], .effect wait⟩
  r.addStatement ⟨"cancel event", ["(1¦cancel|2¦uncancel) [the] event"], .effect cancelEvent⟩

/-! ### Headers -/

def scriptLoad : EventKind := .plain "script load"

def periodic : EventKind := .plain "periodic"

/-- `every` so many `ticks`. The period is a constant of at least one tick. -/
def every (_ : Scope) (c : Capture) : Setup Header :=
  let period := ((c.part? 0).bind (·.constants?)).bind fun values =>
    values.head?.bind Value.asNumber?
  match period with
  | none => .reject
  | some n =>
    if Decimal.isFinite n && Decimal.atMost (.ofNat 1) n then .accept (.every (Decimal.toTicks n))
    else .refuse ("The period must be at least one tick, not " ++ Decimal.display n) .semantic

/-- Registers the built-in headers. -/
def addHeaders (r : Registration) : Registration :=
  let r := r.addHeader ⟨"script load", [scriptLoad], ["[script] load"],
    fun _ _ => .accept .onLoad⟩
  r.addHeader ⟨"periodic", [periodic], ["every %*number% tick[s]"], every⟩

/-! ### The whole vocabulary -/

/-- Registers the built-in elements. -/
def addElements (r : Registration) : Registration :=
  addHeaders (addEffects (addConditions (addExpressions r)))

/-- Registers the built-in types and elements. -/
def addAll (r : Registration) : Except Fault Registration :=
  (addTypes r).map addElements

/-- The registry of the built-in vocabulary. -/
def builtIn : Except Fault Registry :=
  (addAll .empty).bind Registration.close

end TriggerScript.Vocabulary

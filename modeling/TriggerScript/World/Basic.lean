import TriggerScript.Value
import TriggerScript.Text.LetterCase
import TriggerScript.World.Switchboard
import TriggerScript.Agenda.Basic
import TriggerScript.Flow.Walk

/-!
# The world of running triggers

* `Variables` : named values; letter case does not tell names apart.
* `Variables.names` : the names in order.
* `Options` : what a host decides when it sets an engine up.
* `Job` : what the agenda can hold: suspended runs, periodic triggers, and late changes to events.
* `Realm`, `World` : everything that running triggers share, without and with the agenda.
* `Run` : what belongs to one run of a trigger.
-/

namespace TriggerScript

/-! ### Variables -/

/-- Named values. Names are kept in lower case, and no two entries share one. -/
structure Variables where
  entries : List (String × Value)
  deriving Inhabited

namespace Variables

def empty : Variables := ⟨[]⟩

def get? (vs : Variables) (name : String) : Option Value :=
  vs.entries.lookup (Text.lowerString name)

def erase (vs : Variables) (name : String) : Variables :=
  ⟨vs.entries.filter (·.1 != Text.lowerString name)⟩

def set (vs : Variables) (name : String) (value : Value) : Variables :=
  ⟨(Text.lowerString name, value) :: (vs.erase name).entries⟩

/-- Sets a variable that has no value yet, and tells whether it did. -/
def setDefault (vs : Variables) (name : String) (value : Value) : Bool × Variables :=
  if (vs.get? name).isSome then (false, vs) else (true, vs.set name value)

def size (vs : Variables) : Nat := vs.entries.length

def isEmpty (vs : Variables) : Bool := vs.entries.isEmpty

/-- The names, ordered by code points. -/
def names (vs : Variables) : List String :=
  (vs.entries.map (·.1)).mergeSort fun a b => (Text.compareStrings a b).isLE

/-- Names that start like this belong to one run of a trigger. -/
def isLocalName (name : String) : Bool :=
  (Text.lowerString name).toList.head? == some '_'

end Variables

open TriggerScript.Flow

/-! ### Options of an engine -/

/-- How an engine is set up. -/
structure Options where
  /-- How long an event from elsewhere waits for the main thread, in milliseconds. -/
  patience : Nat
  /-- Whether to complain about lists that are joined by commas only. -/
  warnMissingAnd : Bool
  /-- The ending of the names of script files, without the point. -/
  extension : String
  /-- Files and folders whose names start like this are left alone. -/
  disabledStart : String
  deriving DecidableEq, Repr, Inhabited

/-- What holds unless the host decides otherwise. -/
def Options.standard : Options := ⟨5000, true, "sk", "-"⟩

/-! ### The world -/

/-- What belongs to one run of a trigger. -/
structure Run where
  event : Occurrence
  locals : Variables
  /-- Whether the run has been suspended before. -/
  delayed : Bool
  deriving Inhabited

/-- The running loops of a walk. -/
abbrev RunningLoops := List (ItemId × LoopFrame Value Supply)

/-- What the agenda can hold. -/
inductive Job where
  /-- Goes on with a suspended run at an item. -/
  | resume (trigger : Trigger) (run : Run) (loops : RunningLoops) (start : ItemId)
  /-- Runs a periodic trigger. -/
  | periodic (trigger : Trigger)
  /-- Cancels an event or takes that back. -/
  | setCancelled (event : Occurrence) (cancelled : Bool)
  deriving Inhabited

/-- Everything that running triggers share, apart from the agenda. -/
structure Realm where
  registry : Registry
  options : Options
  /-- The variables that all triggers share. -/
  globals : Variables
  switchboard : Switchboard
  /-- The numbers of cancelled events. -/
  cancelled : List Nat
  /-- The numbers of triggers that have been taken out of use. -/
  retired : List TriggerId
  /-- The tasks of periodic triggers. -/
  timers : List (TriggerId × UInt64)
  triggerIds : Counter
  nextEvent : Nat
  /-- The dice of each computation. -/
  dice : Nat → Dice
  /-- How many computations have been made. -/
  computed : Nat
  /-- How many steps a walk may take. -/
  stepLimit : Nat
  /-- How many walks have been given up, having taken all their steps. -/
  unended : Nat
  /-- Messages sent to everyone, latest first. -/
  broadcasts : List String
  /-- Reports of failed runs, latest first. -/
  reports : List String
  /-- How many runs have failed. -/
  failures : Nat
  deriving Inhabited

/-- Everything that running triggers share. -/
structure World where
  agenda : Agenda Job
  realm : Realm
  deriving Inhabited

namespace World

/-- The world before anything has happened. What the dice show and how far walks may go is settled
beforehand. -/
def new (registry : Registry) (options : Options)
    (dice : Nat → Dice := fun _ => .constant 0) (stepLimit : Nat := ampleSteps) : World :=
  { agenda := .empty
    realm := {
      registry, options, globals := .empty, switchboard := .empty, cancelled := [],
      retired := [], timers := [], triggerIds := ⟨1⟩, nextEvent := 0, dice, computed := 0,
      stepLimit, unended := 0, broadcasts := [], reports := [], failures := 0 } }

/-- Changes everything but the agenda. -/
def onRealm (w : World) (f : Realm → Realm) : World := { w with realm := f w.realm }

/-- Takes a number for a new event. -/
def drawEvent (w : World) : Nat × World :=
  (w.realm.nextEvent, w.onRealm fun r => { r with nextEvent := r.nextEvent + 1 })

/-- Whether an event is cancelled. -/
def isCancelled (w : World) (e : Occurrence) : Bool :=
  w.realm.cancelled.contains e.id

/-- Cancels an event or takes that back, if its kind can be cancelled at all, and tells whether
it can. -/
def setCancelled (w : World) (e : Occurrence) (cancelled : Bool) : Bool × World :=
  if e.kind.cancellable then
    let others := w.realm.cancelled.filter (· != e.id)
    (true, w.onRealm fun r => { r with
      cancelled := if cancelled then e.id :: others else others })
  else (false, w)

def broadcast (w : World) (message : String) : World :=
  w.onRealm fun r => { r with broadcasts := message :: r.broadcasts }

/-- Notes that a walk has been given up. -/
def giveUp (w : World) : World :=
  w.onRealm fun r => { r with unended := r.unended + 1 }

/-- Whether a trigger is still in use. -/
def isActive (w : World) (t : Trigger) : Bool :=
  !w.realm.retired.contains t.id

end World

namespace Run

/-- A run that has not begun. -/
def start (event : Occurrence) : Run := ⟨event, .empty, false⟩

/-- The value of a variable, local or global. -/
def lookup? (run : Run) (w : World) (name : String) : Option Value :=
  if Variables.isLocalName name then run.locals.get? name else w.realm.globals.get? name

/-- What expressions can see in a run. -/
def sight (run : Run) (loops : ItemId → Option Value) (w : World) : Sight :=
  { system := w.realm.registry.system, event := run.event, stored? := run.lookup? w,
    loopValue? := loops }

end Run

/-- A run in the world around it. -/
structure Surroundings where
  run : Run
  world : World
  deriving Inhabited

namespace Surroundings

def setVariable (s : Surroundings) (name : String) (value : Value) : Surroundings :=
  if Variables.isLocalName name then
    { s with run := { s.run with locals := s.run.locals.set name value } }
  else { s with world := s.world.onRealm fun r => { r with globals := r.globals.set name value } }

def deleteVariable (s : Surroundings) (name : String) : Surroundings :=
  if Variables.isLocalName name then
    { s with run := { s.run with locals := s.run.locals.erase name } }
  else { s with world := s.world.onRealm fun r => { r with globals := r.globals.erase name } }

/-- Carries out a change that an effect asks for. -/
def apply (s : Surroundings) : Action → Surroundings
  | .broadcast message => { s with world := s.world.broadcast message }
  | .setVariable name value => s.setVariable name value
  | .deleteVariable name => s.deleteVariable name
  | .setCancelled cancelled => { s with world := (s.world.setCancelled s.run.event cancelled).2 }
  | .setCancelledLater cancelled =>
    { s with world := { s.world with
        agenda := (s.world.agenda.once 1 (.setCancelled s.run.event cancelled)).2 } }

/-- The dice that the next computation uses. -/
def dice (s : Surroundings) : Dice := s.world.realm.dice s.world.realm.computed

/-- Notes that a computation has been made. -/
def noteComputed (s : Surroundings) : Surroundings :=
  { s with world := s.world.onRealm fun r => { r with computed := r.computed + 1 } }

/-- Computes something with what expressions can see. Each computation has dice of its own, whether
it fails or not. -/
def eval {α : Type} (s : Surroundings) (loops : ItemId → Option Value) (f : Sight → Eval α) :
    Except Fault α × Surroundings :=
  ((f (s.run.sight loops s.world) s.dice).map (·.1), s.noteComputed)

/-- Performs an effect. -/
def perform (s : Surroundings) (loops : ItemId → Option Value) (e : Effect) :
    Except Fault Pace × Surroundings :=
  match s.eval loops fun sight => e.perform sight with
  | (.ok (actions, pace), s) => (.ok pace, actions.foldl apply s)
  | (.error fault, s) => (.error fault, s)

end Surroundings

/-- What the lines of scripts do. -/
def scriptBehaviour : Behaviour Condition Effect Expression Value Supply Surroundings where
  check site c s := s.eval site.loopValue? fun sight => c.check sight
  act site e s := s.perform site.loopValue? e
  supply site e s := s.eval site.loopValue? fun sight => e.supply sight
  next _ supply s := (supply.next? s.world.realm.registry.system, s)

/-- The state of a walk through a script. -/
abbrev ScriptWalk := WalkState Value Supply Surroundings

end TriggerScript

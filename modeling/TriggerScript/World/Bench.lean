import TriggerScript.Parsing.State
import TriggerScript.World.Basic

/-!
# Trying lines one by one

A bench keeps what reading and what running need, so that single lines can be read and run as if
they stood one below the other in a trigger.

* `Bench` : the state between two lines.
* `Bench.read` : reads something; `Bench.compute` : evaluates something and keeps nothing of it.
* `Bench.pushLoop`, `Bench.advance`, `Bench.popLoop` : loops around the following lines.
* `runThrough` : all walks of one run, each going on where the one before was suspended.
-/

namespace TriggerScript

open TriggerScript.Flow

/-- What reading and running need between two lines. -/
structure Bench where
  state : Parsing.State
  walk : ScriptWalk
  nextLoop : ItemId

namespace Bench

/-- A bench on which an event is at hand. -/
def new (state : Parsing.State) (event : Occurrence) : Bench :=
  ⟨state, .start ⟨.start event, (World.new state.registry .standard).drawEvent.2⟩, 0⟩

/-- The world around. -/
def world (b : Bench) : World := b.walk.world.world

/-- What expressions can see. -/
def sight (b : Bench) : Sight :=
  b.walk.world.run.sight b.walk.loopValue? b.world

/-- Reads something and keeps its messages. -/
def read {α : Type} (b : Bench) (f : Registry → Scope → Attempt α) : Option α × Bench :=
  let (a, state) := b.state.attempt f
  (a, { b with state })

/-- Evaluates something and keeps nothing of it. -/
def compute {α : Type} (b : Bench) (f : Sight → Eval α) : Except Fault α :=
  (b.walk.world.eval b.walk.loopValue? f).1

/-- Performs an effect. -/
def perform (b : Bench) (e : Effect) : Except Fault Pace × Bench :=
  let (pace, world) := b.walk.world.perform b.walk.loopValue? e
  (pace, { b with walk := { b.walk with world } })

/-- Changes the run or the world around it. -/
def change (b : Bench) (f : Surroundings → Surroundings) : Bench :=
  { b with walk := { b.walk with world := f b.walk.world } }

/-- Whether a loop is running. -/
def hasLoop (b : Bench) (id : ItemId) : Bool := b.walk.hasLoop id

/-- The current value of a loop. -/
def loopValue? (b : Bench) (id : ItemId) : Option Value := b.walk.loopValue? id

/-- Moves a loop to its next value. -/
def advance (b : Bench) (id : ItemId) : Bool × Bench :=
  let (moved, walk) := b.walk.advanceLoop (scriptBehaviour.next id) id
  (moved, { b with walk })

/-- Starts a loop around the following lines. -/
def pushLoop (b : Bench) (type : String) (values : List Value) : ItemId × Bench :=
  (b.nextLoop, {
    state := { b.state with loops := b.state.loops ++ [⟨b.nextLoop, type⟩] }
    walk := b.walk.startLoop b.nextLoop ⟨.values values, []⟩
    nextLoop := b.nextLoop + 1 })

/-- The innermost loop. -/
def innermost? (b : Bench) : Option ItemId := b.state.loops.getLast?.map (·.id)

/-- Ends the innermost loop. -/
def popLoop (b : Bench) : Bench :=
  match b.innermost? with
  | none => b
  | some id =>
    { b with
      state := { b.state with loops := b.state.loops.dropLast }
      walk := b.walk.endLoop id }

end Bench

/-- Notes that a run has been suspended. -/
def markDelayed (s : ScriptWalk) : ScriptWalk :=
  { s with world := { s.world with run := { s.world.run with delayed := true } } }

/-- The first walks of a run, at most so many. A suspended walk goes on at once. A walk that does
not end is left out. -/
def runThrough (g : Parsing.ScriptGraph) : Nat → Option ItemId → ScriptWalk →
    List (Outcome × ScriptWalk)
  | 0, _, _ => []
  | n + 1, start, s =>
    match walkWithin g scriptBehaviour s.world.world.realm.stepLimit start s with
    | (none, _) => []
    | (some outcome, s) =>
      match outcome with
      | .suspended none _ => [(outcome, markDelayed s)]
      | .suspended (some item) _ =>
        let s := markDelayed s
        (outcome, s) :: runThrough g n (some item) s
      | _ => [(outcome, s)]

end TriggerScript

import TriggerScript.Flow.Graph
import TriggerScript.Syntax.Statement

/-!
# Walking through a graph

A walk goes from item to item. The running loops are kept apart from everything else that a walk
changes, so what conditions, effects and loops do is left open.

* `Site` : where a line stands in a walk.
* `Behaviour` : what conditions, effects and loops do.
* `WalkState` : the running loops and the world around.
* `step` : what one item does, and where the walk goes from there.
* `walkWithin` : steps up to an end, but at most so many.
-/

namespace TriggerScript.Flow

variable {C E X V S W : Type}

/-- Where a line stands: its item, and the current values of the running loops. -/
structure Site (V : Type) where
  item : Option ItemId
  loopValue? : ItemId → Option V

/-- What the lines of a trigger do. `V` are values, `S` supplies of values, and `W` is the world
around. -/
structure Behaviour (C E X V S W : Type) where
  check : Site V → C → W → Except Fault Bool × W
  act : Site V → E → W → Except Fault Pace × W
  /-- The values that a loop is about to run over. -/
  supply : Site V → X → W → Except Fault S × W
  /-- The next value of the supply of a loop. -/
  next : ItemId → S → W → Option (V × S) × W

/-- A running loop: the values left, and the current one. -/
structure LoopFrame (V S : Type) where
  supply : S
  current : Option V

/-- The state of a walk. -/
structure WalkState (V S W : Type) where
  loops : List (ItemId × LoopFrame V S)
  /-- The item that was reached last. -/
  place : Option ItemId
  world : W

namespace WalkState

/-- A walk that has not begun. -/
def start (world : W) : WalkState V S W := ⟨[], none, world⟩

def frame? (s : WalkState V S W) (id : ItemId) : Option (LoopFrame V S) :=
  s.loops.lookup id

/-- Whether a loop is running. -/
def hasLoop (s : WalkState V S W) (id : ItemId) : Bool :=
  (s.frame? id).isSome

/-- The current value of a running loop. -/
def loopValue? (s : WalkState V S W) (id : ItemId) : Option V :=
  (s.frame? id).bind (·.current)

/-- Ends a loop. -/
def endLoop (s : WalkState V S W) (id : ItemId) : WalkState V S W :=
  { s with loops := s.loops.filter (·.1 != id) }

/-- Puts a loop into a state. -/
def setFrame (s : WalkState V S W) (id : ItemId) (frame : LoopFrame V S) : WalkState V S W :=
  { s with loops := (id, frame) :: (s.endLoop id).loops }

/-- Starts a loop afresh. -/
def startLoop (s : WalkState V S W) (id : ItemId) (supply : S) : WalkState V S W :=
  s.setFrame id ⟨supply, none⟩

/-- Moves a running loop to its next value and tells whether there is one. -/
def advanceLoop (next : S → W → Option (V × S) × W) (s : WalkState V S W) (id : ItemId) :
    Bool × WalkState V S W :=
  match s.frame? id with
  | none => (false, s)
  | some frame =>
    match next frame.supply s.world with
    | (some (v, rest), world) => (true, { s.setFrame id ⟨rest, some v⟩ with world })
    | (none, world) => (false, { s.setFrame id ⟨frame.supply, none⟩ with world })

/-- Where the item that was reached last stands. -/
def site (s : WalkState V S W) : Site V := ⟨s.place, s.loopValue?⟩

/-- Runs something in the world around. -/
def inWorld {α : Type} (s : WalkState V S W) (f : Site V → W → α × W) : α × WalkState V S W :=
  let (a, world) := f s.site s.world
  (a, { s with world })

end WalkState

/-- How a walk ends. -/
inductive Outcome where
  | finished
  /-- A condition of its own failed. -/
  | stopped
  /-- The walk goes on at an item after some ticks. -/
  | suspended (resume : Option ItemId) (ticks : UInt64)
  | failed (fault : Fault)
  deriving DecidableEq, Repr, Inhabited

/-- Where a walk goes from an item. -/
inductive Move where
  | go (next : Option ItemId)
  | halt (outcome : Outcome)
  deriving DecidableEq, Repr, Inhabited

/-- The items of the first branch that is taken, if any. -/
def chooseBranch (b : Behaviour C E X V S W) (s : WalkState V S W) :
    List (Option C × List ItemId) → Except Fault (Option (List ItemId)) × WalkState V S W
  | [] => (.ok none, s)
  | (none, body) :: _ => (.ok (some body), s)
  | (some c, body) :: rest =>
    match s.inWorld fun site => b.check site c with
    | (.error fault, s) => (.error fault, s)
    | (.ok true, s) => (.ok (some body), s)
    | (.ok false, s) => chooseBranch b s rest

/-- What a loop does when the walk comes to it: it takes its values if it is not running, and
goes on with the next of them. -/
def stepLoop (b : Behaviour C E X V S W) (s : WalkState V S W) (id : ItemId) (values : X)
    (body : List ItemId) (next : Option ItemId) : Move × WalkState V S W :=
  let entered : Except Fault Unit × WalkState V S W :=
    if s.hasLoop id then (.ok (), s)
    else match s.inWorld fun site => b.supply site values with
      | (.error fault, s) => (.error fault, s)
      | (.ok supply, s) => (.ok (), s.startLoop id supply)
  match entered with
  | (.error fault, s) => (.halt (.failed fault), s)
  | (.ok (), s) =>
    match s.advanceLoop (b.next id) id with
    | (true, s) => (.go (body.head?.or (some id)), s)
    | (false, s) => (.go next, s.endLoop id)

/-- What an item does, and where the walk goes from there. -/
def stepItem (b : Behaviour C E X V S W) (s : WalkState V S W) (id : ItemId)
    (item : Item C E X) : Move × WalkState V S W :=
  match item.kind with
  | .check c =>
    match s.inWorld fun site => b.check site c with
    | (.error fault, s) => (.halt (.failed fault), s)
    | (.ok true, s) => (.go item.next, s)
    | (.ok false, s) => (.halt .stopped, s)
  | .act e =>
    match s.inWorld fun site => b.act site e with
    | (.error fault, s) => (.halt (.failed fault), s)
    | (.ok .proceed, s) => (.go item.next, s)
    | (.ok (.suspend ticks), s) => (.halt (.suspended item.next ticks), s)
  | .choose branches =>
    match chooseBranch b s branches with
    | (.error fault, s) => (.halt (.failed fault), s)
    | (.ok chosen, s) => (.go ((chosen.bind List.head?).or item.next), s)
  | .loop values body => stepLoop b s id values body item.next
  | .whileHolds c body =>
    match s.inWorld fun site => b.check site c with
    | (.error fault, s) => (.halt (.failed fault), s)
    | (.ok true, s) => (.go (body.head?.or (some id)), s)
    | (.ok false, s) => (.go item.next, s)

/-- One step of a walk from an item. A number that no item has ends the walk. -/
def step (g : Graph C E X) (b : Behaviour C E X V S W) (s : WalkState V S W) (id : ItemId) :
    Move × WalkState V S W :=
  let s := { s with place := some id }
  match g.get? id with
  | some item => stepItem b s id item
  | none => (.halt .finished, s)

/-- Walks on until the walk ends, but at most so many steps. Without an outcome the walk has not
ended: all steps have been taken, and there is more to come. -/
def walkWithin (g : Graph C E X) (b : Behaviour C E X V S W) :
    Nat → Option ItemId → WalkState V S W → Option Outcome × WalkState V S W
  | _, none, s => (some .finished, { s with place := none })
  | 0, some _, s => (none, s)
  | n + 1, some id, s =>
    match step g b s id with
    | (.go next, s) => walkWithin g b n next s
    | (.halt outcome, s) => (some outcome, s)

/-- More steps than any walk can take in practice. -/
def ampleSteps : Nat := 4611686018427387904

end TriggerScript.Flow

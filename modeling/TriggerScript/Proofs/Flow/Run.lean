import TriggerScript.Flow.Walk

/-!
# Whole runs

A walk that is suspended goes on later from where it stopped, in the state in which it stopped. A
run is all walks from the start to an end.

* `runWithin` : a run of a bounded number of steps.
* `runWithin_eq_resumeWithin` : it is one walk after the other.
* `Event`, `Behaviour.traced` : a record of what the lines of a trigger do.
-/

namespace TriggerScript.Flow

variable {C E X V S W : Type}

section Run

/-- Walks on, also after each suspension, but at most so many steps altogether. `meanwhile` is what
happens to the world while the walk is suspended. -/
def runWithin (g : Graph C E X) (b : Behaviour C E X V S W) (meanwhile : UInt64 → W → W) :
    Nat → Option ItemId → WalkState V S W → Option Outcome × WalkState V S W
  | _, none, s => (some .finished, { s with place := none })
  | 0, some _, s => (none, s)
  | n + 1, some id, s =>
    match step g b s id with
    | (.go next, s) => runWithin g b meanwhile n next s
    | (.halt (.suspended resume ticks), s) =>
      runWithin g b meanwhile n resume { s with world := meanwhile ticks s.world }
    | (.halt .finished, s) => (some .finished, s)
    | (.halt .stopped, s) => (some .stopped, s)
    | (.halt (.failed fault), s) => (some (.failed fault), s)

/-- How many of some steps a walk leaves. -/
def stepsLeft (g : Graph C E X) (b : Behaviour C E X V S W) :
    Nat → Option ItemId → WalkState V S W → Nat
  | n, none, _ => n
  | 0, some _, _ => 0
  | n + 1, some id, s =>
    match step g b s id with
    | (.go next, s) => stepsLeft g b n next s
    | (.halt _, _) => n

/-- What comes of a walk that leaves some steps: if it was suspended, a further run in the state in
which it stopped. -/
def resumeWithin (g : Graph C E X) (b : Behaviour C E X V S W) (meanwhile : UInt64 → W → W)
    (left : Nat) : Option Outcome × WalkState V S W → Option Outcome × WalkState V S W
  | (some (.suspended resume ticks), s) =>
    runWithin g b meanwhile left resume { s with world := meanwhile ticks s.world }
  | ended => ended

/-- **A run is one walk after the other.** -/
theorem runWithin_eq_resumeWithin (g : Graph C E X) (b : Behaviour C E X V S W)
    (meanwhile : UInt64 → W → W) (n : Nat) (start : Option ItemId) (s : WalkState V S W) :
    runWithin g b meanwhile n start s =
      resumeWithin g b meanwhile (stepsLeft g b n start s) (walkWithin g b n start s) := by
  induction n generalizing start s with
  | zero =>
    cases start with
    | none => rfl
    | some id => rfl
  | succ n ih =>
    cases start with
    | none => rfl
    | some id =>
      simp only [runWithin, walkWithin, stepsLeft]
      rcases step g b s id with ⟨move, s'⟩
      cases move with
      | go next => exact ih next s'
      | halt outcome => cases outcome <;> rfl

end Run

/-! ### Records -/

/-- What a line of a trigger has done, and how that came out. -/
inductive Event (C E X V : Type) where
  | checked (site : Site V) (c : C) (result : Except Fault Bool)
  | acted (site : Site V) (e : E) (result : Except Fault Pace)
  /-- A loop has fetched its values. -/
  | fetched (site : Site V) (x : X) (result : Except Fault Unit)
  /-- A loop has taken its next value, or there is none. -/
  | bound (loop : ItemId) (value : Option V)

/-- Does something and puts it on record. -/
def recording {α : Type} (f : W → α × W) (event : α → Event C E X V)
    (w : W × List (Event C E X V)) : α × (W × List (Event C E X V)) :=
  let (a, world) := f w.1
  (a, (world, w.2 ++ [event a]))

/-- The same behaviour, which also keeps a record of everything that is done, in order. -/
def Behaviour.traced (b : Behaviour C E X V S W) :
    Behaviour C E X V S (W × List (Event C E X V)) where
  check site c := recording (b.check site c) fun result => .checked site c result
  act site e := recording (b.act site e) fun result => .acted site e result
  supply site x := recording (b.supply site x) fun result =>
    .fetched site x (result.map fun _ => ())
  next id supply := recording (b.next id supply) fun result => .bound id (result.map Prod.fst)

end TriggerScript.Flow

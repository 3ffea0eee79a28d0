import TriggerScript.Flow.Walk
import TriggerScript.Flow.Graph

/-!
# Running the steps of a trigger

What a trigger means, said by its steps alone. A step is run inside a block, a block runs its
steps in order, and what surrounds a step is known from where it stands. Every visit to a line is
one step of a run; the number of steps is bounded, so that runs without an end have a meaning too.

* `Ran` : what becomes of a run.
* `forEach`, `repeatWhile` : the rounds of a loop.
* `runBlock` : the steps of a block.
* `interpret` : a whole trigger.
-/

namespace TriggerScript.Flow

variable {C E X V S W : Type}

/-- What becomes of a run of at most `n` steps. -/
inductive Ran (n : Nat) (W : Type) where
  /-- It went through, and some of its steps are left. -/
  | through (left : Nat) (h : left ≤ n) (world : W)
  /-- It is over, and nothing more is run. -/
  | ended (outcome : Outcome) (world : W)
  /-- Its steps did not suffice. -/
  | cut (world : W)

namespace Ran

variable {m n : Nat}

/-- The same with more steps at the start. -/
def weaken (h : m ≤ n) : Ran m W → Ran n W
  | .through left hleft w => .through left (Nat.le_trans hleft h) w
  | .ended outcome w => .ended outcome w
  | .cut w => .cut w

/-- Goes on with the steps that are left. -/
def andThen (r : Ran n W) (f : (left : Nat) → W → Ran left W) : Ran n W :=
  match r with
  | .through left h w => (f left w).weaken h
  | .ended outcome w => .ended outcome w
  | .cut w => .cut w

/-- Takes one of the steps. -/
def spending (n : Nat) (w : W) (f : (left : Nat) → Ran left W) : Ran n W :=
  match n with
  | 0 => .cut w
  | left + 1 => (f left).weaken left.le_succ

/-- How a run ends and what it leaves behind, if it goes on with `k`. -/
def finish (r : Ran n W) (k : Nat → W → Option Outcome × W) : Option Outcome × W :=
  match r with
  | .through left _ w => k left w
  | .ended outcome w => (some outcome, w)
  | .cut w => (none, w)

variable {k : Nat → W → Option Outcome × W}

@[simp] theorem finish_weaken (h : m ≤ n) (r : Ran m W) : (r.weaken h).finish k = r.finish k := by
  cases r <;> rfl

@[simp] theorem finish_andThen (r : Ran n W) (f : (left : Nat) → W → Ran left W) :
    (r.andThen f).finish k = r.finish fun left w => (f left w).finish k := by
  cases r with
  | through left h w => exact finish_weaken h (f left w)
  | ended outcome w => rfl
  | cut w => rfl

@[simp] theorem finish_spending_succ (w : W) (f : (left : Nat) → Ran left W) :
    (spending (n + 1) w f).finish k = (f n).finish k :=
  finish_weaken n.le_succ (f n)

end Ran

/-- Runs a body for each value of a supply. To come back to the loop is a step. -/
def forEach (next : S → W → Option (V × S) × W) (body : V → (n : Nat) → W → Ran n W)
    (supply : S) (n : Nat) (w : W) : Ran n W :=
  match next supply w with
  | (none, w) => .through n n.le_refl w
  | (some (v, rest), w) =>
    match body v n w with
    | .through 0 _ w => .cut w
    | .through (left + 1) h w => (forEach next body rest left w).weaken (Nat.le_of_succ_le h)
    | .ended outcome w => .ended outcome w
    | .cut w => .cut w
termination_by n

/-- Runs a body as long as a test holds. To come back to the test is a step. -/
def repeatWhile (test : W → Except Fault Bool × W) (body : (n : Nat) → W → Ran n W)
    (n : Nat) (w : W) : Ran n W :=
  match test w with
  | (.error fault, w) => .ended (.failed fault) w
  | (.ok false, w) => .through n n.le_refl w
  | (.ok true, w) =>
    match body n w with
    | .through 0 _ w => .cut w
    | .through (left + 1) h w => (repeatWhile test body left w).weaken (Nat.le_of_succ_le h)
    | .ended outcome w => .ended outcome w
    | .cut w => .cut w
termination_by n

section Interpreter

/-! `meanwhile` is what happens to the world while a run is suspended. -/

variable (b : Behaviour C E X V S W) (meanwhile : UInt64 → W → W)

mutual

/-- Runs a step, given the values of the loops that it stands inside. -/
def runStep (values : ItemId → Option V) (n : Nat) (w : W) : Step C E X → Ran n W
  | .check id _ c => .spending n w fun n =>
    match b.check ⟨some id, values⟩ c w with
    | (.error fault, w) => .ended (.failed fault) w
    | (.ok true, w) => .through n n.le_refl w
    | (.ok false, w) => .ended .stopped w
  | .act id _ e => .spending n w fun n =>
    match b.act ⟨some id, values⟩ e w with
    | (.error fault, w) => .ended (.failed fault) w
    | (.ok .proceed, w) => .through n n.le_refl w
    | (.ok (.suspend ticks), w) => .through n n.le_refl (meanwhile ticks w)
  | .choose id _ branches => .spending n w fun n => runBranches id values n w branches
  | .loop id _ x body => .spending n w fun n =>
    match b.supply ⟨some id, values⟩ x w with
    | (.error fault, w) => .ended (.failed fault) w
    | (.ok supply, w) =>
      forEach (b.next id)
        (fun v n w => runBlock (fun i => if i = id then some v else values i) n w body)
        supply n w
  | .whileHolds id _ c body => .spending n w fun n =>
    repeatWhile (b.check ⟨some id, values⟩ c) (fun n w => runBlock values n w body) n w

/-- Runs the steps of a block in order. -/
def runBlock (values : ItemId → Option V) (n : Nat) (w : W) : List (Step C E X) → Ran n W
  | [] => .through n n.le_refl w
  | step :: rest => (runStep values n w step).andThen fun n w => runBlock values n w rest

/-- Runs the first branch whose condition holds, or none. -/
def runBranches (id : ItemId) (values : ItemId → Option V) (n : Nat) (w : W) :
    List (Branch C E X) → Ran n W
  | [] => .through n n.le_refl w
  | .mk none body :: _ => runBlock values n w body
  | .mk (some c) body :: rest =>
    match b.check ⟨some id, values⟩ c w with
    | (.error fault, w) => .ended (.failed fault) w
    | (.ok true, w) => runBlock values n w body
    | (.ok false, w) => runBranches id values n w rest

end

/-- Runs a whole trigger, but at most so many steps. -/
def interpret (n : Nat) (block : List (Step C E X)) (w : W) : Option Outcome × W :=
  (runBlock b meanwhile (fun _ => none) n w block).finish fun _ w => (some .finished, w)

end Interpreter

end TriggerScript.Flow

import TriggerScript.Flow.Walk

/-!
# Changes that a walk does not notice

If what the lines of a trigger do does not depend on a part of the world, and leaves a change of it
alone, then so does a whole walk.

* `Behaviour.Ignores` : a change of the world makes no difference to what lines do.
* `step_mapWorld` : it makes none to a step.
* `walkWithin_mapWorld` : it makes none to a walk.
-/

namespace TriggerScript.Flow

variable {C E X V S W : Type}

/-- Changes the world around a walk. -/
def WalkState.mapWorld (f : W → W) (s : WalkState V S W) : WalkState V S W :=
  { s with world := f s.world }

/-- A change of the world makes no difference to what lines do, and is still there afterwards. -/
structure Behaviour.Ignores (b : Behaviour C E X V S W) (f : W → W) : Prop where
  check : ∀ site c w, b.check site c (f w) = (b.check site c w).map id f
  act : ∀ site e w, b.act site e (f w) = (b.act site e w).map id f
  supply : ∀ site x w, b.supply site x (f w) = (b.supply site x w).map id f
  next : ∀ id' supply w, b.next id' supply (f w) = (b.next id' supply w).map id f

variable {b : Behaviour C E X V S W} {f : W → W}

theorem inWorld_mapWorld {α : Type} {g : Site V → W → α × W}
    (hg : ∀ site w, g site (f w) = (g site w).map id f) (s : WalkState V S W) :
    (s.mapWorld f).inWorld g = (s.inWorld g).map id (WalkState.mapWorld f) := by
  have hsite : (s.mapWorld f).site = s.site := rfl
  have hworld : (s.mapWorld f).world = f s.world := rfl
  simp only [WalkState.inWorld, hsite, hworld, hg]
  rfl

theorem advanceLoop_mapWorld {next : S → W → Option (V × S) × W}
    (hnext : ∀ supply w, next supply (f w) = (next supply w).map id f) (s : WalkState V S W)
    (id' : ItemId) : (s.mapWorld f).advanceLoop next id' =
      (s.advanceLoop next id').map id (WalkState.mapWorld f) := by
  have hframe : (s.mapWorld f).frame? id' = s.frame? id' := rfl
  simp only [WalkState.advanceLoop, hframe]
  cases s.frame? id' with
  | none => rfl
  | some frame =>
    have hworld : (s.mapWorld f).world = f s.world := rfl
    simp only [hworld, hnext]
    rcases next frame.supply s.world with ⟨_ | ⟨v, rest⟩, w⟩ <;> rfl

namespace Behaviour.Ignores

variable (h : b.Ignores f)

include h

theorem chooseBranch_mapWorld (branches : List (Option C × List ItemId)) (s : WalkState V S W) :
    chooseBranch b (s.mapWorld f) branches =
      (chooseBranch b s branches).map id (WalkState.mapWorld f) := by
  induction branches generalizing s with
  | nil => rfl
  | cons branch rest ih =>
    obtain ⟨c, body⟩ := branch
    cases c with
    | none => rfl
    | some c =>
      simp only [chooseBranch, inWorld_mapWorld (fun site => h.check site c)]
      rcases s.inWorld fun site => b.check site c with ⟨fault | _ | _, s'⟩
      · rfl
      · exact ih s'
      · rfl

theorem stepLoop_mapWorld (s : WalkState V S W) (id' : ItemId) (values : X) (body : List ItemId)
    (next : Option ItemId) : stepLoop b (s.mapWorld f) id' values body next =
      (stepLoop b s id' values body next).map id (WalkState.mapWorld f) := by
  have hloop : (s.mapWorld f).hasLoop id' = s.hasLoop id' := rfl
  have hadvance (s : WalkState V S W) := advanceLoop_mapWorld (h.next id') s id'
  simp only [stepLoop, hloop, inWorld_mapWorld (fun site => h.supply site values)]
  cases s.hasLoop id' with
  | true =>
    simp only [if_true, hadvance]
    rcases s.advanceLoop (b.next id') id' with ⟨_ | _, s'⟩ <;> rfl
  | false =>
    simp only [Bool.false_eq_true, if_false]
    rcases s.inWorld fun site => b.supply site values with ⟨fault | supply, s'⟩
    · rfl
    · have hstart : (s'.mapWorld f).startLoop id' supply = (s'.startLoop id' supply).mapWorld f :=
        rfl
      simp only [Prod.map, id, hstart, hadvance]
      rcases (s'.startLoop id' supply).advanceLoop (b.next id') id' with ⟨_ | _, s''⟩ <;> rfl

theorem stepItem_mapWorld (s : WalkState V S W) (id' : ItemId) (item : Item C E X) :
    stepItem b (s.mapWorld f) id' item =
      (stepItem b s id' item).map id (WalkState.mapWorld f) := by
  cases hkind : item.kind with
  | check c =>
    simp only [stepItem, hkind, inWorld_mapWorld (fun site => h.check site c)]
    rcases s.inWorld fun site => b.check site c with ⟨fault | _ | _, s'⟩ <;> rfl
  | act e =>
    simp only [stepItem, hkind, inWorld_mapWorld (fun site => h.act site e)]
    rcases s.inWorld fun site => b.act site e with ⟨fault | _ | _, s'⟩ <;> rfl
  | choose branches =>
    simp only [stepItem, hkind, h.chooseBranch_mapWorld]
    rcases chooseBranch b s branches with ⟨fault | chosen, s'⟩ <;> rfl
  | loop values body =>
    simp only [stepItem, hkind]
    exact h.stepLoop_mapWorld s id' values body item.next
  | whileHolds c body =>
    simp only [stepItem, hkind, inWorld_mapWorld (fun site => h.check site c)]
    rcases s.inWorld fun site => b.check site c with ⟨fault | _ | _, s'⟩ <;> rfl

theorem step_mapWorld (g : Graph C E X) (s : WalkState V S W) (id' : ItemId) :
    step g b (s.mapWorld f) id' = (step g b s id').map id (WalkState.mapWorld f) := by
  simp only [step]
  split
  · exact h.stepItem_mapWorld { s with place := some id' } id' _
  · rfl

/-- **A change that lines do not notice is not noticed by a walk.** -/
theorem walkWithin_mapWorld (g : Graph C E X) (n : Nat) (start : Option ItemId)
    (s : WalkState V S W) : walkWithin g b n start (s.mapWorld f) =
      (walkWithin g b n start s).map id (WalkState.mapWorld f) := by
  induction n generalizing start s with
  | zero => cases start <;> rfl
  | succ n ih =>
    cases start with
    | none => rfl
    | some id' =>
      simp only [walkWithin, h.step_mapWorld]
      rcases step g b s id' with ⟨next | outcome, s'⟩
      · exact ih next s'
      · rfl

end Behaviour.Ignores

end TriggerScript.Flow

import TriggerScript.Proofs.Flow.Interpreter
import TriggerScript.Proofs.Flow.Layout
import TriggerScript.Proofs.Flow.Run

/-!
# Walks run the steps of a trigger

A walk only follows numbers and keeps the running loops in a list. From the first item of a block
it nevertheless does what the interpreter does with the block, and then goes on behind it. The
running loops are those that the block stands inside; behind a loop the list is what it was before.

* `observed` : what is seen of a run.
* `observed_forEach`, `observed_repeatWhile` : the rounds of a loop.
* `observed_layBlock` : a run from the first item of a block.
* `observe_runWithin_ofBlock` : a whole run.
-/

namespace TriggerScript.Flow

variable {C E X V S W : Type}

/-- How a run ends and what it leaves behind. -/
def observe (r : Option Outcome × WalkState V S W) : Option Outcome × W :=
  (r.1, r.2.world)

/-- The values of running loops. -/
def loopValues (loops : List (ItemId × LoopFrame V S)) (id : ItemId) : Option V :=
  (loops.lookup id).bind (·.current)

/-- Only loops before an item are running. -/
def RunningBefore (n : ItemId) (loops : List (ItemId × LoopFrame V S)) : Prop :=
  ∀ loop ∈ loops, loop.1 < n

section Loops

variable {loops : List (ItemId × LoopFrame V S)} {n m id : ItemId}

theorem RunningBefore.mono (h : RunningBefore n loops) (hnm : n ≤ m) : RunningBefore m loops :=
  fun loop hloop => (h loop hloop).trans_le hnm

theorem RunningBefore.cons (h : RunningBefore id loops) (frame : LoopFrame V S) :
    RunningBefore (id + 1) ((id, frame) :: loops) :=
  List.forall_mem_cons.2 ⟨id.lt_succ_self, h.mono id.le_succ⟩

theorem RunningBefore.lookup_eq_none (h : RunningBefore id loops) : loops.lookup id = none := by
  rw [List.lookup_eq_none_iff]
  intro loop hloop
  simpa using (h loop hloop).ne'

theorem RunningBefore.filter_eq (h : RunningBefore id loops) :
    loops.filter (·.1 != id) = loops := by
  rw [List.filter_eq_self]
  intro loop hloop
  simpa using (h loop hloop).ne

theorem loopValues_cons (rest : S) (v : V) :
    loopValues ((id, ⟨rest, some v⟩) :: loops) =
      fun i => if i = id then some v else loopValues loops i := by
  funext i
  by_cases h : i = id
  · subst h
    simp [loopValues]
  · have hne : (i == id) = false := by simpa using h
    simp [loopValues, List.lookup_cons, hne, h]

end Loops

section Observed

variable (g : Graph C E X) (b : Behaviour C E X V S W) (meanwhile : UInt64 → W → W)

/-- What is seen of a run from an item on. -/
def observed (n : Nat) (start : Option ItemId) (loops : List (ItemId × LoopFrame V S)) (w : W) :
    Option Outcome × W :=
  observe (runWithin g b meanwhile n start ⟨loops, none, w⟩)

variable {g b meanwhile} {n : Nat} {id : ItemId} {loops : List (ItemId × LoopFrame V S)} {w : W}

theorem inWorld_mk {α : Type} (f : Site V → W → α × W) :
    (⟨loops, some id, w⟩ : WalkState V S W).inWorld f =
      ((f ⟨some id, loopValues loops⟩ w).1,
        ⟨loops, some id, (f ⟨some id, loopValues loops⟩ w).2⟩) := rfl

/-- Where a walk was before does not matter. -/
theorem observe_runWithin (start : Option ItemId) (s : WalkState V S W) :
    observe (runWithin g b meanwhile n start s) =
      observed g b meanwhile n start s.loops s.world := by
  cases start with
  | none => cases n <;> rfl
  | some id => cases n <;> rfl

theorem observed_none : observed g b meanwhile n none loops w = (some .finished, w) := by
  cases n <;> rfl

/-- What is seen of a run after a move. -/
def observedMove (g : Graph C E X) (b : Behaviour C E X V S W) (meanwhile : UInt64 → W → W)
    (n : Nat) (r : Move × WalkState V S W) : Option Outcome × W :=
  match r with
  | (.go next, s) => observed g b meanwhile n next s.loops s.world
  | (.halt (.suspended resume ticks), s) =>
    observed g b meanwhile n resume s.loops (meanwhile ticks s.world)
  | (.halt outcome, s) => (some outcome, s.world)

theorem observed_succ {item : Item C E X} (hitem : g.get? id = some item) :
    observed g b meanwhile (n + 1) (some id) loops w =
      observedMove g b meanwhile n (stepItem b ⟨loops, some id, w⟩ id item) := by
  simp only [observed, runWithin, step, hitem]
  rcases stepItem b ⟨loops, some id, w⟩ id item with ⟨move, s⟩
  cases move with
  | go next => exact observe_runWithin next s
  | halt outcome =>
    cases outcome with
    | suspended resume ticks => exact observe_runWithin resume _
    | finished => rfl
    | stopped => rfl
    | failed fault => rfl

end Observed

/-! ### Lines of their own -/

section Lines

variable {g : Graph C E X} {b : Behaviour C E X V S W} {meanwhile : UInt64 → W → W} {id : ItemId}
  {line : Nat} {next parent : Option ItemId} {loops : List (ItemId × LoopFrame V S)}

theorem observed_check {c : C} (hitem : g.get? id = some ⟨.check c, next, parent, line⟩)
    (n : Nat) (w : W) :
    observed g b meanwhile n (some id) loops w =
      (runStep b meanwhile (loopValues loops) n w (.check id line c : Step C E X)).finish
        fun left w => observed g b meanwhile left next loops w := by
  cases n with
  | zero => rfl
  | succ n =>
    rw [observed_succ hitem, runStep, Ran.finish_spending_succ]
    simp only [stepItem, inWorld_mk]
    rcases b.check ⟨some id, loopValues loops⟩ c w with ⟨fault | passed, w'⟩
    · rfl
    · cases passed <;> rfl

theorem observed_act {e : E} (hitem : g.get? id = some ⟨.act e, next, parent, line⟩)
    (n : Nat) (w : W) :
    observed g b meanwhile n (some id) loops w =
      (runStep b meanwhile (loopValues loops) n w (.act id line e : Step C E X)).finish
        fun left w => observed g b meanwhile left next loops w := by
  cases n with
  | zero => rfl
  | succ n =>
    rw [observed_succ hitem, runStep, Ran.finish_spending_succ]
    simp only [stepItem, inWorld_mk]
    rcases b.act ⟨some id, loopValues loops⟩ e w with ⟨fault | pace, w'⟩
    · rfl
    · cases pace <;> rfl

end Lines

/-! ### Rounds of loops -/

section Rounds

variable {g : Graph C E X} {b : Behaviour C E X V S W} {meanwhile : UInt64 → W → W} {id : ItemId}
  {line : Nat} {next parent : Option ItemId} {loops : List (ItemId × LoopFrame V S)}

/-- A running loop moves on to its next value, or ends. -/
theorem stepLoop_running (hloops : RunningBefore id loops) (values : X) (body : List ItemId)
    (supply : S) (current : Option V) (w : W) :
    stepLoop b ⟨(id, ⟨supply, current⟩) :: loops, some id, w⟩ id values body next =
      match b.next id supply w with
      | (some (v, rest), w) =>
        (.go (body.head?.or (some id)), ⟨(id, ⟨rest, some v⟩) :: loops, some id, w⟩)
      | (none, w) => (.go next, ⟨loops, some id, w⟩) := by
  have hframe : ∀ w, (⟨(id, ⟨supply, current⟩) :: loops, some id, w⟩ : WalkState V S W).frame? id =
      some ⟨supply, current⟩ := fun w => List.lookup_cons_self
  simp only [stepLoop, WalkState.hasLoop, WalkState.advanceLoop, hframe, Option.isSome_some,
    if_true]
  rcases b.next id supply w with ⟨found, w'⟩
  cases found with
  | none => simp [WalkState.setFrame, WalkState.endLoop, hloops.filter_eq]
  | some found => simp [WalkState.setFrame, WalkState.endLoop, hloops.filter_eq]

/-- A loop that is not running fetches its values and is then a running loop. -/
theorem stepLoop_fresh (hloops : RunningBefore id loops) (values : X) (body : List ItemId)
    (w : W) :
    stepLoop b ⟨loops, some id, w⟩ id values body next =
      match b.supply ⟨some id, loopValues loops⟩ values w with
      | (.error fault, w) => (.halt (.failed fault), ⟨loops, some id, w⟩)
      | (.ok supply, w) =>
        stepLoop b ⟨(id, ⟨supply, none⟩) :: loops, some id, w⟩ id values body next := by
  have hfresh : (⟨loops, some id, w⟩ : WalkState V S W).hasLoop id = false := by
    simp [WalkState.hasLoop, WalkState.frame?, hloops.lookup_eq_none]
  have hstart : ∀ w supply, (⟨loops, some id, w⟩ : WalkState V S W).startLoop id supply =
      ⟨(id, ⟨supply, none⟩) :: loops, some id, w⟩ := by
    intro w supply
    simp [WalkState.startLoop, WalkState.setFrame, WalkState.endLoop, hloops.filter_eq]
  have hrunning : ∀ w supply,
      (⟨(id, ⟨supply, none⟩) :: loops, some id, w⟩ : WalkState V S W).hasLoop id = true := by
    intro w supply
    simp [WalkState.hasLoop, WalkState.frame?]
  rw [stepLoop, hfresh, inWorld_mk]
  rcases b.supply ⟨some id, loopValues loops⟩ values w with ⟨fault | supply, w'⟩
  · rfl
  · simp only [stepLoop, hstart, hrunning, if_true, Bool.false_eq_true, if_false]

/-- What a run of the body of a loop is to do, whatever the current value and what is left. -/
def RunsBody (g : Graph C E X) (b : Behaviour C E X V S W) (meanwhile : UInt64 → W → W)
    (id : ItemId) (loops : List (ItemId × LoopFrame V S)) (first : Option ItemId)
    (body : V → (n : Nat) → W → Ran n W) : Prop :=
  ∀ v rest n w, observed g b meanwhile n first ((id, ⟨rest, some v⟩) :: loops) w =
    (body v n w).finish fun left w =>
      observed g b meanwhile left (some id) ((id, ⟨rest, some v⟩) :: loops) w

/-- From a running loop a run goes through the rounds that are left. -/
theorem observed_forEach {x : X} {ids : List ItemId} {body : V → (n : Nat) → W → Ran n W}
    (hitem : g.get? id = some ⟨.loop x ids, next, parent, line⟩) (hloops : RunningBefore id loops)
    (hbody : RunsBody g b meanwhile id loops (ids.head?.or (some id)) body)
    (supply : S) (current : Option V) (n : Nat) (w : W) :
    observed g b meanwhile (n + 1) (some id) ((id, ⟨supply, current⟩) :: loops) w =
      (forEach (b.next id) body supply n w).finish
        fun left w => observed g b meanwhile left next loops w := by
  -- Each round takes steps, and the way back to the loop takes one more.
  induction n using Nat.strong_induction_on generalizing supply current w with
  | _ n ih =>
    rw [observed_succ hitem, forEach]
    simp only [stepItem, stepLoop_running hloops]
    rcases b.next id supply w with ⟨found, w'⟩
    cases found with
    | none => rfl
    | some found =>
      obtain ⟨v, rest⟩ := found
      simp only [observedMove]
      rw [hbody v rest n w']
      rcases body v n w' with ⟨left, hleft, w'⟩ | ⟨outcome, w'⟩ | w'
      · cases left with
        | zero => rfl
        | succ left =>
          simp only [Ran.finish_weaken]
          exact ih left hleft rest (some v) w'
      · rfl
      · rfl

/-- From a test a run goes through the rounds before the test fails. -/
theorem observed_repeatWhile {c : C} {ids : List ItemId} {body : (n : Nat) → W → Ran n W}
    (hitem : g.get? id = some ⟨.whileHolds c ids, next, parent, line⟩)
    (hbody : ∀ n w, observed g b meanwhile n (ids.head?.or (some id)) loops w =
      (body n w).finish fun left w => observed g b meanwhile left (some id) loops w)
    (n : Nat) (w : W) :
    observed g b meanwhile (n + 1) (some id) loops w =
      (repeatWhile (b.check ⟨some id, loopValues loops⟩ c) body n w).finish
        fun left w => observed g b meanwhile left next loops w := by
  induction n using Nat.strong_induction_on generalizing w with
  | _ n ih =>
    rw [observed_succ hitem, repeatWhile]
    simp only [stepItem, inWorld_mk]
    rcases b.check ⟨some id, loopValues loops⟩ c w with ⟨fault | passed, w'⟩
    · rfl
    cases passed with
    | false => rfl
    | true =>
      simp only [observedMove]
      rw [hbody n w']
      rcases body n w' with ⟨left, hleft, w'⟩ | ⟨outcome, w'⟩ | w'
      · cases left with
        | zero => rfl
        | succ left =>
          simp only [Ran.finish_weaken]
          exact ih left hleft w'
      · rfl
      · rfl

end Rounds

/-! ### Blocks -/

section Blocks

variable {g : Graph C E X} (b : Behaviour C E X V S W) (meanwhile : UInt64 → W → W)

/-- A block that is not empty is entered at its first step. -/
theorem head?_blockIds_or {block : List (Step C E X)} (h : block ≠ []) (id tail : Option ItemId) :
    (blockIds block).head?.or id = firstOr block tail := by
  cases block with
  | nil => exact absurd rfl h
  | cons step rest => rfl

mutual

theorem observed_layStep {m : ItemId} {parent next : Option ItemId} {s : Step C E X}
    {loops : List (ItemId × LoopFrame V S)} (h : s.FormedAt m)
    (hg : g.HoldsAt m (layStep parent next s)) (hloops : RunningBefore m loops) (n : Nat) (w : W) :
    observed g b meanwhile n (some m) loops w =
      (runStep b meanwhile (loopValues loops) n w s).finish
        fun left w => observed g b meanwhile left next loops w := by
  match s with
  | .check id line c =>
    obtain rfl : id = m := h
    exact observed_check (Graph.holdsAt_cons.1 hg).1 n w
  | .act id line e =>
    obtain rfl : id = m := h
    exact observed_act (Graph.holdsAt_cons.1 hg).1 n w
  | .choose id line branches =>
    obtain ⟨rfl, -, hbranches⟩ := h
    obtain ⟨hitem, hg⟩ := Graph.holdsAt_cons.1 hg
    cases n with
    | zero => rfl
    | succ n =>
      rw [observed_succ hitem, runStep, Ran.finish_spending_succ]
      simp only [stepItem]
      exact observed_layBranches hbranches hg (hloops.mono id.le_succ) n w
  | .loop id line x body =>
    obtain ⟨rfl, hne, hbody⟩ := h
    obtain ⟨hitem, hg⟩ := Graph.holdsAt_cons.1 hg
    -- While the body runs, the loop is the innermost of the running loops.
    have hruns : RunsBody g b meanwhile id loops ((blockIds body).head?.or (some id))
        fun v n w => runBlock b meanwhile
          (fun i => if i = id then some v else loopValues loops i) n w body := by
      intro v rest n w
      have hround := observed_layBlock hbody hg (hloops.cons ⟨rest, some v⟩) n w
      rw [loopValues_cons] at hround
      rw [head?_blockIds_or hne _ (some id)]
      exact hround
    cases n with
    | zero => rfl
    | succ n =>
      rw [observed_succ hitem, runStep, Ran.finish_spending_succ]
      simp only [stepItem, stepLoop_fresh hloops]
      rcases b.supply ⟨some id, loopValues loops⟩ x w with ⟨fault | supply, w'⟩
      · rfl
      -- Entering the loop takes its first value in the same step.
      · rw [← observed_forEach hitem hloops hruns supply none n w', observed_succ hitem]
        rfl
  | .whileHolds id line c body =>
    obtain ⟨rfl, hne, hbody⟩ := h
    obtain ⟨hitem, hg⟩ := Graph.holdsAt_cons.1 hg
    cases n with
    | zero => rfl
    | succ n =>
      rw [runStep, Ran.finish_spending_succ]
      refine observed_repeatWhile hitem (fun n w => ?_) n w
      rw [head?_blockIds_or hne _ (some id)]
      exact observed_layBlock hbody hg (hloops.mono id.le_succ) n w

/-- From the first item of a block a run does what the block says, and goes on behind it. -/
theorem observed_layBlock {m : ItemId} {parent tail : Option ItemId} {block : List (Step C E X)}
    {loops : List (ItemId × LoopFrame V S)} (h : BlockFormedAt m block)
    (hg : g.HoldsAt m (layBlock parent tail block)) (hloops : RunningBefore m loops)
    (n : Nat) (w : W) :
    observed g b meanwhile n (firstOr block tail) loops w =
      (runBlock b meanwhile (loopValues loops) n w block).finish
        fun left w => observed g b meanwhile left tail loops w := by
  match block with
  | [] => rfl
  | step :: rest =>
    obtain ⟨hstep, hrest⟩ := h
    rw [layBlock, Graph.holdsAt_append, length_layStep] at hg
    rw [runBlock, Ran.finish_andThen, firstOr, hstep.id_eq,
      observed_layStep hstep hg.1 hloops n w]
    congr
    funext left w
    exact observed_layBlock hrest hg.2 (hloops.mono (Nat.le_add_right m step.size)) left w

theorem observed_layBranches {id m : ItemId} {next : Option ItemId}
    {branches : List (Branch C E X)} {loops : List (ItemId × LoopFrame V S)}
    (h : BranchesFormedAt m branches) (hg : g.HoldsAt m (layBranches (some id) next branches))
    (hloops : RunningBefore m loops) (n : Nat) (w : W) :
    observedMove g b meanwhile n
        (match chooseBranch b ⟨loops, some id, w⟩ (branchIds branches) with
        | (.error fault, s) => (.halt (.failed fault), s)
        | (.ok chosen, s) => (.go ((chosen.bind List.head?).or next), s)) =
      (runBranches b meanwhile id (loopValues loops) n w branches).finish
        fun left w => observed g b meanwhile left next loops w := by
  match branches with
  | [] => rfl
  | .mk condition body :: rest =>
    obtain ⟨hbody, hrest⟩ := h
    rw [layBranches, Graph.holdsAt_append, length_layBranch] at hg
    have htaken : ∀ w, observed g b meanwhile n ((blockIds body).head?.or next) loops w =
        (runBlock b meanwhile (loopValues loops) n w body).finish
          fun left w => observed g b meanwhile left next loops w := by
      intro w
      rw [← firstOr_eq]
      exact observed_layBlock hbody hg.1 hloops n w
    cases condition with
    | none =>
      rw [runBranches]
      exact htaken w
    | some c =>
      have hothers := observed_layBranches hrest hg.2
        (hloops.mono (Nat.le_add_right m (Branch.mk (some c) body).size)) n
      rw [runBranches]
      simp only [branchIds, List.map_cons, Branch.condition_mk, Branch.body_mk, chooseBranch,
        inWorld_mk]
      rcases b.check ⟨some id, loopValues loops⟩ c w with ⟨fault | passed, w'⟩
      · rfl
      cases passed with
      | true => exact htaken w'
      | false => exact hothers w'

end

/-- **A run through the graph of a formed block does what the interpreter does with the block.** -/
theorem observe_runWithin_ofBlock {block : List (Step C E X)} (h : BlockFormedAt 0 block)
    (n : Nat) (w : W) :
    observe (runWithin (Graph.ofBlock block) b meanwhile n (Graph.ofBlock block).entry (.start w)) =
      interpret b meanwhile n block w := by
  have hnone : (fun left w => observed (Graph.ofBlock block) b meanwhile left none [] w) =
      fun _ w => (some .finished, w) := by
    funext left w
    exact observed_none
  rw [observe_runWithin, interpret, ← hnone]
  have hloops : RunningBefore 0 (WalkState.start w : WalkState V S W).loops := nofun
  exact observed_layBlock b meanwhile h (Graph.holdsAt_ofBlock block) hloops n w

end Blocks

end TriggerScript.Flow

import TriggerScript.Proofs.Flow.Moves
import TriggerScript.Proofs.Parsing.BlockForm

/-!
# The delay flag and the walks

While a body is read, a flag says whether a delay may have happened before the line at hand. Lines
inside a loop are run again behind delays that stand below them, and the flag does not say so.

* `blockMayDelay` : some line of a block delays.
* `delayBehind_eq_no_iff` : what the flag behind a block rules out.
* `Stands` : where a block of a body stands, with the flag before it.
* `Placed` : where a walk can come to an item after a delay.
* `placed_of_visits` : walks come to no other items.
-/

namespace TriggerScript.Parsing

open TriggerScript.Flow

variable {C E X V S W : Type}

mutual

/-- A line that delays is in a step. -/
def stepMayDelay (isDelay : E → Bool) : Step C E X → Bool
  | .check .. => false
  | .act _ _ e => isDelay e
  | .choose _ _ branches => branchesMayDelay isDelay branches
  | .loop _ _ _ body => blockMayDelay isDelay body
  | .whileHolds _ _ _ body => blockMayDelay isDelay body

/-- A line that delays is in a block. -/
def blockMayDelay (isDelay : E → Bool) : List (Step C E X) → Bool
  | [] => false
  | step :: rest => stepMayDelay isDelay step || blockMayDelay isDelay rest

/-- A line that delays is in some branches. -/
def branchesMayDelay (isDelay : E → Bool) : List (Branch C E X) → Bool
  | [] => false
  | branch :: rest => branchMayDelay isDelay branch || branchesMayDelay isDelay rest

/-- A line that delays is in a branch. -/
def branchMayDelay (isDelay : E → Bool) : Branch C E X → Bool
  | .mk _ body => blockMayDelay isDelay body

end

/-! ### What the flag rules out -/

section Flag

variable {isDelay : E → Bool}

theorem merge_eq_no_iff (ds : List Ternary) : Ternary.merge ds = .no ↔ ∀ d ∈ ds, d = .no := by
  cases ds with
  | nil => simp [Ternary.merge]
  | cons first rest =>
    simp only [Ternary.merge, List.all_eq_true, beq_iff_eq, List.forall_mem_cons]
    by_cases hall : ∀ d ∈ rest, d = first
    · rw [if_pos hall]
      constructor
      · rintro rfl
        exact ⟨rfl, hall⟩
      · exact fun h => h.1
    · rw [if_neg hall]
      constructor
      · exact nofun
      · rintro ⟨rfl, h⟩
        exact absurd h hall

theorem delayAfterRepeating_eq_no_iff (before after : Ternary) :
    delayAfterRepeating before after = .no ↔ before = .no ∧ after = .no := by
  cases before <;> cases after <;> decide

theorem mem_branchesMayDelay {branches : List (Branch C E X)} {branch : Branch C E X}
    (hb : branch ∈ branches) (h : branchMayDelay isDelay branch = true) :
    branchesMayDelay isDelay branches = true := by
  induction branches with
  | nil => simp at hb
  | cons first rest ih =>
    simp only [branchesMayDelay, Bool.or_eq_true]
    rcases List.mem_cons.1 hb with rfl | hb
    · exact .inl h
    · exact .inr (ih hb)

mutual

theorem delayBehindStep_eq_no_iff (d : Ternary) (s : Step C E X) :
    delayBehindStep isDelay d s = .no ↔ d = .no ∧ stepMayDelay isDelay s = false := by
  match s with
  | .check .. => simp [delayBehindStep, stepMayDelay]
  | .act _ _ e => by_cases he : isDelay e = true <;> simp [delayBehindStep, stepMayDelay, he]
  | .choose _ _ branches =>
    have hbranches := branchDelays_eq_no_iff d branches
    simp only [delayBehindStep, stepMayDelay, merge_eq_no_iff, List.forall_mem_append]
    rw [hbranches]
    by_cases helse : branches.any (·.condition.isNone) = true
    · have hne : branches ≠ [] := by
        rintro rfl
        simp at helse
      simp [helse, hne]
    · have helse : branches.any (·.condition.isNone) = false := by simpa using helse
      simp only [helse, Bool.false_eq_true, if_false, List.forall_mem_singleton]
      constructor
      · rintro ⟨h, hd⟩
        exact ⟨hd, h.2⟩
      · rintro ⟨hd, h⟩
        exact ⟨⟨fun _ => hd, h⟩, hd⟩
  | .loop _ _ _ body =>
    simp only [delayBehindStep, stepMayDelay, delayAfterRepeating_eq_no_iff,
      delayBehind_eq_no_iff d body, ← and_assoc, and_self]
  | .whileHolds _ _ _ body =>
    simp only [delayBehindStep, stepMayDelay, delayAfterRepeating_eq_no_iff,
      delayBehind_eq_no_iff d body, ← and_assoc, and_self]

/-- The flag behind a block rules out a delay if the flag before it does and the block has none. -/
theorem delayBehind_eq_no_iff (d : Ternary) (block : List (Step C E X)) :
    delayBehind isDelay d block = .no ↔ d = .no ∧ blockMayDelay isDelay block = false := by
  match block with
  | [] => simp [delayBehind, blockMayDelay]
  | step :: rest =>
    rw [delayBehind, blockMayDelay, delayBehind_eq_no_iff _ rest, delayBehindStep_eq_no_iff d step,
      Bool.or_eq_false_iff, and_assoc]

theorem branchDelays_eq_no_iff (d : Ternary) (branches : List (Branch C E X)) :
    (∀ d' ∈ branchDelays isDelay d branches, d' = .no) ↔
      (branches ≠ [] → d = .no) ∧ branchesMayDelay isDelay branches = false := by
  match branches with
  | [] => simp [branchDelays, branchesMayDelay]
  | .mk _ body :: rest =>
    have hbody := delayBehind_eq_no_iff d body
    have hrest := branchDelays_eq_no_iff d rest
    simp only [branchDelays, branchesMayDelay, branchMayDelay, delayBehindBranch,
      List.forall_mem_cons, Bool.or_eq_false_iff]
    rw [hbody, hrest]
    constructor
    · rintro ⟨⟨hd, hbody⟩, -, hrest⟩
      exact ⟨fun _ => hd, hbody, hrest⟩
    · rintro ⟨hd, hbody, hrest⟩
      exact ⟨⟨hd (by simp), hbody⟩, fun _ => hd (by simp), hrest⟩

end

end Flag

/-! ### Where blocks stand -/

/-- A block stands in a body, behind a flag and before an item; `repeated` tells whether a line
delays in a loop around it. -/
inductive Stands (isDelay : E → Bool) (start : Ternary) (top : List (Step C E X)) :
    Ternary → Bool → Option ItemId → List (Step C E X) → Prop where
  | top : Stands isDelay start top start false none top
  | next {d : Ternary} {repeated : Bool} {tail : Option ItemId} {step : Step C E X}
      {rest : List (Step C E X)} (h : Stands isDelay start top d repeated tail (step :: rest)) :
      Stands isDelay start top (delayBehindStep isDelay d step) repeated tail rest
  | branch {d : Ternary} {repeated : Bool} {tail : Option ItemId} {id : ItemId} {line : Nat}
      {branches : List (Branch C E X)} {rest : List (Step C E X)} {branch : Branch C E X}
      (h : Stands isDelay start top d repeated tail (.choose id line branches :: rest))
      (hb : branch ∈ branches) :
      Stands isDelay start top d repeated (firstOr rest tail) branch.body
  | loop {d : Ternary} {repeated : Bool} {tail : Option ItemId} {id : ItemId} {line : Nat} {x : X}
      {body rest : List (Step C E X)}
      (h : Stands isDelay start top d repeated tail (.loop id line x body :: rest)) :
      Stands isDelay start top d (repeated || blockMayDelay isDelay body) (some id) body
  | whileHolds {d : Ternary} {repeated : Bool} {tail : Option ItemId} {id : ItemId} {line : Nat}
      {c : C} {body rest : List (Step C E X)}
      (h : Stands isDelay start top d repeated tail (.whileHolds id line c body :: rest)) :
      Stands isDelay start top d (repeated || blockMayDelay isDelay body) (some id) body

namespace Stands

variable {isDelay : E → Bool} {start d : Ternary} {top block : List (Step C E X)}
  {repeated : Bool} {tail : Option ItemId}

theorem branchRead_of_mem {r : LineReader C E X} {branches : List (Branch C E X)}
    {branch : Branch C E X} (h : BranchesRead r d branches) (hb : branch ∈ branches) :
    BlockRead r d branch.body := by
  induction branches with
  | nil => simp at hb
  | cons first rest ih =>
    obtain ⟨hfirst, hrest⟩ := h
    rcases List.mem_cons.1 hb with rfl | hb
    · cases branch
      exact hfirst
    · exact ih hrest hb

/-- The flag is the one with which the lines of the block were read. -/
theorem read {r : LineReader C E X} (htop : BlockRead r start top)
    (h : Stands r.isDelay start top d repeated tail block) : BlockRead r d block := by
  induction h with
  | top => exact htop
  | next _ ih => exact ih.2
  | branch _ hb ih => exact branchRead_of_mem ih.1 hb
  | loop _ ih => exact ih.1
  | whileHolds _ ih => exact ih.1

/-- The items of the block are those of the graph from some place on. -/
theorem holdsAt (htop : BlockFormedAt 0 top) (h : Stands isDelay start top d repeated tail block) :
    ∃ m parent, BlockFormedAt m block ∧
      (Graph.ofBlock top).HoldsAt m (layBlock parent tail block) := by
  induction h with
  | top => exact ⟨0, none, htop, Graph.holdsAt_ofBlock top⟩
  | next _ ih =>
    obtain ⟨m, parent, ⟨_, hrest⟩, hg⟩ := ih
    rw [layBlock, Graph.holdsAt_append, length_layStep] at hg
    exact ⟨_, parent, hrest, hg.2⟩
  | branch _ hb ih =>
    obtain ⟨m, parent, ⟨⟨rfl, -, hbranches⟩, _⟩, hg⟩ := ih
    rw [layBlock, Graph.holdsAt_append] at hg
    obtain ⟨m, -, hformed, hheld⟩ :=
      Graph.holdsAt_of_mem_branches hbranches (Graph.holdsAt_cons.1 hg.1).2 hb
    exact ⟨m, _, hformed, hheld⟩
  | loop _ ih =>
    obtain ⟨m, parent, ⟨⟨rfl, -, hbody⟩, _⟩, hg⟩ := ih
    rw [layBlock, Graph.holdsAt_append] at hg
    exact ⟨_, _, hbody, (Graph.holdsAt_cons.1 hg.1).2⟩
  | whileHolds _ ih =>
    obtain ⟨m, parent, ⟨⟨rfl, -, hbody⟩, _⟩, hg⟩ := ih
    rw [layBlock, Graph.holdsAt_append] at hg
    exact ⟨_, _, hbody, (Graph.holdsAt_cons.1 hg.1).2⟩

/-- The first item of the block. -/
theorem get?_id (htop : BlockFormedAt 0 top) {step : Step C E X} {rest : List (Step C E X)}
    (h : Stands isDelay start top d repeated tail (step :: rest)) :
    ∃ item, (Graph.ofBlock top).get? step.id = some item ∧ item.kind = step.kind ∧
      item.next = firstOr rest tail := by
  obtain ⟨m, parent, ⟨hstep, -⟩, hg⟩ := h.holdsAt htop
  rw [layBlock, Graph.holdsAt_append] at hg
  obtain ⟨line, inner, hlay⟩ := layStep_eq_cons parent (firstOr rest tail) step
  rw [hlay] at hg
  rw [hstep.id_eq]
  exact ⟨_, (Graph.holdsAt_cons.1 hg.1).1, rfl, rfl⟩

end Stands

/-! ### Where walks come after a delay -/

/-- A loop with a line that delays; a walk comes back to it. -/
def comesBack (isDelay : E → Bool) : Step C E X → Bool
  | .check .. => false
  | .act .. => false
  | .choose .. => false
  | .loop _ _ _ body => blockMayDelay isDelay body
  | .whileHolds _ _ _ body => blockMayDelay isDelay body

/-- An item stands in a body, and in case of `late` where a walk can come after a delay. -/
def Placed (isDelay : E → Bool) (start : Ternary) (top : List (Step C E X)) (late : Prop)
    (t : ItemId) : Prop :=
  ∃ d repeated tail step rest, Stands isDelay start top d repeated tail (step :: rest) ∧
    step.id = t ∧ (late → d ≠ .no ∨ repeated = true ∨ comesBack isDelay step = true)

section Placed

variable {isDelay : E → Bool} {start d : Ternary} {top block rest : List (Step C E X)}
  {repeated : Bool} {tail : Option ItemId} {late late' : Prop} {t : ItemId} {step : Step C E X}

theorem Placed.mono (h : Placed isDelay start top late t) (hlate : late' → late) :
    Placed isDelay start top late' t := by
  obtain ⟨d, repeated, tail, step, rest, hs, hid, hl⟩ := h
  exact ⟨d, repeated, tail, step, rest, hs, hid, fun h => hl (hlate h)⟩

/-- A delay in a step is seen by the flag behind it. -/
theorem delayBehindStep_ne_no (h : d ≠ .no ∨ stepMayDelay isDelay step = true) :
    delayBehindStep isDelay d step ≠ .no := by
  rw [ne_eq, delayBehindStep_eq_no_iff, not_and_or, Bool.not_eq_false]
  exact h

/-- What comes behind a block stands where a walk can come after a delay in the block. -/
theorem Stands.placed_tail (h : Stands isDelay start top d repeated tail block)
    (ht : tail = some t) :
    Placed isDelay start top
      (d ≠ .no ∨ repeated = true ∨ blockMayDelay isDelay block = true) t := by
  induction h with
  | top => simp at ht
  | @next d repeated tail step rest h ih =>
    refine (ih ht).mono ?_
    rw [ne_eq, delayBehindStep_eq_no_iff, not_and_or, Bool.not_eq_false, blockMayDelay,
      Bool.or_eq_true]
    tauto
  | @branch d repeated tail id line branches rest branch h hb ih =>
    have hbody : blockMayDelay isDelay branch.body = true →
        branchesMayDelay isDelay branches = true := by
      intro hdelay
      refine mem_branchesMayDelay hb ?_
      cases branch
      exact hdelay
    cases rest with
    -- The conditional ends its block, so what comes behind the branch comes behind that block.
    | nil =>
      refine (ih ht).mono ?_
      simp only [blockMayDelay, stepMayDelay, Bool.or_false]
      tauto
    | cons step rest =>
      obtain rfl : step.id = t := by simpa [firstOr] using ht
      refine ⟨_, _, _, step, rest, h.next, rfl, ?_⟩
      rintro (hd | hr | hdelay)
      · exact .inl (delayBehindStep_ne_no (.inl hd))
      · exact .inr (.inl hr)
      · exact .inl (delayBehindStep_ne_no (.inr (hbody hdelay)))
  -- Behind the body of a loop a walk comes back to the loop.
  | @loop d repeated tail id line x body rest h ih =>
    obtain rfl : id = t := by simpa using ht
    refine ⟨_, _, _, _, _, h, rfl, ?_⟩
    rw [Bool.or_eq_true, comesBack]
    tauto
  | @whileHolds d repeated tail id line c body rest h ih =>
    obtain rfl : id = t := by simpa using ht
    refine ⟨_, _, _, _, _, h, rfl, ?_⟩
    rw [Bool.or_eq_true, comesBack]
    tauto

/-- A block is entered where it stands, also if it is empty. -/
theorem Stands.placed_firstOr (h : Stands isDelay start top d repeated tail block)
    (ht : firstOr block tail = some t) :
    Placed isDelay start top (d ≠ .no ∨ repeated = true) t := by
  cases block with
  | nil => exact (h.placed_tail ht).mono (by tauto)
  | cons step rest =>
    obtain rfl : step.id = t := by simpa [firstOr] using ht
    exact ⟨_, _, _, step, rest, h, rfl, by tauto⟩

/-- Behind a step a walk comes to an item that stands behind it in the body. -/
theorem Stands.placed_next (h : Stands isDelay start top d repeated tail (step :: rest))
    (ht : firstOr rest tail = some t) :
    Placed isDelay start top
      (d ≠ .no ∨ repeated = true ∨ stepMayDelay isDelay step = true) t := by
  refine (h.next.placed_firstOr ht).mono ?_
  rintro (hd | hr | hdelay)
  · exact .inl (delayBehindStep_ne_no (.inl hd))
  · exact .inr hr
  · exact .inl (delayBehindStep_ne_no (.inr hdelay))

theorem stepMayDelay_of_comesBack (h : comesBack isDelay step = true) :
    stepMayDelay isDelay step = true := by
  cases step with
  | check id line c => exact h
  | act id line e => exact absurd h Bool.false_ne_true
  | choose id line branches => exact absurd h Bool.false_ne_true
  | loop id line x body => exact h
  | whileHolds id line c body => exact h

/-- The blocks inside an item stand where a walk that comes to the item can come. -/
theorem Stands.placed_inside (h : Stands isDelay start top d repeated tail (step :: rest))
    {item : Item C E X} (hkind : item.kind = step.kind) {inner : Block}
    (hinner : inner ∈ item.blocks step.id) (ht : inner.ids.head? = some t) :
    Placed isDelay start top (d ≠ .no ∨ repeated = true ∨ comesBack isDelay step = true) t := by
  have hfirst : ∀ (body : List (Step C E X)) tail, inner.ids = blockIds body →
      firstOr body tail = some t := by
    intro body tail hids
    rw [firstOr_eq, ← hids, ht, Option.some_or]
  cases step with
  | check id line c => simp [Item.blocks, hkind, Step.kind] at hinner
  | act id line e => simp [Item.blocks, hkind, Step.kind] at hinner
  | choose id line branches =>
    simp only [Item.blocks, hkind, Step.kind, branchIds, List.map_map, List.mem_map] at hinner
    obtain ⟨branch, hbranch, rfl⟩ := hinner
    refine ((h.branch hbranch).placed_firstOr (hfirst branch.body _ rfl)).mono ?_
    simp only [comesBack]
    tauto
  | loop id line x body =>
    simp only [Item.blocks, hkind, Step.kind, List.mem_singleton] at hinner
    refine (h.loop.placed_firstOr (hfirst body _ (by rw [hinner]))).mono ?_
    rw [Bool.or_eq_true, comesBack]
    tauto
  | whileHolds id line c body =>
    simp only [Item.blocks, hkind, Step.kind, List.mem_singleton] at hinner
    refine (h.whileHolds.placed_firstOr (hfirst body _ (by rw [hinner]))).mono ?_
    rw [Bool.or_eq_true, comesBack]
    tauto

/-- A step of a walk leads from such an item to another. -/
theorem Placed.leadsTo (htop : BlockFormedAt 0 top) {id : ItemId}
    (h : Placed isDelay start top late id) {item : Item C E X}
    (hitem : (Graph.ofBlock top).get? id = some item) (ht : item.LeadsTo id t) :
    Placed isDelay start top late t := by
  obtain ⟨d, repeated, tail, step, rest, hs, rfl, hlate⟩ := h
  obtain ⟨_, hitem', hkind, hnext⟩ := hs.get?_id htop
  obtain rfl := Option.some.inj (hitem'.symm.trans hitem)
  obtain ht | ⟨inner, hinner, hhead⟩ | rfl := ht
  · refine (hs.placed_next (hnext.symm.trans ht)).mono fun hl => ?_
    exact (hlate hl).imp_right (.imp_right stepMayDelay_of_comesBack)
  · exact (hs.placed_inside hkind hinner hhead).mono hlate
  · exact ⟨d, repeated, tail, step, rest, hs, rfl, hlate⟩

/-- Behind an effect that delays, an item stands where a walk can come after a delay. -/
theorem Placed.behind_delay (htop : BlockFormedAt 0 top) {id : ItemId}
    (h : Placed isDelay start top late id) {item : Item C E X} {e : E}
    (hitem : (Graph.ofBlock top).get? id = some item) (he : item.kind = .act e)
    (hdelay : isDelay e = true) (ht : item.next = some t) : Placed isDelay start top True t := by
  obtain ⟨d, repeated, tail, step, rest, hs, rfl, -⟩ := h
  obtain ⟨_, hitem', hkind, hnext⟩ := hs.get?_id htop
  obtain rfl := Option.some.inj (hitem'.symm.trans hitem)
  have hstep : stepMayDelay isDelay step = true := by
    rw [he] at hkind
    cases step <;> simp only [Step.kind, reduceCtorEq] at hkind
    obtain rfl := ItemKind.act.inj hkind
    exact hdelay
  exact (hs.placed_next (hnext.symm.trans ht)).mono fun _ => .inr (.inr hstep)

/-- **A walk comes to items only where they stand in the body, and after a delay only behind a flag
that allows for it, or inside a loop with a line that delays, or back to such a loop.** -/
theorem placed_of_visits (htop : BlockFormedAt 0 top) {b : Behaviour C E X V S W}
    (hb : b.SuspendsBy isDelay) {world : W} {delayed : Bool} {s : WalkState V S W} {id : ItemId}
    (h : Visits (Graph.ofBlock top) b world delayed s id) :
    Placed isDelay start top (delayed = true) id := by
  induction h with
  | entry hentry => exact (Stands.top.placed_firstOr hentry).mono (by simp)
  | go _ hstep ih =>
    obtain ⟨item, hitem, ht⟩ := step_target (congrArg (Move.target ∘ Prod.fst) hstep)
    exact ih.leadsTo htop hitem ht
  | resume _ hstep _ ih =>
    obtain ⟨item, e, hitem, he, hnext, site, w, hact⟩ := step_suspended hstep
    have hdelay : isDelay e = true := (hb site e w _ hact).1 (by simp)
    exact (ih.behind_delay htop hitem he hdelay hnext).mono fun _ => trivial

end Placed

end TriggerScript.Parsing

import TriggerScript.Proofs.Flow.Layout
import TriggerScript.Proofs.Flow.Moves
import Mathlib.Logic.Relation

/-!
# What stands inside what

The items of a body know what they stand inside, and the items around an item are found by
following these links. Going on behind an item may lead out of some of them, but out of a loop it
only leads back to this loop.

* `Graph.Encloses` : an item is around another one, by the links from each item to its parent.
* `Around` : where a block stands in a body, with the items around it from the inside out.
* `Around.encloses_iff` : these are the items that the links lead to.
* `Around.leavesTo_of_tail` : which loops are around what comes behind a block.
* `Occurs.next`, `Occurs.inside` : which loops are around the items that a step leads to.
-/

namespace TriggerScript.Flow

variable {C E X : Type}

/-! ### Links -/

namespace Graph

/-- An item is the parent of another one. -/
def ParentOf (g : Graph C E X) (p id : ItemId) : Prop :=
  ∃ item, g.get? id = some item ∧ item.parent = some p

/-- An item is the parent of another one, or the parent of its parent, and so on. -/
def Encloses (g : Graph C E X) : ItemId → ItemId → Prop :=
  Relation.TransGen g.ParentOf

/-- A number is that of a loop. -/
def IsLoop (g : Graph C E X) (id : ItemId) : Prop :=
  ∃ item x body, g.get? id = some item ∧ item.kind = .loop x body

variable {g : Graph C E X} {id l : ItemId} {item : Item C E X}

/-- What is around an item is its parent and what is around that. -/
theorem encloses_iff (hitem : g.get? id = some item) :
    g.Encloses l id ↔ ∃ p, item.parent = some p ∧ (l = p ∨ g.Encloses l p) := by
  constructor
  · intro h
    cases h with
    | single hlink =>
      obtain ⟨_, hitem', hparent⟩ := hlink
      obtain rfl := Option.some.inj (hitem'.symm.trans hitem)
      exact ⟨l, hparent, .inl rfl⟩
    | tail houter hlink =>
      obtain ⟨_, hitem', hparent⟩ := hlink
      obtain rfl := Option.some.inj (hitem'.symm.trans hitem)
      exact ⟨_, hparent, .inr houter⟩
  · rintro ⟨p, hparent, rfl | houter⟩
    · exact .single ⟨item, hitem, hparent⟩
    · exact .tail houter ⟨item, hitem, hparent⟩

theorem encloses_iff_of_parent {p : ItemId} (hitem : g.get? id = some item)
    (hparent : item.parent = some p) : g.Encloses l id ↔ l = p ∨ g.Encloses l p := by
  rw [encloses_iff hitem, hparent]
  simp

theorem isLoop_iff (hitem : g.get? id = some item) :
    g.IsLoop id ↔ ∃ x body, item.kind = .loop x body := by
  constructor
  · rintro ⟨_, x, body, hitem', hkind⟩
    obtain rfl := Option.some.inj (hitem'.symm.trans hitem)
    exact ⟨x, body, hkind⟩
  · rintro ⟨x, body, hkind⟩
    exact ⟨item, x, body, hitem, hkind⟩

/-- Among the loops an item that is no loop does not count. -/
theorem IsLoop.mem_cons_iff {around : List ItemId} (hl : g.IsLoop l) (hid : ¬ g.IsLoop id) :
    l ∈ id :: around ↔ l ∈ around := by
  rw [List.mem_cons, or_iff_right]
  rintro rfl
  exact hid hl

end Graph

/-! ### Blocks and what is around them -/

/-- A block stands in a body, inside some items and before an item. The items around it are listed
from the inside out. -/
inductive Around (top : List (Step C E X)) :
    List ItemId → Option ItemId → List (Step C E X) → Prop where
  | top : Around top [] none top
  | next {around : List ItemId} {tail : Option ItemId} {step : Step C E X}
      {rest : List (Step C E X)} (h : Around top around tail (step :: rest)) :
      Around top around tail rest
  | branch {around : List ItemId} {tail : Option ItemId} {id : ItemId} {line : Nat}
      {branches : List (Branch C E X)} {rest : List (Step C E X)} {branch : Branch C E X}
      (h : Around top around tail (.choose id line branches :: rest)) (hb : branch ∈ branches) :
      Around top (id :: around) (firstOr rest tail) branch.body
  | loop {around : List ItemId} {tail : Option ItemId} {id : ItemId} {line : Nat} {x : X}
      {body rest : List (Step C E X)}
      (h : Around top around tail (.loop id line x body :: rest)) :
      Around top (id :: around) (some id) body
  | whileHolds {around : List ItemId} {tail : Option ItemId} {id : ItemId} {line : Nat} {c : C}
      {body rest : List (Step C E X)}
      (h : Around top around tail (.whileHolds id line c body :: rest)) :
      Around top (id :: around) (some id) body

namespace Around

variable {top block rest : List (Step C E X)} {around : List ItemId} {tail : Option ItemId}
  {step : Step C E X} {id l t : ItemId} {item : Item C E X}

/-- The items of a block are those of the graph from some place on, behind those around it. -/
theorem holdsAt (htop : BlockFormedAt 0 top) (h : Around top around tail block) :
    ∃ m, BlockFormedAt m block ∧ (∀ l ∈ around, l < m) ∧
      (Graph.ofBlock top).HoldsAt m (layBlock around.head? tail block) := by
  induction h with
  | top => exact ⟨0, htop, by simp, Graph.holdsAt_ofBlock top⟩
  | next _ ih =>
    obtain ⟨m, ⟨_, hrest⟩, hbefore, hg⟩ := ih
    refine ⟨_, hrest, fun l hl => ?_, (Graph.holdsAt_layBlock_cons.1 hg).2⟩
    exact (hbefore l hl).trans_le (Nat.le_add_right m _)
  | branch _ hb ih =>
    obtain ⟨m, ⟨⟨rfl, -, hbranches⟩, _⟩, hbefore, hg⟩ := ih
    have hinner := (Graph.holdsAt_cons.1 (Graph.holdsAt_layBlock_cons.1 hg).1).2
    obtain ⟨m', hm', hformed, hheld⟩ := Graph.holdsAt_of_mem_branches hbranches hinner hb
    refine ⟨m', hformed, List.forall_mem_cons.2 ⟨hm', fun l hl => ?_⟩, hheld⟩
    exact ((hbefore l hl).trans (Nat.lt_succ_self _)).trans_le hm'
  | loop _ ih =>
    obtain ⟨m, ⟨⟨rfl, -, hbody⟩, _⟩, hbefore, hg⟩ := ih
    have hinner := (Graph.holdsAt_cons.1 (Graph.holdsAt_layBlock_cons.1 hg).1).2
    refine ⟨_, hbody, List.forall_mem_cons.2 ⟨Nat.lt_succ_self _, fun l hl => ?_⟩, hinner⟩
    exact (hbefore l hl).trans (Nat.lt_succ_self _)
  | whileHolds _ ih =>
    obtain ⟨m, ⟨⟨rfl, -, hbody⟩, _⟩, hbefore, hg⟩ := ih
    have hinner := (Graph.holdsAt_cons.1 (Graph.holdsAt_layBlock_cons.1 hg).1).2
    refine ⟨_, hbody, List.forall_mem_cons.2 ⟨Nat.lt_succ_self _, fun l hl => ?_⟩, hinner⟩
    exact (hbefore l hl).trans (Nat.lt_succ_self _)

/-- The first item of a block stands inside the innermost item around it. -/
theorem get?_id (htop : BlockFormedAt 0 top) (h : Around top around tail (step :: rest)) :
    ∃ item, (Graph.ofBlock top).get? step.id = some item ∧ item.kind = step.kind ∧
      item.parent = around.head? ∧ item.next = firstOr rest tail ∧ ∀ l ∈ around, l < step.id := by
  obtain ⟨m, ⟨hstep, -⟩, hbefore, hg⟩ := h.holdsAt htop
  obtain ⟨line, inner, hlay⟩ := layStep_eq_cons around.head? (firstOr rest tail) step
  have hfirst := (Graph.holdsAt_layBlock_cons.1 hg).1
  rw [hlay] at hfirst
  rw [hstep.id_eq]
  exact ⟨_, (Graph.holdsAt_cons.1 hfirst).1, rfl, rfl, rfl, hbefore⟩

/-- The items around a block are those that the links of its items lead to. -/
theorem encloses_iff_of_parent (htop : BlockFormedAt 0 top) (h : Around top around tail block)
    (hitem : (Graph.ofBlock top).get? id = some item) (hparent : item.parent = around.head?) :
    (Graph.ofBlock top).Encloses l id ↔ l ∈ around := by
  -- The links lead on from the innermost item, whose own parent is the next one.
  induction h generalizing id item with
  | top =>
    rw [Graph.encloses_iff hitem, hparent]
    simp
  | next _ ih => exact ih hitem hparent
  | branch h _ ih =>
    obtain ⟨owner, howner, -, hlink, -⟩ := h.get?_id htop
    rw [Graph.encloses_iff_of_parent hitem hparent, List.mem_cons, ← ih howner hlink]
    rfl
  | loop h ih =>
    obtain ⟨owner, howner, -, hlink, -⟩ := h.get?_id htop
    rw [Graph.encloses_iff_of_parent hitem hparent, List.mem_cons, ← ih howner hlink]
    rfl
  | whileHolds h ih =>
    obtain ⟨owner, howner, -, hlink, -⟩ := h.get?_id htop
    rw [Graph.encloses_iff_of_parent hitem hparent, List.mem_cons, ← ih howner hlink]
    rfl

theorem encloses_iff (htop : BlockFormedAt 0 top) (h : Around top around tail (step :: rest)) :
    (Graph.ofBlock top).Encloses l step.id ↔ l ∈ around := by
  obtain ⟨item, hitem, -, hparent, -⟩ := h.get?_id htop
  exact h.encloses_iff_of_parent htop hitem hparent

theorem isLoop_iff (htop : BlockFormedAt 0 top) (h : Around top around tail (step :: rest)) :
    (Graph.ofBlock top).IsLoop step.id ↔ ∃ x body, step.kind = .loop x body := by
  obtain ⟨item, hitem, hkind, -⟩ := h.get?_id htop
  rw [Graph.isLoop_iff hitem, hkind]

theorem not_isLoop_choose (htop : BlockFormedAt 0 top) {line : Nat}
    {branches : List (Branch C E X)}
    (h : Around top around tail (.choose id line branches :: rest)) :
    ¬ (Graph.ofBlock top).IsLoop id := by
  intro hloop
  obtain ⟨x, body, hkind⟩ := (h.isLoop_iff htop).1 hloop
  cases hkind

theorem not_isLoop_whileHolds (htop : BlockFormedAt 0 top) {line : Nat} {c : C}
    {body : List (Step C E X)} (h : Around top around tail (.whileHolds id line c body :: rest)) :
    ¬ (Graph.ofBlock top).IsLoop id := by
  intro hloop
  obtain ⟨x, body, hkind⟩ := (h.isLoop_iff htop).1 hloop
  cases hkind

end Around

/-! ### Where a step leads -/

/-- An item is that of a line of the body, inside these items. -/
def Occurs (top : List (Step C E X)) (around : List ItemId) (id : ItemId) : Prop :=
  ∃ tail step rest, Around top around tail (step :: rest) ∧ step.id = id

/-- An item of the body is inside those loops among some items that it is not itself. -/
def LeavesTo (top : List (Step C E X)) (around : List ItemId) (t : ItemId) : Prop :=
  ∃ outer, Occurs top outer t ∧
    ∀ l, (Graph.ofBlock top).IsLoop l → (l ∈ around ↔ l ∈ outer ∨ l = t ∧ t ∈ around)

section Leading

variable {top block rest : List (Step C E X)} {around : List ItemId} {tail : Option ItemId}
  {step : Step C E X} {id l t : ItemId} {item : Item C E X}

theorem Around.occurs (h : Around top around tail (step :: rest)) : Occurs top around step.id :=
  ⟨tail, step, rest, h, rfl⟩

theorem Occurs.leavesTo (h : Occurs top around t) : LeavesTo top around t :=
  ⟨around, h, fun _ _ => (or_iff_left_of_imp fun ⟨hl, ht⟩ => hl ▸ ht).symm⟩

/-- An item that is no loop may be left out. -/
theorem LeavesTo.cons (h : LeavesTo top around t) (hid : ¬ (Graph.ofBlock top).IsLoop id) :
    LeavesTo top (id :: around) t := by
  obtain ⟨outer, hoccurs, hloops⟩ := h
  refine ⟨outer, hoccurs, fun l hl => ?_⟩
  rw [hl.mem_cons_iff hid, hloops l hl]
  refine or_congr_right (and_congr_right ?_)
  rintro rfl
  exact (hl.mem_cons_iff hid).symm

/-- What comes behind a block is inside the same loops, or it is the innermost of them. -/
theorem Around.leavesTo_of_tail (htop : BlockFormedAt 0 top) (h : Around top around tail block)
    (ht : tail = some t) : LeavesTo top around t := by
  induction h with
  | top => cases ht
  | next _ ih => exact ih ht
  | @branch around tail id line branches rest branch h hb ih =>
    have hid := h.not_isLoop_choose htop
    cases rest with
    -- The conditional ends its block, so what comes behind the branch comes behind that block.
    | nil => exact (ih ht).cons hid
    | cons step rest =>
      obtain rfl := Option.some.inj ht
      exact h.next.occurs.leavesTo.cons hid
  -- Behind the body of a loop comes the loop.
  | @loop around tail id line x body rest h ih =>
    obtain rfl := Option.some.inj ht
    refine ⟨around, h.occurs, fun l hl => ?_⟩
    simp [or_comm]
  | @whileHolds around tail id line c body rest h ih =>
    obtain rfl := Option.some.inj ht
    exact h.occurs.leavesTo.cons (h.not_isLoop_whileHolds htop)

/-- A block is entered inside the items around it, and left if it is empty. -/
theorem Around.leavesTo_firstOr (htop : BlockFormedAt 0 top) (h : Around top around tail block)
    (ht : firstOr block tail = some t) : LeavesTo top around t := by
  cases block with
  | nil => exact h.leavesTo_of_tail htop ht
  | cons step rest =>
    obtain rfl := Option.some.inj ht
    exact h.occurs.leavesTo

namespace Occurs

/-- No item is inside itself. -/
theorem not_encloses_self (htop : BlockFormedAt 0 top) (h : Occurs top around id) :
    ¬ (Graph.ofBlock top).Encloses id id := by
  obtain ⟨tail, step, rest, h, rfl⟩ := h
  obtain ⟨item, -, -, -, -, hbefore⟩ := h.get?_id htop
  rw [h.encloses_iff htop]
  exact fun hmem => (hbefore _ hmem).ne rfl

/-- **What comes behind an item is inside the same loops, or it is the innermost of them.** -/
theorem next (htop : BlockFormedAt 0 top) (h : Occurs top around id)
    (hitem : (Graph.ofBlock top).get? id = some item) (ht : item.next = some t) :
    (∃ outer, Occurs top outer t) ∧ ∀ l, (Graph.ofBlock top).IsLoop l →
      ((Graph.ofBlock top).Encloses l id ↔
        (Graph.ofBlock top).Encloses l t ∨ l = t ∧ (Graph.ofBlock top).Encloses t id) := by
  obtain ⟨tail, step, rest, h, rfl⟩ := h
  obtain ⟨_, hitem', -, -, hnext, -⟩ := h.get?_id htop
  obtain rfl := Option.some.inj (hitem'.symm.trans hitem)
  obtain ⟨outer, hoccurs, hloops⟩ := h.next.leavesTo_firstOr htop (hnext.symm.trans ht)
  refine ⟨⟨outer, hoccurs⟩, fun l hl => ?_⟩
  obtain ⟨tail', step', rest', h', rfl⟩ := hoccurs
  rw [h.encloses_iff htop, h.encloses_iff htop, h'.encloses_iff htop]
  exact hloops l hl

/-- A block inside an item stands in the body. -/
theorem exists_around_of_mem_blocks {inner : Block} (h : Around top around tail (step :: rest))
    (hkind : item.kind = step.kind) (hinner : inner ∈ item.blocks step.id) :
    ∃ tail' block, Around top (step.id :: around) tail' block ∧ inner.ids = blockIds block := by
  cases step with
  | check id line c => simp [Item.blocks, hkind, Step.kind] at hinner
  | act id line e => simp [Item.blocks, hkind, Step.kind] at hinner
  | choose id line branches =>
    simp only [Item.blocks, hkind, Step.kind, branchIds, List.map_map, List.mem_map] at hinner
    obtain ⟨branch, hbranch, rfl⟩ := hinner
    exact ⟨_, _, h.branch hbranch, rfl⟩
  | loop id line x body =>
    simp only [Item.blocks, hkind, Step.kind, List.mem_singleton] at hinner
    exact ⟨_, body, h.loop, by rw [hinner]⟩
  | whileHolds id line c body =>
    simp only [Item.blocks, hkind, Step.kind, List.mem_singleton] at hinner
    exact ⟨_, body, h.whileHolds, by rw [hinner]⟩

/-- **The first item of a block inside an item is inside this item and those around it.** -/
theorem inside (htop : BlockFormedAt 0 top) (h : Occurs top around id)
    (hitem : (Graph.ofBlock top).get? id = some item) {inner : Block}
    (hinner : inner ∈ item.blocks id) (ht : inner.ids.head? = some t) :
    (∃ outer, Occurs top outer t) ∧ ∀ l, (Graph.ofBlock top).Encloses l t ↔
      l = id ∨ (Graph.ofBlock top).Encloses l id := by
  obtain ⟨tail, step, rest, h, rfl⟩ := h
  obtain ⟨_, hitem', hkind, -⟩ := h.get?_id htop
  obtain rfl := Option.some.inj (hitem'.symm.trans hitem)
  obtain ⟨tail', block, h', hids⟩ := exists_around_of_mem_blocks h hkind hinner
  rw [hids] at ht
  cases block with
  | nil => cases ht
  | cons first others =>
    obtain rfl := Option.some.inj ht
    refine ⟨⟨_, h'.occurs⟩, fun l => ?_⟩
    rw [h'.encloses_iff htop, h.encloses_iff htop, List.mem_cons]

end Occurs

end Leading

end TriggerScript.Flow

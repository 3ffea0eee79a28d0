import TriggerScript.Flow.Graph
import Mathlib.Data.List.Perm.Basic
import Mathlib.Data.List.Range

/-!
# How a body is laid out

The items of a block stand one after the other in the order of its lines, each followed by what is
inside it. So the number of a step says where its item is.

* `blockSize` : how many items a block is laid out as.
* `FormedAt` : numbered in order, and with no part missing.
* `Graph.HoldsAt` : the items of a block stand at a place of a graph.
-/

namespace TriggerScript.Flow

variable {C E X : Type}

mutual

/-- How many items a step is laid out as. -/
def Step.size : Step C E X → Nat
  | .check .. => 1
  | .act .. => 1
  | .choose _ _ branches => branchesSize branches + 1
  | .loop _ _ _ body => blockSize body + 1
  | .whileHolds _ _ _ body => blockSize body + 1

/-- How many items a block is laid out as. -/
def blockSize : List (Step C E X) → Nat
  | [] => 0
  | step :: rest => step.size + blockSize rest

/-- How many items branches are laid out as. -/
def branchesSize : List (Branch C E X) → Nat
  | [] => 0
  | branch :: rest => branch.size + branchesSize rest

/-- How many items a branch is laid out as. -/
def Branch.size : Branch C E X → Nat
  | .mk _ body => blockSize body

end

/-- The first condition is there, and only the last one may be missing. -/
structure Guarded (conditions : List (Option C)) : Prop where
  first : ∃ c, conditions.head? = some (some c)
  others : ∀ c ∈ conditions.dropLast, c.isSome

mutual

/-- A step is numbered `n`, what is inside it is numbered on from there, and neither the condition
of a first branch nor the body of a loop is missing. -/
def Step.FormedAt (n : ItemId) : Step C E X → Prop
  | .check id _ _ => id = n
  | .act id _ _ => id = n
  | .choose id _ branches =>
    id = n ∧ Guarded (branches.map Branch.condition) ∧ BranchesFormedAt (n + 1) branches
  | .loop id _ _ body => id = n ∧ body ≠ [] ∧ BlockFormedAt (n + 1) body
  | .whileHolds id _ _ body => id = n ∧ body ≠ [] ∧ BlockFormedAt (n + 1) body

/-- The steps of a block are formed one after the other. -/
def BlockFormedAt (n : ItemId) : List (Step C E X) → Prop
  | [] => True
  | step :: rest => step.FormedAt n ∧ BlockFormedAt (n + step.size) rest

/-- Branches are formed one after the other. -/
def BranchesFormedAt (n : ItemId) : List (Branch C E X) → Prop
  | [] => True
  | branch :: rest => branch.FormedAt n ∧ BranchesFormedAt (n + branch.size) rest

/-- The body of a branch is formed. -/
def Branch.FormedAt (n : ItemId) : Branch C E X → Prop
  | .mk _ body => BlockFormedAt n body

end

section Append

theorem blockSize_append (xs ys : List (Step C E X)) :
    blockSize (xs ++ ys) = blockSize xs + blockSize ys := by
  induction xs with
  | nil => simp [blockSize]
  | cons x xs ih => simp only [List.cons_append, blockSize, ih]; omega

theorem branchesSize_append (xs ys : List (Branch C E X)) :
    branchesSize (xs ++ ys) = branchesSize xs + branchesSize ys := by
  induction xs with
  | nil => simp [branchesSize]
  | cons x xs ih => simp only [List.cons_append, branchesSize, ih]; omega

theorem blockFormedAt_append {n : ItemId} {xs ys : List (Step C E X)} :
    BlockFormedAt n (xs ++ ys) ↔ BlockFormedAt n xs ∧ BlockFormedAt (n + blockSize xs) ys := by
  induction xs generalizing n with
  | nil => simp [BlockFormedAt, blockSize]
  | cons x xs ih =>
    simp only [List.cons_append, BlockFormedAt, blockSize, ih, and_assoc, Nat.add_assoc]

theorem branchesFormedAt_append {n : ItemId} {xs ys : List (Branch C E X)} :
    BranchesFormedAt n (xs ++ ys) ↔
      BranchesFormedAt n xs ∧ BranchesFormedAt (n + branchesSize xs) ys := by
  induction xs generalizing n with
  | nil => simp [BranchesFormedAt, branchesSize]
  | cons x xs ih =>
    simp only [List.cons_append, BranchesFormedAt, branchesSize, ih, and_assoc, Nat.add_assoc]

end Append

theorem Step.FormedAt.id_eq {n : ItemId} {s : Step C E X} (h : s.FormedAt n) : s.id = n := by
  cases s with
  | check id line c => exact h
  | act id line e => exact h
  | choose id line branches => exact h.1
  | loop id line x body => exact h.1
  | whileHolds id line c body => exact h.1

theorem Step.size_pos (s : Step C E X) : 0 < s.size := by
  cases s <;> simp [Step.size]

theorem firstOr_eq (block : List (Step C E X)) (tail : Option ItemId) :
    firstOr block tail = (blockIds block).head?.or tail := by
  cases block with
  | nil => rfl
  | cons step rest => rfl

mutual

theorem length_layStep (parent next : Option ItemId) (s : Step C E X) :
    (layStep parent next s).length = s.size := by
  match s with
  | .check .. => rfl
  | .act .. => rfl
  | .choose id _ branches => simp [layStep, Step.size, length_layBranches]
  | .loop id _ _ body => simp [layStep, Step.size, length_layBlock]
  | .whileHolds id _ _ body => simp [layStep, Step.size, length_layBlock]

theorem length_layBlock (parent tail : Option ItemId) (block : List (Step C E X)) :
    (layBlock parent tail block).length = blockSize block := by
  match block with
  | [] => rfl
  | step :: rest => simp [layBlock, blockSize, length_layStep, length_layBlock]

theorem length_layBranches (parent next : Option ItemId) (branches : List (Branch C E X)) :
    (layBranches parent next branches).length = branchesSize branches := by
  match branches with
  | [] => rfl
  | branch :: rest =>
    simp [layBranches, branchesSize, length_layBranch, length_layBranches]

theorem length_layBranch (parent next : Option ItemId) (branch : Branch C E X) :
    (layBranch parent next branch).length = branch.size := by
  match branch with
  | .mk _ body => simp [layBranch, Branch.size, length_layBlock]

end

/-- What the item of a step does. -/
def Step.kind : Step C E X → ItemKind C E X
  | .check _ _ c => .check c
  | .act _ _ e => .act e
  | .choose _ _ branches => .choose (branchIds branches)
  | .loop _ _ values body => .loop values (blockIds body)
  | .whileHolds _ _ c body => .whileHolds c (blockIds body)

/-- The items of a step are its own item and those inside it. -/
theorem layStep_eq_cons (parent next : Option ItemId) (s : Step C E X) :
    ∃ line inner, layStep parent next s = ⟨s.kind, next, parent, line⟩ :: inner := by
  cases s with
  | check id line c => exact ⟨line, [], rfl⟩
  | act id line e => exact ⟨line, [], rfl⟩
  | choose id line branches => exact ⟨line, _, rfl⟩
  | loop id line values body => exact ⟨line, _, rfl⟩
  | whileHolds id line c body => exact ⟨line, _, rfl⟩

namespace Graph

/-- Some items stand one after the other at a place of a graph. -/
def HoldsAt (g : Graph C E X) (n : ItemId) (items : List (Item C E X)) : Prop :=
  items <+: g.items.toList.drop n

theorem holdsAt_nil (g : Graph C E X) (n : ItemId) : g.HoldsAt n [] := List.nil_prefix

theorem holdsAt_cons {g : Graph C E X} {n : ItemId} {item : Item C E X}
    {items : List (Item C E X)} :
    g.HoldsAt n (item :: items) ↔ g.get? n = some item ∧ g.HoldsAt (n + 1) items := by
  unfold HoldsAt get?
  rw [← Array.getElem?_toList]
  cases h : g.items.toList[n]? with
  | none =>
    rw [List.drop_eq_nil_of_le (List.getElem?_eq_none_iff.1 h)]
    simp
  | some found =>
    obtain ⟨hlt, rfl⟩ := List.getElem?_eq_some_iff.1 h
    rw [List.drop_eq_getElem_cons hlt, List.cons_prefix_cons, Option.some.injEq, eq_comm]

theorem holdsAt_append {g : Graph C E X} {n : ItemId} {xs ys : List (Item C E X)} :
    g.HoldsAt n (xs ++ ys) ↔ g.HoldsAt n xs ∧ g.HoldsAt (n + xs.length) ys := by
  induction xs generalizing n with
  | nil => simp [holdsAt_nil]
  | cons x xs ih =>
    rw [List.cons_append, holdsAt_cons, holdsAt_cons, ih, List.length_cons, and_assoc,
      Nat.add_assoc, Nat.add_comm 1]

/-- The items of a block are those of its first step, and behind them those of the rest. -/
theorem holdsAt_layBlock_cons {g : Graph C E X} {n : ItemId} {parent tail : Option ItemId}
    {step : Step C E X} {rest : List (Step C E X)} :
    g.HoldsAt n (layBlock parent tail (step :: rest)) ↔
      g.HoldsAt n (layStep parent (firstOr rest tail) step) ∧
        g.HoldsAt (n + step.size) (layBlock parent tail rest) := by
  rw [layBlock, holdsAt_append, length_layStep]

/-- The items of branches are those of the first branch, and behind them those of the others. -/
theorem holdsAt_layBranches_cons {g : Graph C E X} {n : ItemId} {parent next : Option ItemId}
    {branch : Branch C E X} {rest : List (Branch C E X)} :
    g.HoldsAt n (layBranches parent next (branch :: rest)) ↔
      g.HoldsAt n (layBranch parent next branch) ∧
        g.HoldsAt (n + branch.size) (layBranches parent next rest) := by
  rw [layBranches, holdsAt_append, length_layBranch]

/-- The items of each branch stand one after the other among those of all branches. -/
theorem holdsAt_of_mem_branches {g : Graph C E X} {n : ItemId} {parent next : Option ItemId}
    {branches : List (Branch C E X)} {branch : Branch C E X}
    (h : BranchesFormedAt n branches) (hg : g.HoldsAt n (layBranches parent next branches))
    (hb : branch ∈ branches) :
    ∃ m, n ≤ m ∧ BlockFormedAt m branch.body ∧ g.HoldsAt m (layBlock parent next branch.body) := by
  induction branches generalizing n with
  | nil => simp at hb
  | cons first rest ih =>
    obtain ⟨hfirst, hrest⟩ := h
    obtain ⟨hheld, hg⟩ := holdsAt_layBranches_cons.1 hg
    rcases List.mem_cons.1 hb with rfl | hb
    · cases branch
      exact ⟨n, le_rfl, hfirst, hheld⟩
    · obtain ⟨m, hm, hformed, hheld⟩ := ih hrest hg hb
      exact ⟨m, (Nat.le_add_right n first.size).trans hm, hformed, hheld⟩

theorem holdsAt_ofBlock (block : List (Step C E X)) :
    (ofBlock block).HoldsAt 0 (layBlock none none block) := by
  simp [HoldsAt, ofBlock]

theorem size_ofBlock (block : List (Step C E X)) : (ofBlock block).size = blockSize block := by
  simp [ofBlock, size, length_layBlock]

end Graph

end TriggerScript.Flow

import TriggerScript.Syntax.Expression

/-!
# The body of a trigger as a tree and as a graph

The steps of a trigger are laid out one after the other. Each item knows which item comes next:
behind the last item of a branch comes what is behind the branches, and behind the last item of a
loop comes the loop itself.

* `Step`, `Branch` : the lines of a trigger with the lines inside them. They are numbered in the
  order in which they are written. What the lines hold is left open: `C` are conditions, `E`
  effects and `X` what a loop runs over.
* `Item`, `Graph` : the items of a trigger.
* `layBlock` : the items of a block, given what comes behind it.
* `Graph.ofBlock` : the graph of a whole trigger.
-/

namespace TriggerScript.Flow

/-! ### The tree -/

mutual

/-- A line with the lines inside it. -/
inductive Step (C E X : Type) where
  /-- A condition of its own; if it fails, everything ends. -/
  | check (id : ItemId) (line : Nat) (c : C)
  | act (id : ItemId) (line : Nat) (e : E)
  /-- Branches, of which the first whose condition holds is taken. -/
  | choose (id : ItemId) (line : Nat) (branches : List (Branch C E X))
  /-- Lines that are run once for each value. -/
  | loop (id : ItemId) (line : Nat) (values : X) (body : List (Step C E X))
  /-- Lines that are run as long as a condition holds. -/
  | whileHolds (id : ItemId) (line : Nat) (c : C) (body : List (Step C E X))

/-- One branch; without a condition it is always taken. -/
inductive Branch (C E X : Type) where
  | mk (condition : Option C) (body : List (Step C E X))

end

variable {C E X : Type}

instance [Inhabited C] : Inhabited (Step C E X) := ⟨.choose 0 0 []⟩

def Step.id : Step C E X → ItemId
  | .check id _ _ => id
  | .act id _ _ => id
  | .choose id _ _ => id
  | .loop id _ _ _ => id
  | .whileHolds id _ _ _ => id

def Branch.condition : Branch C E X → Option C
  | .mk condition _ => condition

def Branch.body : Branch C E X → List (Step C E X)
  | .mk _ body => body

@[simp] theorem Branch.condition_mk (condition : Option C) (body : List (Step C E X)) :
    (Branch.mk condition body).condition = condition := rfl

@[simp] theorem Branch.body_mk (condition : Option C) (body : List (Step C E X)) :
    (Branch.mk condition body).body = body := rfl

/-- The numbers of the steps of a block. -/
def blockIds (block : List (Step C E X)) : List ItemId :=
  block.map Step.id

/-! ### The graph -/

variable {C E X : Type}

/-- What an item does. Blocks are given by the numbers of their items. -/
inductive ItemKind (C E X : Type) where
  | check (c : C)
  | act (e : E)
  | choose (branches : List (Option C × List ItemId))
  | loop (values : X) (body : List ItemId)
  | whileHolds (c : C) (body : List ItemId)

/-- An item of a trigger. -/
structure Item (C E X : Type) where
  kind : ItemKind C E X
  /-- The item that comes behind it. -/
  next : Option ItemId
  /-- The item that it stands inside. -/
  parent : Option ItemId
  line : Nat

/-- The items of a trigger, and where it starts. -/
structure Graph (C E X : Type) where
  items : Array (Item C E X)
  entry : Option ItemId

instance : Inhabited (Graph C E X) := ⟨⟨#[], none⟩⟩

/-- The first item of a block, or what comes behind an empty block. -/
def firstOr (block : List (Step C E X)) (tail : Option ItemId) : Option ItemId :=
  match block with
  | [] => tail
  | step :: _ => some step.id

/-- The branches of an item by the numbers of their items. -/
def branchIds (branches : List (Branch C E X)) : List (Option C × List ItemId) :=
  branches.map fun b => (b.condition, blockIds b.body)

mutual

/-- The items of a step behind which `next` comes. -/
def layStep (parent next : Option ItemId) : Step C E X → List (Item C E X)
  | .check _ line c => [⟨.check c, next, parent, line⟩]
  | .act _ line e => [⟨.act e, next, parent, line⟩]
  | .choose id line branches =>
    ⟨.choose (branchIds branches), next, parent, line⟩ :: layBranches (some id) next branches
  | .loop id line values body =>
    ⟨.loop values (blockIds body), next, parent, line⟩ :: layBlock (some id) (some id) body
  | .whileHolds id line c body =>
    ⟨.whileHolds c (blockIds body), next, parent, line⟩ :: layBlock (some id) (some id) body

/-- The items of a block behind which `tail` comes. -/
def layBlock (parent tail : Option ItemId) : List (Step C E X) → List (Item C E X)
  | [] => []
  | step :: rest => layStep parent (firstOr rest tail) step ++ layBlock parent tail rest

/-- The items of branches behind which `next` comes. -/
def layBranches (parent next : Option ItemId) : List (Branch C E X) → List (Item C E X)
  | [] => []
  | branch :: rest => layBranch parent next branch ++ layBranches parent next rest

/-- The items of a branch behind which `next` comes. -/
def layBranch (parent next : Option ItemId) : Branch C E X → List (Item C E X)
  | .mk _ body => layBlock parent next body

end

namespace Graph

/-- The graph of the body of a trigger. -/
def ofBlock (block : List (Step C E X)) : Graph C E X :=
  ⟨(layBlock none none block).toArray, firstOr block none⟩

def get? (g : Graph C E X) (id : ItemId) : Option (Item C E X) :=
  g.items[id]?

def size (g : Graph C E X) : Nat := g.items.size

end Graph

end TriggerScript.Flow

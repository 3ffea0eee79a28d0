import TriggerScript.Proofs.Flow.Layout
import TriggerScript.Proofs.Flow.Moves

/-!
# Well-formed graphs

The items of a graph name each other by number. In a well-formed graph they all stand in blocks
that are linked from their first item to what comes behind the last one.

* `Graph.blocks` : the blocks of a graph, with what surrounds them.
* `Graph.WellFormed` : what holds of a graph whose items fit together.
* `wellFormed_ofBlock` : the graph of a formed block is well formed.
* `Graph.WellFormed.visits_lt` : a walk only comes to items of the graph.
-/

namespace TriggerScript.Flow

variable {C E X V S W : Type}

/-- No part of an item is missing. -/
def ItemKind.Complete : ItemKind C E X → Prop
  | .check _ => True
  | .act _ => True
  | .choose branches => Guarded (branches.map Prod.fst)
  | .loop _ body => body ≠ []
  | .whileHolds _ body => body ≠ []

/-- The blocks inside items that are numbered from `n` on. -/
def blocksFrom (n : ItemId) : List (Item C E X) → List Block
  | [] => []
  | item :: rest => item.blocks n ++ blocksFrom (n + 1) rest

/-- A number that is given is below a bound. -/
def Below (bound : Nat) (id : Option ItemId) : Prop :=
  ∀ i, id = some i → i < bound

namespace Graph

/-- The blocks of a graph with these items at the top. -/
def blocks (g : Graph C E X) (top : List ItemId) : List Block :=
  ⟨none, top, none⟩ :: blocksFrom 0 g.items.toList

/-- Each item of a block stands inside its owner, and before the one that follows in the block;
the last one stands before its tail. -/
def Linked (g : Graph C E X) (block : Block) : Prop :=
  ∀ i (h : i < block.ids.length), ∃ item, g.get? block.ids[i] = some item ∧
    item.parent = block.owner ∧ item.next = block.ids[i + 1]?.or block.tail

/-- The items of a graph fit together. -/
structure WellFormed (g : Graph C E X) (top : List ItemId) : Prop where
  entry : g.entry = top.head?
  /-- Each item stands in one block, and once. -/
  once : ((g.blocks top).flatMap Block.ids).Perm (List.range g.size)
  sorted : ∀ block ∈ g.blocks top, block.ids.Pairwise (· < ·)
  linked : ∀ block ∈ g.blocks top, g.Linked block
  entry_below : Below g.size g.entry
  next_below : ∀ item ∈ g.items, Below g.size item.next
  parent_below : ∀ item ∈ g.items, Below g.size item.parent
  ids_below : ∀ block ∈ g.blocks top, ∀ id ∈ block.ids, id < g.size
  complete : ∀ item ∈ g.items, item.kind.Complete

end Graph

/-! ### Each item once -/

section Once

/-- The numbers inside items that are numbered from `n` on. -/
def innerIds (n : ItemId) (items : List (Item C E X)) : List ItemId :=
  (blocksFrom n items).flatMap Block.ids

theorem blocksFrom_append (n : ItemId) (xs ys : List (Item C E X)) :
    blocksFrom n (xs ++ ys) = blocksFrom n xs ++ blocksFrom (n + xs.length) ys := by
  induction xs generalizing n with
  | nil => simp [blocksFrom]
  | cons x xs ih => simp [blocksFrom, ih, Nat.add_assoc, Nat.add_comm 1]

theorem innerIds_append (n : ItemId) (xs ys : List (Item C E X)) :
    innerIds n (xs ++ ys) = innerIds n xs ++ innerIds (n + xs.length) ys := by
  simp [innerIds, blocksFrom_append]

/-- The numbers of two parts may be taken part by part. -/
theorem perm_range'_append {xs xs' ys ys' : List ItemId} {n a b : ItemId}
    (hx : (xs ++ xs').Perm (List.range' n a)) (hy : (ys ++ ys').Perm (List.range' (n + a) b)) :
    ((xs ++ ys) ++ (xs' ++ ys')).Perm (List.range' n (a + b)) := by
  have hparts : ((xs ++ ys) ++ (xs' ++ ys')).Perm ((xs ++ xs') ++ (ys ++ ys')) := by
    rw [List.append_assoc, List.append_assoc]
    exact (List.perm_append_comm_assoc ys xs' ys').append_left xs
  rw [← List.range'_append_1]
  exact hparts.trans (hx.append hy)

/-- The numbers in the blocks of an item and behind them come after its own. -/
theorem perm_cons {id : ItemId} {item : Item C E X} {inner : List (Item C E X)} {n : Nat}
    (h : ((item.blocks id).flatMap Block.ids ++ innerIds (id + 1) inner).Perm
      (List.range' (id + 1) n)) :
    ([id] ++ innerIds id (item :: inner)).Perm (List.range' id (n + 1)) := by
  rw [innerIds, blocksFrom, List.flatMap_append, List.range'_succ]
  exact h.cons id

mutual

/-- The numbers of a step and of what is inside it are those from its number on. -/
theorem perm_layStep {n : ItemId} {s : Step C E X} (parent next : Option ItemId)
    (h : s.FormedAt n) :
    ([s.id] ++ innerIds n (layStep parent next s)).Perm (List.range' n s.size) := by
  rw [h.id_eq]
  match s with
  | .check .. => exact .refl _
  | .act .. => exact .refl _
  | .choose id line branches =>
    obtain ⟨rfl, -, hbranches⟩ := h
    refine perm_cons ?_
    simp only [Item.blocks, branchIds, List.map_map, List.flatMap_map]
    exact perm_layBranches (some id) next hbranches
  | .loop id line x body =>
    obtain ⟨rfl, -, hbody⟩ := h
    refine perm_cons ?_
    simp only [Item.blocks, List.flatMap_singleton]
    exact perm_layBlock (some id) (some id) hbody
  | .whileHolds id line c body =>
    obtain ⟨rfl, -, hbody⟩ := h
    refine perm_cons ?_
    simp only [Item.blocks, List.flatMap_singleton]
    exact perm_layBlock (some id) (some id) hbody

theorem perm_layBlock {n : ItemId} {block : List (Step C E X)} (parent tail : Option ItemId)
    (h : BlockFormedAt n block) :
    (blockIds block ++ innerIds n (layBlock parent tail block)).Perm
      (List.range' n (blockSize block)) := by
  match block with
  | [] => exact .refl _
  | step :: rest =>
    obtain ⟨hstep, hrest⟩ := h
    rw [layBlock, innerIds_append, length_layStep]
    exact perm_range'_append (perm_layStep parent (firstOr rest tail) hstep)
      (perm_layBlock parent tail hrest)

theorem perm_layBranches {n : ItemId} {branches : List (Branch C E X)}
    (parent next : Option ItemId) (h : BranchesFormedAt n branches) :
    (branches.flatMap (blockIds ·.body) ++ innerIds n (layBranches parent next branches)).Perm
      (List.range' n (branchesSize branches)) := by
  match branches with
  | [] => exact .refl _
  | .mk condition body :: rest =>
    obtain ⟨hbody, hrest⟩ := h
    rw [layBranches, innerIds_append, length_layBranch]
    exact perm_range'_append (perm_layBlock parent next hbody) (perm_layBranches parent next hrest)

end

end Once

/-! ### Linked blocks -/

section Blocks

variable {g : Graph C E X}

theorem linked_nil {owner tail : Option ItemId} : g.Linked ⟨owner, [], tail⟩ := by
  intro i h
  simp at h

theorem linked_cons {owner tail : Option ItemId} {id : ItemId} {rest : List ItemId} :
    g.Linked ⟨owner, id :: rest, tail⟩ ↔
      (∃ item, g.get? id = some item ∧ item.parent = owner ∧ item.next = rest.head?.or tail) ∧
        g.Linked ⟨owner, rest, tail⟩ := by
  rw [List.head?_eq_getElem?]
  constructor
  · intro h
    exact ⟨h 0 (by simp), fun i hi => h (i + 1) (Nat.succ_lt_succ hi)⟩
  · rintro ⟨hfirst, hrest⟩ i hi
    cases i with
    | zero => exact hfirst
    | succ i => exact hrest i (Nat.lt_of_succ_lt_succ hi)

theorem le_of_mem_blockIds {n id : ItemId} {block : List (Step C E X)} (h : BlockFormedAt n block)
    (hid : id ∈ blockIds block) : n ≤ id := by
  induction block generalizing n with
  | nil => simp [blockIds] at hid
  | cons step rest ih =>
    obtain ⟨hstep, hrest⟩ := h
    rcases List.mem_cons.1 hid with rfl | hid
    · exact hstep.id_eq.ge
    · exact (Nat.le_add_right n step.size).trans (ih hrest hid)

theorem pairwise_blockIds {n : ItemId} {block : List (Step C E X)} (h : BlockFormedAt n block) :
    (blockIds block).Pairwise (· < ·) := by
  induction block generalizing n with
  | nil => exact .nil
  | cons step rest ih =>
    obtain ⟨hstep, hrest⟩ := h
    refine List.pairwise_cons.2 ⟨fun id hid => ?_, ih hrest⟩
    have hle := le_of_mem_blockIds hrest hid
    have hpos := step.size_pos
    rw [hstep.id_eq]
    exact (Nat.lt_add_of_pos_right hpos).trans_le hle

/-- The item of a step stands before `next`, and the blocks inside it are linked and sorted. -/
def StepLinked (g : Graph C E X) (n : ItemId) (parent next : Option ItemId) (s : Step C E X) :
    Prop :=
  (∃ item, g.get? n = some item ∧ item.parent = parent ∧ item.next = next) ∧
    ∀ block ∈ blocksFrom n (layStep parent next s),
      g.Linked block ∧ block.ids.Pairwise (· < ·)

mutual

/-- The item of a step and the blocks inside it are linked. -/
theorem linked_layStep {n : ItemId} {parent next : Option ItemId} {s : Step C E X}
    (h : s.FormedAt n) (hg : g.HoldsAt n (layStep parent next s)) :
    StepLinked g n parent next s := by
  match s with
  | .check .. =>
    obtain ⟨hitem, -⟩ := Graph.holdsAt_cons.1 hg
    exact ⟨⟨_, hitem, rfl, rfl⟩, by simp [layStep, blocksFrom, Item.blocks]⟩
  | .act .. =>
    obtain ⟨hitem, -⟩ := Graph.holdsAt_cons.1 hg
    exact ⟨⟨_, hitem, rfl, rfl⟩, by simp [layStep, blocksFrom, Item.blocks]⟩
  | .choose id line branches =>
    obtain ⟨rfl, -, hbranches⟩ := h
    obtain ⟨hitem, hg⟩ := Graph.holdsAt_cons.1 hg
    obtain ⟨hown, hinner⟩ := linked_layBranches hbranches hg
    refine ⟨⟨_, hitem, rfl, rfl⟩, List.forall_mem_append.2 ⟨fun block hblock => ?_, hinner⟩⟩
    obtain ⟨branch, hbranch, rfl⟩ := by
      simpa [Item.blocks, branchIds] using hblock
    exact hown branch hbranch
  | .loop id line x body =>
    obtain ⟨rfl, -, hbody⟩ := h
    obtain ⟨hitem, hg⟩ := Graph.holdsAt_cons.1 hg
    obtain ⟨hown, hinner⟩ := linked_layBlock hbody hg
    exact ⟨⟨_, hitem, rfl, rfl⟩,
      List.forall_mem_cons.2 ⟨⟨hown, pairwise_blockIds hbody⟩, hinner⟩⟩
  | .whileHolds id line c body =>
    obtain ⟨rfl, -, hbody⟩ := h
    obtain ⟨hitem, hg⟩ := Graph.holdsAt_cons.1 hg
    obtain ⟨hown, hinner⟩ := linked_layBlock hbody hg
    exact ⟨⟨_, hitem, rfl, rfl⟩,
      List.forall_mem_cons.2 ⟨⟨hown, pairwise_blockIds hbody⟩, hinner⟩⟩

theorem linked_layBlock {n : ItemId} {parent tail : Option ItemId}
    {block : List (Step C E X)} (h : BlockFormedAt n block)
    (hg : g.HoldsAt n (layBlock parent tail block)) :
    g.Linked ⟨parent, blockIds block, tail⟩ ∧
      ∀ inner ∈ blocksFrom n (layBlock parent tail block),
        g.Linked inner ∧ inner.ids.Pairwise (· < ·) := by
  match block with
  | [] => exact ⟨linked_nil, by simp [layBlock, blocksFrom]⟩
  | step :: rest =>
    obtain ⟨hstep, hrest⟩ := h
    rw [layBlock, Graph.holdsAt_append, length_layStep] at hg
    obtain ⟨hitem, hinner⟩ := linked_layStep hstep hg.1
    obtain ⟨hlinked, hothers⟩ := linked_layBlock hrest hg.2
    refine ⟨linked_cons.2 ⟨?_, hlinked⟩, ?_⟩
    · rw [firstOr_eq] at hitem
      rw [hstep.id_eq]
      exact hitem
    · rw [layBlock, blocksFrom_append, length_layStep]
      exact List.forall_mem_append.2 ⟨hinner, hothers⟩

theorem linked_layBranches {n : ItemId} {parent next : Option ItemId}
    {branches : List (Branch C E X)} (h : BranchesFormedAt n branches)
    (hg : g.HoldsAt n (layBranches parent next branches)) :
    (∀ branch ∈ branches, g.Linked ⟨parent, blockIds branch.body, next⟩ ∧
        (blockIds branch.body).Pairwise (· < ·)) ∧
      ∀ inner ∈ blocksFrom n (layBranches parent next branches),
        g.Linked inner ∧ inner.ids.Pairwise (· < ·) := by
  match branches with
  | [] => exact ⟨by simp, by simp [layBranches, blocksFrom]⟩
  | .mk condition body :: rest =>
    obtain ⟨hbody, hrest⟩ := h
    rw [layBranches, Graph.holdsAt_append, length_layBranch] at hg
    obtain ⟨hlinked, hinner⟩ := linked_layBlock hbody hg.1
    obtain ⟨hbranches, hothers⟩ := linked_layBranches hrest hg.2
    refine ⟨List.forall_mem_cons.2 ⟨⟨hlinked, pairwise_blockIds hbody⟩, hbranches⟩, ?_⟩
    rw [layBranches, blocksFrom_append, length_layBranch]
    exact List.forall_mem_append.2 ⟨hinner, hothers⟩

end

end Blocks

/-! ### Items by themselves -/

section Items

variable {bound : Nat}

/-- The numbers that an item names are below a bound, and no part of it is missing. -/
structure Item.Sound (bound : Nat) (item : Item C E X) : Prop where
  next : Below bound item.next
  parent : Below bound item.parent
  complete : item.kind.Complete

theorem below_none : Below bound none := nofun

theorem below_some {id : ItemId} (h : id < bound) : Below bound (some id) := by
  rintro i ⟨rfl⟩
  exact h

theorem below_firstOr {n : ItemId} {block : List (Step C E X)} {tail : Option ItemId}
    (h : BlockFormedAt n block) (hn : n + blockSize block ≤ bound) (htail : Below bound tail) :
    Below bound (firstOr block tail) := by
  cases block with
  | nil => exact htail
  | cons step rest =>
    have hpos := step.size_pos
    refine below_some ?_
    rw [h.1.id_eq]
    exact (Nat.lt_add_of_pos_right (Nat.add_pos_left hpos _)).trans_le hn

/-- An item is below a bound with what stands inside it. -/
theorem below_owner {id : ItemId} {n : Nat} (h : id + (n + 1) ≤ bound) :
    Below bound (some id) ∧ id + 1 + n ≤ bound := by
  rw [Nat.add_comm n 1, ← Nat.add_assoc] at h
  exact ⟨below_some (Nat.le_of_add_right_le h), h⟩

theorem map_fst_branchIds (branches : List (Branch C E X)) :
    (branchIds branches).map Prod.fst = branches.map Branch.condition := by
  simp [branchIds]

mutual

/-- The items of a step are sound if they end below the bound. -/
theorem sound_layStep {n : ItemId} {parent next : Option ItemId} {s : Step C E X}
    (h : s.FormedAt n) (hn : n + s.size ≤ bound) (hparent : Below bound parent)
    (hnext : Below bound next) : ∀ item ∈ layStep parent next s, item.Sound bound := by
  match s with
  | .check .. => exact List.forall_mem_singleton.2 ⟨hnext, hparent, trivial⟩
  | .act .. => exact List.forall_mem_singleton.2 ⟨hnext, hparent, trivial⟩
  | .choose id line branches =>
    obtain ⟨rfl, hguarded, hbranches⟩ := h
    obtain ⟨hid, hn⟩ := below_owner hn
    refine List.forall_mem_cons.2 ⟨⟨hnext, hparent, ?_⟩, sound_layBranches hbranches hn hid hnext⟩
    rw [← map_fst_branchIds] at hguarded
    exact hguarded
  | .loop id line x body =>
    obtain ⟨rfl, hne, hbody⟩ := h
    obtain ⟨hid, hn⟩ := below_owner hn
    refine List.forall_mem_cons.2 ⟨⟨hnext, hparent, ?_⟩, sound_layBlock hbody hn hid hid⟩
    exact List.map_eq_nil_iff.not.2 hne
  | .whileHolds id line c body =>
    obtain ⟨rfl, hne, hbody⟩ := h
    obtain ⟨hid, hn⟩ := below_owner hn
    refine List.forall_mem_cons.2 ⟨⟨hnext, hparent, ?_⟩, sound_layBlock hbody hn hid hid⟩
    exact List.map_eq_nil_iff.not.2 hne

theorem sound_layBlock {n : ItemId} {parent tail : Option ItemId} {block : List (Step C E X)}
    (h : BlockFormedAt n block) (hn : n + blockSize block ≤ bound) (hparent : Below bound parent)
    (htail : Below bound tail) : ∀ item ∈ layBlock parent tail block, item.Sound bound := by
  match block with
  | [] => simp [layBlock]
  | step :: rest =>
    obtain ⟨hstep, hrest⟩ := h
    rw [blockSize, ← Nat.add_assoc] at hn
    exact List.forall_mem_append.2
      ⟨sound_layStep hstep (Nat.le_of_add_right_le hn) hparent (below_firstOr hrest hn htail),
        sound_layBlock hrest hn hparent htail⟩

theorem sound_layBranches {n : ItemId} {parent next : Option ItemId}
    {branches : List (Branch C E X)} (h : BranchesFormedAt n branches)
    (hn : n + branchesSize branches ≤ bound) (hparent : Below bound parent)
    (hnext : Below bound next) : ∀ item ∈ layBranches parent next branches, item.Sound bound := by
  match branches with
  | [] => simp [layBranches]
  | .mk condition body :: rest =>
    obtain ⟨hbody, hrest⟩ := h
    rw [branchesSize, ← Nat.add_assoc] at hn
    exact List.forall_mem_append.2
      ⟨sound_layBlock hbody (Nat.le_of_add_right_le hn) hparent hnext,
        sound_layBranches hrest hn hparent hnext⟩

end

end Items

/-- **The graph of a formed block is well formed.** -/
theorem wellFormed_ofBlock {block : List (Step C E X)} (h : BlockFormedAt 0 block) :
    (Graph.ofBlock block).WellFormed (blockIds block) := by
  have hitems : (Graph.ofBlock block).items.toList = layBlock none none block := by
    simp [Graph.ofBlock]
  have hblocks : (Graph.ofBlock block).blocks (blockIds block) =
      ⟨none, blockIds block, none⟩ :: blocksFrom 0 (layBlock none none block) := by
    rw [Graph.blocks, hitems]
  have hsize : 0 + blockSize block ≤ (Graph.ofBlock block).size := by
    rw [Graph.size_ofBlock, Nat.zero_add]
  have hentry : (Graph.ofBlock block).entry = (blockIds block).head? := by
    simp [Graph.ofBlock, firstOr_eq]
  have honce : (((Graph.ofBlock block).blocks (blockIds block)).flatMap Block.ids).Perm
      (List.range (Graph.ofBlock block).size) := by
    rw [hblocks, Graph.size_ofBlock, List.range_eq_range']
    exact perm_layBlock none none h
  have hsound : ∀ item ∈ (Graph.ofBlock block).items, item.Sound (Graph.ofBlock block).size := by
    intro item hitem
    rw [← Array.mem_toList_iff, hitems] at hitem
    exact sound_layBlock h hsize below_none below_none item hitem
  obtain ⟨hlinked, hinner⟩ := linked_layBlock h (Graph.holdsAt_ofBlock block)
  constructor
  case entry => exact hentry
  case once => exact honce
  case sorted =>
    rw [hblocks]
    exact List.forall_mem_cons.2 ⟨pairwise_blockIds h, fun b hb => (hinner b hb).2⟩
  case linked =>
    rw [hblocks]
    exact List.forall_mem_cons.2 ⟨hlinked, fun b hb => (hinner b hb).1⟩
  case entry_below => exact below_firstOr h hsize below_none
  case next_below => exact fun item hitem => (hsound item hitem).next
  case parent_below => exact fun item hitem => (hsound item hitem).parent
  case ids_below =>
    intro b hb id hid
    exact List.mem_range.1 (honce.mem_iff.1 (List.mem_flatMap.2 ⟨b, hb, hid⟩))
  case complete => exact fun item hitem => (hsound item hitem).complete

theorem blocks_subset_blocksFrom {items : List (Item C E X)} {n i : ItemId} {item : Item C E X}
    (h : items[i]? = some item) : item.blocks (n + i) ⊆ blocksFrom n items := by
  induction items generalizing n i with
  | nil => simp at h
  | cons first rest ih =>
    intro block hblock
    cases i with
    | zero =>
      obtain rfl : first = item := by simpa using h
      exact List.mem_append_left _ hblock
    | succ i =>
      refine List.mem_append_right _ (ih (i := i) (by simpa using h) ?_)
      rwa [Nat.add_assoc, Nat.add_comm 1]

namespace Graph.WellFormed

variable {g : Graph C E X} {top : List ItemId} {b : Behaviour C E X V S W}
  {s : WalkState V S W} {id t : ItemId}

/-- Steps of a walk lead from items to items. -/
theorem target_lt (h : g.WellFormed top) (hid : id < g.size)
    (ht : (step g b s id).1.target = some t) : t < g.size := by
  obtain ⟨item, hitem, hnext | ⟨block, hblock, hhead⟩ | rfl⟩ := step_target ht
  · obtain ⟨hlt, rfl⟩ := Array.getElem?_eq_some_iff.1 hitem
    exact h.next_below _ (Array.getElem_mem hlt) t hnext
  · have hmem : block ∈ g.blocks top := by
      have hlist : g.items.toList[id]? = some item := by simpa [get?] using hitem
      have hsub : item.blocks (0 + id) ⊆ blocksFrom 0 g.items.toList :=
        blocks_subset_blocksFrom hlist
      rw [Nat.zero_add] at hsub
      exact List.mem_cons_of_mem _ (hsub hblock)
    exact h.ids_below block hmem t (List.mem_of_head? hhead)
  · exact hid

/-- A walk only comes to items of the graph. -/
theorem visits_lt (h : g.WellFormed top) {world : W} {delayed : Bool}
    (hv : Visits g b world delayed s id) : id < g.size := by
  induction hv with
  | entry hentry => exact h.entry_below _ hentry
  | go _ hstep ih => exact h.target_lt ih (by rw [hstep]; rfl)
  | resume _ hstep _ ih => exact h.target_lt ih (by rw [hstep]; rfl)

end Graph.WellFormed

end TriggerScript.Flow

import TriggerScript.Proofs.Outline.Accounts

/-!
# Where lines stand

Each line of a source stands in one place of its outline, so that the number of a line tells which
lines are around it.

* `Within` : a node stands among some nodes, at any depth.
* `Covers` : a line encloses another one, or is that line.
* `eq_of_mem_linesOfNode` : two nodes side by side share no line.
* `covers_iff` : what encloses a line below one of some nodes.
* `nodup_readOutline` : no line of a source comes twice in its outline.
-/

namespace TriggerScript.Outline

open Parsing

/-- A node stands among some nodes, at any depth. -/
inductive Within : List Node → Node → Prop where
  | here {nodes : List Node} {node : Node} (h : node ∈ nodes) : Within nodes node
  | inside {nodes : List Node} {outer node : Node} (h : outer ∈ nodes)
    (hinside : Within outer.children node) : Within nodes node

/-- Among some nodes a line encloses another one, or is that line. -/
def Covers (nodes : List Node) (m n : Nat) : Prop :=
  ∃ node, Within nodes node ∧ node.line = m ∧ n ∈ linesOfNode node

variable {nodes : List Node} {node a b : Node} {m n : Nat}

theorem Within.mono {others : List Node} (h : Within nodes node) (hsub : nodes ⊆ others) :
    Within others node := by
  cases h with
  | here h => exact .here (hsub h)
  | inside h hinside => exact .inside (hsub h) hinside

/-! ### The lines of nodes -/

theorem linesOfNode_eq (node : Node) : linesOfNode node = node.line :: linesOf node.children := by
  cases node with
  | entry line key => rfl
  | heading line key children => rfl

theorem mem_linesOf_iff : n ∈ linesOf nodes ↔ ∃ node ∈ nodes, n ∈ linesOfNode node := by
  induction nodes with
  | nil => simp [linesOf]
  | cons node rest ih => simp [linesOf, ih]

theorem line_mem_linesOfNode (node : Node) : node.line ∈ linesOfNode node := by
  rw [linesOfNode_eq]
  exact List.mem_cons_self

theorem mem_linesOfNode_of_below (h : n ∈ linesOf node.children) : n ∈ linesOfNode node := by
  rw [linesOfNode_eq]
  exact List.mem_cons_of_mem _ h

theorem mem_linesOfNode_of_child (h : n ∈ node.children.map Node.line) : n ∈ linesOfNode node := by
  obtain ⟨child, hchild, rfl⟩ := List.mem_map.1 h
  exact mem_linesOfNode_of_below (mem_linesOf_iff.2 ⟨child, hchild, line_mem_linesOfNode child⟩)

/-- The lines of a node are among those of the nodes that it stands in. -/
theorem Within.mem_linesOf (h : Within nodes node) (hn : n ∈ linesOfNode node) :
    n ∈ linesOf nodes := by
  induction h with
  | here h => exact mem_linesOf_iff.2 ⟨_, h, hn⟩
  | inside h _ ih => exact mem_linesOf_iff.2 ⟨_, h, mem_linesOfNode_of_below (ih hn)⟩

/-! ### Lines that come once -/

/-- Two nodes side by side share no line. -/
theorem eq_of_mem_linesOfNode (hnodup : (linesOf nodes).Nodup) (ha : a ∈ nodes) (hb : b ∈ nodes)
    (hna : n ∈ linesOfNode a) (hnb : n ∈ linesOfNode b) : a = b := by
  induction nodes with
  | nil => cases ha
  | cons node rest ih =>
    obtain ⟨-, hrest, hdisjoint⟩ := List.nodup_append'.1 hnodup
    have hlater {x : Node} (hx : x ∈ rest) (hn : n ∈ linesOfNode x) : n ∉ linesOfNode node :=
      fun hnode => hdisjoint hnode (mem_linesOf_iff.2 ⟨x, hx, hn⟩)
    rcases List.mem_cons.1 ha with rfl | ha'
    · rcases List.mem_cons.1 hb with rfl | hb'
      · rfl
      · exact absurd hna (hlater hb' hnb)
    · rcases List.mem_cons.1 hb with rfl | hb'
      · exact absurd hnb (hlater ha' hna)
      · exact ih hrest ha' hb'

theorem nodup_linesOfNode (hnodup : (linesOf nodes).Nodup) (h : node ∈ nodes) :
    (linesOfNode node).Nodup := by
  induction nodes with
  | nil => cases h
  | cons first rest ih =>
    obtain ⟨hfirst, hrest, -⟩ := List.nodup_append'.1 hnodup
    rcases List.mem_cons.1 h with rfl | h
    · exact hfirst
    · exact ih hrest h

theorem nodup_below (hnodup : (linesOf nodes).Nodup) (h : node ∈ nodes) :
    node.line ∉ linesOf node.children ∧ (linesOf node.children).Nodup := by
  have hnode := nodup_linesOfNode hnodup h
  rw [linesOfNode_eq] at hnode
  exact List.nodup_cons.1 hnode

/-- A node whose line is below another node stands below it. -/
theorem Within.within_children {x : Node} (hx : Within nodes x) (hnodup : (linesOf nodes).Nodup)
    (h : node ∈ nodes) (hline : x.line ∈ linesOf node.children) : Within node.children x := by
  have hnode := mem_linesOfNode_of_below hline
  cases hx with
  | here hx =>
    obtain rfl := eq_of_mem_linesOfNode hnodup hx h (line_mem_linesOfNode x) hnode
    exact absurd hline (nodup_below hnodup hx).1
  | inside houter hx =>
    have hshared := mem_linesOfNode_of_below (hx.mem_linesOf (line_mem_linesOfNode x))
    obtain rfl := eq_of_mem_linesOfNode hnodup houter h hshared hnode
    exact hx

/-- The number of a line tells its node. -/
theorem Within.eq_of_line {x y : Node} (hy : Within nodes y) (hnodup : (linesOf nodes).Nodup)
    (hx : Within nodes x) (hline : y.line = x.line) : y = x := by
  induction hy with
  | here hy =>
    cases hx with
    | here hx =>
      have hshared := line_mem_linesOfNode x
      rw [← hline] at hshared
      exact eq_of_mem_linesOfNode hnodup hy hx (line_mem_linesOfNode _) hshared
    | inside houter hx =>
      have hbelow := hx.mem_linesOf (line_mem_linesOfNode x)
      rw [← hline] at hbelow
      obtain rfl := eq_of_mem_linesOfNode hnodup hy houter (line_mem_linesOfNode _)
        (mem_linesOfNode_of_below hbelow)
      exact absurd hbelow (nodup_below hnodup hy).1
  | inside houter hy ih =>
    have hbelow := hy.mem_linesOf (line_mem_linesOfNode _)
    rw [hline] at hbelow
    exact ih (nodup_below hnodup houter).2 (hx.within_children hnodup houter hbelow) hline

/-- A line below a node is enclosed by this node, and by what encloses it below the node. -/
theorem covers_iff (hnodup : (linesOf nodes).Nodup) (h : node ∈ nodes)
    (hn : n ∈ linesOf node.children) :
    Covers nodes m n ↔ m = node.line ∨ Covers node.children m n := by
  have hnode := mem_linesOfNode_of_below hn
  constructor
  · rintro ⟨x, hx, rfl, hnx⟩
    cases hx with
    | here hx =>
      obtain rfl := eq_of_mem_linesOfNode hnodup hx h hnx hnode
      exact .inl rfl
    | inside houter hx =>
      have hshared := mem_linesOfNode_of_below (hx.mem_linesOf hnx)
      obtain rfl := eq_of_mem_linesOfNode hnodup houter h hshared hnode
      exact .inr ⟨x, hx, rfl, hnx⟩
  · rintro (rfl | ⟨x, hx, rfl, hnx⟩)
    · exact ⟨node, .here h, rfl, hnode⟩
    · exact ⟨x, .inside h hx, rfl, hnx⟩

/-- No line of a source comes twice, as a line of a node or as one that is left out. -/
theorem nodup_readOutline (source : String) :
    (linesOf (readOutline source).1 ++ (readOutline source).2.map OutlineError.line).Nodup := by
  have hparted := parted_readOutline source
  have hnodup := (pairwise_counted 1 (Text.lines source.toList)).imp fun h => Nat.ne_of_lt h
  exact hparted.perm.nodup_iff.2 hnodup

end TriggerScript.Outline

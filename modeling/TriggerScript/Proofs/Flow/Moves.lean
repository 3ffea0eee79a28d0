import TriggerScript.Flow.Walk

/-!
# Where a step of a walk leads

* `Item.blocks` : the blocks inside an item.
* `Move.target` : where a walk goes on, now or after a suspension.
* `step_target` : a step leads behind its item, into it, or back to it.
* `step_suspended` : only effects suspend a walk.
* `Visits` : the items that a walk comes to, going on after each suspension.
-/

namespace TriggerScript.Flow

variable {C E X V S W : Type}

/-- A block of items: what it stands inside, and what comes behind its last item. -/
structure Block where
  owner : Option ItemId
  ids : List ItemId
  tail : Option ItemId

/-- The blocks inside an item. -/
def Item.blocks (id : ItemId) (item : Item C E X) : List Block :=
  match item.kind with
  | .check _ => []
  | .act _ => []
  | .choose branches => branches.map fun branch => ⟨some id, branch.2, item.next⟩
  | .loop _ body => [⟨some id, body, some id⟩]
  | .whileHolds _ body => [⟨some id, body, some id⟩]

/-- Where a walk goes on, now or after a suspension. -/
def Move.target : Move → Option ItemId
  | .go next => next
  | .halt (.suspended resume _) => resume
  | .halt .finished => none
  | .halt .stopped => none
  | .halt (.failed _) => none

section Target

variable {g : Graph C E X} {b : Behaviour C E X V S W} {s s' : WalkState V S W} {id t : ItemId}

theorem mem_of_chooseBranch {branches : List (Option C × List ItemId)} {ids : List ItemId}
    (h : chooseBranch b s branches = (.ok (some ids), s')) : ∃ c, (c, ids) ∈ branches := by
  induction branches generalizing s with
  | nil => simp [chooseBranch] at h
  | cons branch rest ih =>
    obtain ⟨c, body⟩ := branch
    cases c with
    | none =>
      simp only [chooseBranch, Prod.mk.injEq, Except.ok.injEq, Option.some.injEq] at h
      exact ⟨none, by simp [h.1]⟩
    | some c =>
      simp only [chooseBranch] at h
      split at h
      · simp at h
      · simp only [Prod.mk.injEq, Except.ok.injEq, Option.some.injEq] at h
        exact ⟨some c, by simp [h.1]⟩
      · obtain ⟨c', hmem⟩ := ih h
        exact ⟨c', List.mem_cons_of_mem _ hmem⟩

/-- A walk goes behind an item, to the start of a block inside it, or back to it. -/
def Item.LeadsTo (id : ItemId) (item : Item C E X) (t : ItemId) : Prop :=
  item.next = some t ∨ (∃ block ∈ item.blocks id, block.ids.head? = some t) ∨ t = id

theorem leadsTo_of_body {item : Item C E X} {body : List ItemId}
    (hbody : ⟨some id, body, some id⟩ ∈ item.blocks id)
    (h : body.head?.or (some id) = some t) : item.LeadsTo id t := by
  cases hhead : body.head? with
  | none => exact .inr (.inr (by simpa [hhead] using h.symm))
  | some first => exact .inr (.inl ⟨_, hbody, by simpa [hhead] using h⟩)

theorem stepLoop_target {values : X} {body : List ItemId} {next : Option ItemId}
    (h : (stepLoop b s id values body next).1.target = some t) :
    next = some t ∨ body.head?.or (some id) = some t := by
  unfold stepLoop at h
  simp only at h
  split at h
  · simp [Move.target] at h
  · split at h
    · exact .inr h
    · exact .inl h

theorem stepItem_target {item : Item C E X}
    (h : (stepItem b s id item).1.target = some t) : item.LeadsTo id t := by
  cases hkind : item.kind with
  | check c =>
    simp only [stepItem, hkind] at h
    split at h
    · simp [Move.target] at h
    · exact .inl h
    · simp [Move.target] at h
  | act e =>
    simp only [stepItem, hkind] at h
    split at h
    · simp [Move.target] at h
    · exact .inl h
    · exact .inl h
  | choose branches =>
    simp only [stepItem, hkind] at h
    split at h
    · simp [Move.target] at h
    · next chosen s' hchosen =>
      rcases Option.or_eq_some_iff.1 h with h | ⟨-, h⟩
      · obtain ⟨ids, rfl, hhead⟩ := Option.bind_eq_some_iff.1 h
        obtain ⟨c, hmem⟩ := mem_of_chooseBranch hchosen
        refine .inr (.inl ⟨⟨some id, ids, item.next⟩, ?_, hhead⟩)
        simpa [Item.blocks, hkind] using ⟨c, hmem⟩
      · exact .inl h
  | loop values body =>
    simp only [stepItem, hkind] at h
    rcases stepLoop_target h with h | h
    · exact .inl h
    · exact leadsTo_of_body (by simp [Item.blocks, hkind]) h
  | whileHolds c body =>
    simp only [stepItem, hkind] at h
    split at h
    · simp [Move.target] at h
    · exact leadsTo_of_body (by simp [Item.blocks, hkind]) h
    · exact .inl h

/-- **A step leads behind its item, into it, or back to it.** -/
theorem step_target (h : (step g b s id).1.target = some t) :
    ∃ item, g.get? id = some item ∧ item.LeadsTo id t := by
  simp only [step] at h
  split at h
  · next item hitem => exact ⟨item, hitem, stepItem_target h⟩
  · simp [Move.target] at h

theorem stepLoop_not_suspended {values : X} {body : List ItemId} {next resume : Option ItemId}
    {ticks : UInt64} : (stepLoop b s id values body next).1 ≠ .halt (.suspended resume ticks) := by
  unfold stepLoop
  simp only
  split
  · simp
  · split <;> simp

/-- **Only effects suspend a walk,** and then it goes on behind them. -/
theorem step_suspended {resume : Option ItemId} {ticks : UInt64}
    (h : step g b s id = (.halt (.suspended resume ticks), s')) :
    ∃ item e, g.get? id = some item ∧ item.kind = .act e ∧ item.next = resume ∧
      ∃ site w, (b.act site e w).1 = .ok (.suspend ticks) := by
  simp only [step] at h
  split at h
  · next item hitem =>
    refine ⟨item, ?_⟩
    cases hkind : item.kind with
    | check c =>
      simp only [stepItem, hkind] at h
      split at h <;> simp at h
    | act e =>
      simp only [stepItem, hkind] at h
      split at h
      · simp at h
      · simp at h
      · next found hact =>
        simp only [Prod.mk.injEq, Move.halt.injEq, Outcome.suspended.injEq] at h
        obtain ⟨⟨hnext, rfl⟩, -⟩ := h
        exact ⟨e, hitem, rfl, hnext, _, _, congrArg Prod.fst hact⟩
    | choose branches =>
      simp only [stepItem, hkind] at h
      split at h <;> simp at h
    | loop values body =>
      simp only [stepItem, hkind] at h
      exact absurd (congrArg Prod.fst h) stepLoop_not_suspended
    | whileHolds c body =>
      simp only [stepItem, hkind] at h
      split at h <;> simp at h
  · simp at h

end Target

/-- Effects suspend a walk exactly when they say that they delay, if they do not fail. -/
def Behaviour.SuspendsBy (b : Behaviour C E X V S W) (isDelay : E → Bool) : Prop :=
  ∀ site e w pace, (b.act site e w).1 = .ok pace → (pace ≠ .proceed ↔ isDelay e = true)

/-- A walk comes to an item, after a suspension or not. While it is suspended, the world may
change in any way. -/
inductive Visits (g : Graph C E X) (b : Behaviour C E X V S W) (world : W) :
    Bool → WalkState V S W → ItemId → Prop where
  | entry {id : ItemId} (hentry : g.entry = some id) : Visits g b world false (.start world) id
  | go {delayed : Bool} {s s' : WalkState V S W} {id t : ItemId} (h : Visits g b world delayed s id)
      (hstep : step g b s id = (.go (some t), s')) : Visits g b world delayed s' t
  | resume {delayed : Bool} {s s' : WalkState V S W} {id t : ItemId} {ticks : UInt64}
      (h : Visits g b world delayed s id)
      (hstep : step g b s id = (.halt (.suspended (some t) ticks), s')) (changed : W) :
      Visits g b world true { s' with world := changed } t

end TriggerScript.Flow

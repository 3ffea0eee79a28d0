import TriggerScript.Proofs.Flow.Moves

/-!
# The loops of a run

A running loop keeps the values that are left and the current one. What lines do leaves these alone,
so a property of them has to be shown only for what a loop takes when it is come to.

* `frame?_setFrame`, `frame?_endLoop` : the running loops after one of them was set or ended.
* `WalkState.Holds` : a property of the world, and one of the frame of each loop.
* `Behaviour.Keeps` : what lines do keeps both.
* `Holds.step` : a step keeps both, if a loop that is come to starts out well.
* `Reaches`, `Reaches.holds` : so does a whole run, with other changes of the world in between.
-/

namespace TriggerScript.Flow

variable {C E X V S W : Type}

/-! ### Frames -/

namespace WalkState

theorem lookup_filter {α : Type} (keep : ItemId → Bool) (loops : List (ItemId × α)) (id : ItemId) :
    (loops.filter fun entry => keep entry.1).lookup id =
      if keep id then loops.lookup id else none := by
  induction loops with
  | nil => simp
  | cons entry rest ih =>
    obtain ⟨k, a⟩ := entry
    rw [List.filter_cons, List.lookup_cons]
    by_cases hid : id = k
    · subst hid
      cases hkeep : keep id <;> simp [hkeep, ih]
    · have hne : (id == k) = false := beq_eq_false_iff_ne.2 hid
      cases keep k <;> simp [List.lookup_cons, hne, ih]

theorem frame?_endLoop (s : WalkState V S W) (id id' : ItemId) :
    (s.endLoop id).frame? id' = if id' = id then none else s.frame? id' := by
  rw [frame?, endLoop, lookup_filter (· != id)]
  by_cases hid : id' = id <;> simp [hid, frame?]

theorem frame?_setFrame (s : WalkState V S W) (id id' : ItemId) (frame : LoopFrame V S) :
    (s.setFrame id frame).frame? id' = if id' = id then some frame else s.frame? id' := by
  have hrest := s.frame?_endLoop id id'
  rw [frame?] at hrest
  rw [frame?, setFrame, List.lookup_cons, hrest]
  by_cases hid : id' = id
  · simp [hid]
  · have hne : (id' == id) = false := beq_eq_false_iff_ne.2 hid
    simp [hid, hne]

end WalkState

/-! ### What a step keeps -/

/-- The world has a property, and so does the frame of each running loop, given what the loop runs
over. -/
structure WalkState.Holds (g : Graph C E X) (K : W → Prop) (F : X → LoopFrame V S → Prop)
    (s : WalkState V S W) : Prop where
  world : K s.world
  frames : ∀ id frame item x body, s.frame? id = some frame → g.get? id = some item →
    item.kind = .loop x body → F x frame

/-- What lines do keeps a property of the world, and taking a value from a loop also keeps one of
its frame. -/
structure Behaviour.Keeps (b : Behaviour C E X V S W) (K : W → Prop)
    (F : X → LoopFrame V S → Prop) : Prop where
  check : ∀ site c w, K w → K (b.check site c w).2
  act : ∀ site e w, K w → K (b.act site e w).2
  supply : ∀ site x w, K w → K (b.supply site x w).2
  next : ∀ id supply w, K w → K (b.next id supply w).2
  taken : ∀ id x frame w v rest, K w → F x frame →
    (b.next id frame.supply w).1 = some (v, rest) → F x ⟨rest, some v⟩
  ended : ∀ x frame, F x frame → F x ⟨frame.supply, none⟩

namespace WalkState.Holds

variable {g : Graph C E X} {b : Behaviour C E X V S W} {K : W → Prop}
  {F : X → LoopFrame V S → Prop} {s : WalkState V S W} {id : ItemId}

theorem withWorld (h : s.Holds g K F) {w : W} (hw : K w) : { s with world := w }.Holds g K F :=
  ⟨hw, h.frames⟩

theorem endLoop (h : s.Holds g K F) (id : ItemId) : (s.endLoop id).Holds g K F where
  world := h.world
  frames id' frame item x body hframe hitem hkind := by
    rw [frame?_endLoop] at hframe
    split at hframe
    · cases hframe
    · exact h.frames id' frame item x body hframe hitem hkind

theorem setFrame (h : s.Holds g K F) {frame : LoopFrame V S}
    (hnew : ∀ item x body, g.get? id = some item → item.kind = .loop x body → F x frame) :
    (s.setFrame id frame).Holds g K F where
  world := h.world
  frames id' frame' item x body hframe hitem hkind := by
    rw [frame?_setFrame] at hframe
    split at hframe
    · next heq =>
      subst heq
      obtain rfl := Option.some.inj hframe
      exact hnew item x body hitem hkind
    · exact h.frames id' frame' item x body hframe hitem hkind

variable (hb : b.Keeps K F)

include hb

theorem check (h : s.Holds g K F) (c : C) :
    (s.inWorld fun site => b.check site c).2.Holds g K F :=
  h.withWorld (hb.check s.site c s.world h.world)

theorem act (h : s.Holds g K F) (e : E) : (s.inWorld fun site => b.act site e).2.Holds g K F :=
  h.withWorld (hb.act s.site e s.world h.world)

theorem supply (h : s.Holds g K F) (x : X) :
    (s.inWorld fun site => b.supply site x).2.Holds g K F :=
  h.withWorld (hb.supply s.site x s.world h.world)

theorem chooseBranch (h : s.Holds g K F) (branches : List (Option C × List ItemId)) :
    (chooseBranch b s branches).2.Holds g K F := by
  induction branches generalizing s with
  | nil => exact h
  | cons branch rest ih =>
    obtain ⟨c, body⟩ := branch
    cases c with
    | none => exact h
    | some c =>
      have hchecked := h.check hb c
      simp only [Flow.chooseBranch]
      split
      · next heq => rwa [heq] at hchecked
      · next heq => rwa [heq] at hchecked
      · next heq =>
        rw [heq] at hchecked
        exact ih hchecked

theorem advanceLoop (h : s.Holds g K F) : (s.advanceLoop (b.next id) id).2.Holds g K F := by
  unfold WalkState.advanceLoop
  cases hframe : s.frame? id with
  | none => exact h
  | some frame =>
    have hworld := hb.next id frame.supply s.world h.world
    simp only
    split
    · next v rest world hnext =>
      have hset : (s.setFrame id ⟨rest, some v⟩).Holds g K F := by
        refine h.setFrame fun item x body hitem hkind => ?_
        have hold := h.frames id frame item x body hframe hitem hkind
        exact hb.taken id x frame s.world v rest h.world hold (congrArg Prod.fst hnext)
      rw [hnext] at hworld
      exact hset.withWorld hworld
    · next world hnext =>
      have hset : (s.setFrame id ⟨frame.supply, none⟩).Holds g K F :=
        h.setFrame fun item x body hitem hkind =>
          hb.ended x frame (h.frames id frame item x body hframe hitem hkind)
      rw [hnext] at hworld
      exact hset.withWorld hworld

theorem stepLoop (h : s.Holds g K F) {x : X} {body : List ItemId} {next : Option ItemId}
    (hsupply : ∀ supply, (b.supply s.site x s.world).1 = .ok supply →
      ∀ item x' body', g.get? id = some item → item.kind = .loop x' body' → F x' ⟨supply, none⟩) :
    (stepLoop b s id x body next).2.Holds g K F := by
  -- Once the loop is running, only its next value is taken.
  have hadvanced {s s' : WalkState V S W} {more : Bool} (h : s.Holds g K F)
      (heq : s.advanceLoop (b.next id) id = (more, s')) :
      s'.Holds g K F ∧ (s'.endLoop id).Holds g K F := by
    have hnext : (s.advanceLoop (b.next id) id).2.Holds g K F := h.advanceLoop hb
    rw [heq] at hnext
    exact ⟨hnext, hnext.endLoop id⟩
  unfold Flow.stepLoop
  cases hloop : s.hasLoop id with
  | true =>
    simp only [if_true]
    split
    · next heq => exact (hadvanced h heq).1
    · next heq => exact (hadvanced h heq).2
  | false =>
    have htaken := h.supply hb x
    simp only [Bool.false_eq_true, if_false]
    cases hresult : s.inWorld fun site => b.supply site x with
    | mk result s' =>
      rw [hresult] at htaken
      cases result with
      | error fault => exact htaken
      | ok supply =>
        have hstarted := htaken.setFrame (hsupply supply (congrArg Prod.fst hresult))
        simp only [startLoop]
        split
        · next heq => exact (hadvanced hstarted heq).1
        · next heq => exact (hadvanced hstarted heq).2

theorem stepItem (h : s.Holds g K F) {item : Item C E X} (hitem : g.get? id = some item)
    (hsupply : ∀ x body, item.kind = .loop x body → ∀ supply,
      (b.supply s.site x s.world).1 = .ok supply → F x ⟨supply, none⟩) :
    (stepItem b s id item).2.Holds g K F := by
  cases hkind : item.kind with
  | check c =>
    have hchecked := h.check hb c
    simp only [Flow.stepItem, hkind]
    split <;> (next heq => rwa [heq] at hchecked)
  | act e =>
    have hacted := h.act hb e
    simp only [Flow.stepItem, hkind]
    split <;> (next heq => rwa [heq] at hacted)
  | choose branches =>
    have hchosen := h.chooseBranch hb branches
    simp only [Flow.stepItem, hkind]
    split <;> (next heq => rwa [heq] at hchosen)
  | loop x body =>
    simp only [Flow.stepItem, hkind]
    refine h.stepLoop hb fun supply htaken item' x' body' hitem' hkind' => ?_
    obtain rfl := Option.some.inj (hitem.symm.trans hitem')
    obtain ⟨rfl, rfl⟩ := ItemKind.loop.inj (hkind.symm.trans hkind')
    exact hsupply x body hkind supply htaken
  | whileHolds c body =>
    have hchecked := h.check hb c
    simp only [Flow.stepItem, hkind]
    split <;> (next heq => rwa [heq] at hchecked)

/-- **A step keeps what holds of the world and of the running loops,** if a loop that is come to
starts out well. -/
theorem step (h : s.Holds g K F)
    (hsupply : ∀ item x body, g.get? id = some item → item.kind = .loop x body → ∀ supply,
      (b.supply ⟨some id, s.loopValue?⟩ x s.world).1 = .ok supply → F x ⟨supply, none⟩) :
    (step g b s id).2.Holds g K F := by
  have hplaced : { s with place := some id }.Holds g K F := ⟨h.world, h.frames⟩
  simp only [Flow.step]
  split
  · next item hitem => exact hplaced.stepItem hb hitem fun x body => hsupply item x body hitem
  · exact hplaced

end WalkState.Holds

/-! ### What a run keeps -/

/-- A run comes to an item. While it is suspended, the world may change in any way that keeps a
property. -/
inductive Reaches (g : Graph C E X) (b : Behaviour C E X V S W) (K : W → Prop) :
    WalkState V S W → ItemId → Prop where
  | entry {world : W} {id : ItemId} (hworld : K world) (hentry : g.entry = some id) :
    Reaches g b K (.start world) id
  | go {s s' : WalkState V S W} {id t : ItemId} (h : Reaches g b K s id)
    (hstep : step g b s id = (.go (some t), s')) : Reaches g b K s' t
  | resume {s s' : WalkState V S W} {id t : ItemId} {ticks : UInt64} {changed : W}
    (h : Reaches g b K s id) (hstep : step g b s id = (.halt (.suspended (some t) ticks), s'))
    (hchanged : K changed) : Reaches g b K { s' with world := changed } t

/-- **A run keeps what holds of the world and of the running loops,** if each loop that it comes to
starts out well. -/
theorem Reaches.holds {g : Graph C E X} {b : Behaviour C E X V S W} {K : W → Prop}
    {F : X → LoopFrame V S → Prop} (hb : b.Keeps K F)
    (hsupply : ∀ s id item x body, Reaches g b K s id → s.Holds g K F → g.get? id = some item →
      item.kind = .loop x body → ∀ supply,
        (b.supply ⟨some id, s.loopValue?⟩ x s.world).1 = .ok supply → F x ⟨supply, none⟩)
    {s : WalkState V S W} {id : ItemId} (h : Reaches g b K s id) : s.Holds g K F := by
  induction h with
  | entry hworld hentry => exact ⟨hworld, fun id frame _ _ _ hframe => nomatch hframe⟩
  | @go s s' id t h hstep ih =>
    have hkept := ih.step hb fun item x body => hsupply s id item x body h ih
    rwa [hstep] at hkept
  | @resume s s' id t ticks changed h hstep hchanged ih =>
    have hkept := ih.step hb fun item x body => hsupply s id item x body h ih
    rw [hstep] at hkept
    exact hkept.withWorld hchanged

end TriggerScript.Flow

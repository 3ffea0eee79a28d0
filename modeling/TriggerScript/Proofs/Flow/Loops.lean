import TriggerScript.Proofs.Flow.Frames
import TriggerScript.Proofs.Flow.Nesting
import TriggerScript.Proofs.Flow.WellFormed

/-!
# Which loops are running

A loop is started where a walk comes to it, and it is ended when it has no value left. In between
the walk stays inside the loop, whatever its lines do and however often it is suspended there. So
wherever a walk comes to, the loops that are running can be told from the links of the items.

* `LoopStep`, `step_loop` : what a loop does to the running loops.
* `step_loops` : other lines do nothing to them.
* `Graph.CameBack` : a walk comes to an item from inside it.
* `WalkState.LoopsFit` : the running loops are those around an item, and each of them has a value.
* `LoopsFit.step`, `Reaches.loopsFit` : a step keeps it that way, and so does a whole run.
* `TakesNext` : a loop that is entered again starts afresh.
-/

namespace TriggerScript.Flow

variable {C E X V S W : Type}

/-! ### What a step does to the running loops -/

section Steps

variable {g : Graph C E X} {b : Behaviour C E X V S W} {s s' : WalkState V S W} {id : ItemId}
  {item : Item C E X} {x : X} {body : List ItemId} {next t : Option ItemId}

/-- Nothing but the world differs. -/
def WalkState.SameLoops (s s' : WalkState V S W) : Prop :=
  s'.loops = s.loops ∧ s'.place = s.place

theorem sameLoops_inWorld {α : Type} (f : Site V → W → α × W) : s.SameLoops (s.inWorld f).2 :=
  ⟨rfl, rfl⟩

theorem sameLoops_chooseBranch (branches : List (Option C × List ItemId)) :
    s.SameLoops (chooseBranch b s branches).2 := by
  induction branches generalizing s with
  | nil => exact ⟨rfl, rfl⟩
  | cons branch rest ih =>
    obtain ⟨c, ids⟩ := branch
    cases c with
    | none => exact ⟨rfl, rfl⟩
    | some c =>
      have hchecked := sameLoops_inWorld (s := s) fun site => b.check site c
      simp only [chooseBranch]
      split
      · next heq => rwa [heq] at hchecked
      · next heq => rwa [heq] at hchecked
      · next heq =>
        rw [heq] at hchecked
        obtain ⟨hloops, hplace⟩ := ih (s := _)
        exact ⟨hloops.trans hchecked.1, hplace.trans hchecked.2⟩

theorem sameLoops_stepItem (h : ∀ x body, item.kind ≠ .loop x body) :
    s.SameLoops (stepItem b s id item).2 := by
  cases hkind : item.kind with
  | check c =>
    have hchecked := sameLoops_inWorld (s := s) fun site => b.check site c
    simp only [stepItem, hkind]
    split <;> (next heq => rwa [heq] at hchecked)
  | act e =>
    have hacted := sameLoops_inWorld (s := s) fun site => b.act site e
    simp only [stepItem, hkind]
    split <;> (next heq => rwa [heq] at hacted)
  | choose branches =>
    have hchosen := sameLoops_chooseBranch (b := b) (s := s) branches
    simp only [stepItem, hkind]
    split <;> (next heq => rwa [heq] at hchosen)
  | loop x body => exact absurd hkind (h x body)
  | whileHolds c body =>
    have hchecked := sameLoops_inWorld (s := s) fun site => b.check site c
    simp only [stepItem, hkind]
    split <;> (next heq => rwa [heq] at hchecked)

/-- A line that is no loop leaves the running loops alone. -/
theorem step_loops (hitem : g.get? id = some item) (h : ∀ x body, item.kind ≠ .loop x body) :
    (step g b s id).2.loops = s.loops ∧ (step g b s id).2.place = some id := by
  simp only [step, hitem]
  exact sameLoops_stepItem h

/-- A running loop moves on to its next value, or ends. -/
theorem advance_spec {frame : LoopFrame V S} (hframe : s.frame? id = some frame)
    (h : (match s.advanceLoop (b.next id) id with
      | (true, s) => (Move.go (body.head?.or (some id)), s)
      | (false, s) => (.go next, s.endLoop id)) = (.go t, s')) :
    s'.place = s.place ∧
      s'.frame? id = (b.next id frame.supply s.world).1.map
        (fun taken => (⟨taken.2, some taken.1⟩ : LoopFrame V S)) ∧
      (∀ l, l ≠ id → s'.frame? l = s.frame? l) ∧
      t = if s'.hasLoop id then body.head?.or (some id) else next := by
  simp only [WalkState.advanceLoop, hframe] at h
  cases hnext : b.next id frame.supply s.world with
  | mk result w =>
    rw [hnext] at h
    cases result with
    | some taken =>
      obtain ⟨v, rest⟩ := taken
      obtain ⟨ht, rfl⟩ := Prod.mk.inj h
      obtain rfl := Move.go.inj ht
      have hown : (s.setFrame id ⟨rest, some v⟩).frame? id = some ⟨rest, some v⟩ := by
        rw [WalkState.frame?_setFrame, if_pos rfl]
      refine ⟨rfl, hown, fun l hl => ?_, ?_⟩
      · exact (s.frame?_setFrame id l _).trans (if_neg hl)
      · exact (if_pos (Option.isSome_of_eq_some hown)).symm
    | none =>
      obtain ⟨ht, rfl⟩ := Prod.mk.inj h
      obtain rfl := Move.go.inj ht
      have hown : ((s.setFrame id ⟨frame.supply, none⟩).endLoop id).frame? id = none := by
        rw [WalkState.frame?_endLoop, if_pos rfl]
      refine ⟨rfl, hown, fun l hl => ?_, ?_⟩
      · exact ((WalkState.frame?_endLoop _ id l).trans (if_neg hl)).trans
          ((s.frame?_setFrame id l _).trans (if_neg hl))
      · refine (if_neg fun hloop => ?_).symm
        exact Option.isSome_iff_ne_none.1 hloop hown

/-- A loop takes its next value from those that are left if it is running, and otherwise from those
that it takes afresh. Then it has a frame exactly if there was a value. -/
structure LoopStep (b : Behaviour C E X V S W) (s s' : WalkState V S W) (id : ItemId) (x : X)
    (supply : S) (w : W) : Prop where
  running : ∀ frame, s.frame? id = some frame → supply = frame.supply ∧ w = s.world
  afresh : s.hasLoop id = false → b.supply ⟨some id, s.loopValue?⟩ x s.world = (.ok supply, w)
  place : s'.place = some id
  own : s'.frame? id = (b.next id supply w).1.map fun taken => ⟨taken.2, some taken.1⟩
  others : ∀ l, l ≠ id → s'.frame? l = s.frame? l

/-- **A loop goes on inside as long as there are values,** and behind it after that. -/
theorem step_loop (hitem : g.get? id = some item) (hkind : item.kind = .loop x body)
    (hstep : step g b s id = (.go t, s')) :
    (∃ supply w, LoopStep b s s' id x supply w) ∧
      t = if s'.hasLoop id then body.head?.or (some id) else item.next := by
  simp only [step, hitem, stepItem, hkind, stepLoop] at hstep
  cases hframe : s.frame? id with
  | some frame =>
    have hrunning : WalkState.hasLoop { s with place := some id } id = true :=
      Option.isSome_of_eq_some hframe
    rw [if_pos hrunning] at hstep
    obtain ⟨hplace, hown, hothers, ht⟩ :=
      advance_spec (s := { s with place := some id }) hframe hstep
    refine ⟨⟨frame.supply, s.world, ?_, fun hnone => ?_, hplace, hown, hothers⟩, ht⟩
    · rintro _ hframe'
      obtain rfl := Option.some.inj (hframe.symm.trans hframe')
      exact ⟨rfl, rfl⟩
    · cases hrunning.symm.trans hnone
  | none =>
    have hended : WalkState.hasLoop { s with place := some id } id = false :=
      Option.isSome_eq_false_iff.2 (Option.isNone_iff_eq_none.2 hframe)
    rw [if_neg (Bool.eq_false_iff.1 hended)] at hstep
    cases hsupply : b.supply ⟨some id, s.loopValue?⟩ x s.world with
    | mk result w =>
      have htaken : (WalkState.inWorld { s with place := some id } fun site => b.supply site x) =
          (result, ⟨s.loops, some id, w⟩) := by
        have hresult := congrArg Prod.fst hsupply
        have hworld := congrArg Prod.snd hsupply
        exact Prod.ext hresult (congrArg (WalkState.mk s.loops (some id)) hworld)
      rw [htaken] at hstep
      cases result with
      | error fault => cases hstep
      | ok supply =>
        have hstarted : (WalkState.startLoop ⟨s.loops, some id, w⟩ id supply).frame? id =
            some ⟨supply, none⟩ := by
          rw [WalkState.startLoop, WalkState.frame?_setFrame, if_pos rfl]
        obtain ⟨hplace, hown, hothers, ht⟩ := advance_spec hstarted hstep
        refine ⟨⟨supply, w, ?_, fun _ => hsupply, hplace, hown, fun l hl => ?_⟩, ht⟩
        · intro _ hframe'
          cases hframe.symm.trans hframe'
        · exact (hothers l hl).trans ((WalkState.frame?_setFrame _ id l _).trans (if_neg hl))

namespace LoopStep

variable {supply : S} {w : W} {l : ItemId}

theorem hasLoop_eq (h : LoopStep b s s' id x supply w) (hl : l ≠ id) :
    s'.hasLoop l = s.hasLoop l := by
  rw [WalkState.hasLoop, WalkState.hasLoop, h.others l hl]

theorem loopValue?_eq (h : LoopStep b s s' id x supply w) (hl : l ≠ id) :
    s'.loopValue? l = s.loopValue? l := by
  rw [WalkState.loopValue?, WalkState.loopValue?, h.others l hl]

/-- A loop that is running after its step has a current value. -/
theorem exists_value (h : LoopStep b s s' id x supply w) (hmore : s'.hasLoop id = true) :
    ∃ v, s'.loopValue? id = some v := by
  obtain ⟨frame, hframe⟩ := Option.isSome_iff_exists.1 hmore
  obtain ⟨⟨v, rest⟩, -, rfl⟩ := Option.map_eq_some_iff.1 (h.own.symm.trans hframe)
  exact ⟨v, by simp [WalkState.loopValue?, hframe]⟩

end LoopStep

end Steps

/-! ### What a run keeps -/

/-- A walk comes to an item from an item inside it. -/
def Graph.CameBack (g : Graph C E X) (s : WalkState V S W) (id : ItemId) : Prop :=
  ∃ p, s.place = some p ∧ g.Encloses id p

/-- Where a walk comes to an item, the running loops are those around it, and the item itself if it
is a loop that the walk comes back to. Those around it have a current value. -/
structure WalkState.LoopsFit (g : Graph C E X) (s : WalkState V S W) (id : ItemId) : Prop where
  running : ∀ l, s.hasLoop l = true ↔
    g.IsLoop l ∧ (g.Encloses l id ∨ l = id ∧ g.CameBack s id)
  valued : ∀ l, g.IsLoop l → g.Encloses l id → ∃ v, s.loopValue? l = some v

namespace WalkState.LoopsFit

variable {top : List (Step C E X)} {b : Behaviour C E X V S W} {s s' : WalkState V S W}
  {around : List ItemId} {id t : ItemId} {item : Item C E X} {x : X} {body : List ItemId}

theorem hasLoop_iff_of_ne {g : Graph C E X} {l : ItemId} (h : s.LoopsFit g id) (hl : l ≠ id) :
    s.hasLoop l = true ↔ g.IsLoop l ∧ g.Encloses l id := by
  refine (h.running l).trans (and_congr_right fun _ => or_iff_left ?_)
  exact fun hself => hl hself.1

/-- Before the first item no loop is running. -/
theorem entry {w : W} (htop : BlockFormedAt 0 top) (hentry : (Graph.ofBlock top).entry = some t) :
    (∃ around, Occurs top around t) ∧
      (WalkState.start w : WalkState V S W).LoopsFit (Graph.ofBlock top) t := by
  obtain ⟨outer, hoccurs, -⟩ := Around.top.leavesTo_firstOr htop hentry
  cases top with
  | nil => cases hentry
  | cons step rest =>
    obtain rfl := Option.some.inj hentry
    have hnone (l : ItemId) : ¬ (Graph.ofBlock (step :: rest)).Encloses l step.id := by
      rw [Around.top.encloses_iff htop]
      exact List.not_mem_nil
    refine ⟨⟨outer, hoccurs⟩, fun l => ?_, fun l _ hl => absurd hl (hnone l)⟩
    constructor
    · intro hloop
      cases hloop
    · rintro ⟨-, hl | ⟨-, p, hplace, -⟩⟩
      · exact absurd hl (hnone l)
      · cases hplace

/-- A line that is no loop leads from running loops that fit to running loops that fit. -/
theorem of_not_loop (htop : BlockFormedAt 0 top) (hoccurs : Occurs top around id)
    (h : s.LoopsFit (Graph.ofBlock top) id) (hitem : (Graph.ofBlock top).get? id = some item)
    (hkind : ∀ x body, item.kind ≠ .loop x body) (hloops : s'.loops = s.loops)
    (hplace : s'.place = some id) (ht : item.LeadsTo id t) :
    (∃ around, Occurs top around t) ∧ s'.LoopsFit (Graph.ofBlock top) t := by
  have hid : ¬ (Graph.ofBlock top).IsLoop id := by
    rw [Graph.isLoop_iff hitem]
    rintro ⟨x, body, heq⟩
    exact hkind x body heq
  have hne {l : ItemId} (hl : (Graph.ofBlock top).IsLoop l) : l ≠ id := by
    rintro rfl
    exact hid hl
  -- The item is not one of the loops, so that only those around it are running.
  have hrunning (l : ItemId) : s'.hasLoop l = true ↔
      (Graph.ofBlock top).IsLoop l ∧ (Graph.ofBlock top).Encloses l id := by
    rw [WalkState.hasLoop, WalkState.frame?, hloops]
    refine (h.running l).trans (and_congr_right fun hl => or_iff_left ?_)
    exact fun hself => hne hl hself.1
  have hvalue (l : ItemId) : s'.loopValue? l = s.loopValue? l := by
    rw [WalkState.loopValue?, WalkState.frame?, hloops]
    rfl
  have hback : (Graph.ofBlock top).CameBack s' t ↔ (Graph.ofBlock top).Encloses t id := by
    simp [Graph.CameBack, hplace]
  obtain hnext | ⟨inner, hinner, hhead⟩ | rfl := ht
  · obtain ⟨houter, hloops⟩ := hoccurs.next htop hitem hnext
    refine ⟨houter, fun l => ?_, fun l hl henclosed => ?_⟩
    · rw [hrunning, hback]
      exact and_congr_right fun hl => hloops l hl
    · rw [hvalue]
      exact h.valued l hl ((hloops l hl).2 (.inl henclosed))
  · obtain ⟨houter, hloops⟩ := hoccurs.inside htop hitem hinner hhead
    have hiff {l : ItemId} (hl : (Graph.ofBlock top).IsLoop l) :
        (Graph.ofBlock top).Encloses l t ↔ (Graph.ofBlock top).Encloses l id :=
      (hloops l).trans (or_iff_right (hne hl))
    refine ⟨houter, fun l => ?_, fun l hl henclosed => ?_⟩
    · rw [hrunning, hback]
      refine and_congr_right fun hl => ?_
      rw [hiff hl, or_iff_left_of_imp]
      rintro ⟨rfl, hback⟩
      exact hback
    · rw [hvalue]
      exact h.valued l hl ((hiff hl).1 henclosed)
  · refine ⟨⟨around, hoccurs⟩, fun l => ?_, fun l hl henclosed => ?_⟩
    · rw [hrunning]
      refine and_congr_right fun hl => (or_iff_left fun hself => ?_).symm
      exact hne hl hself.1
    · rw [hvalue]
      exact h.valued l hl henclosed

section LoopItem

variable {supply : S} {w : W} (htop : BlockFormedAt 0 top) (hoccurs : Occurs top around id)
  (h : s.LoopsFit (Graph.ofBlock top) id) (hitem : (Graph.ofBlock top).get? id = some item)
  (hkind : item.kind = .loop x body) (hloop : LoopStep b s s' id x supply w)

include htop hoccurs h hitem hkind hloop

/-- A loop with a further value leads into its body, where it is running. -/
theorem loop_inside (hmore : s'.hasLoop id = true) (ht : body.head? = some t) :
    (∃ around, Occurs top around t) ∧ s'.LoopsFit (Graph.ofBlock top) t := by
  have hid : (Graph.ofBlock top).IsLoop id := ⟨item, x, body, hitem, hkind⟩
  have hback : (Graph.ofBlock top).CameBack s' t ↔ (Graph.ofBlock top).Encloses t id := by
    simp [Graph.CameBack, hloop.place]
  have hinner : ⟨some id, body, some id⟩ ∈ item.blocks id := by
    simp [Item.blocks, hkind]
  obtain ⟨houter, hloops⟩ := hoccurs.inside htop hitem hinner ht
  -- What is around the loop is also around its first line.
  have habsorb (l : ItemId) : ((Graph.ofBlock top).Encloses l t ∨
      l = t ∧ (Graph.ofBlock top).Encloses t id) ↔ (Graph.ofBlock top).Encloses l t := by
    refine or_iff_left_of_imp ?_
    rintro ⟨rfl, hself⟩
    exact (hloops l).2 (.inr hself)
  refine ⟨houter, fun l => ?_, fun l hl henclosed => ?_⟩
  · rw [hback, habsorb, hloops l]
    by_cases heq : l = id
    · subst heq
      simp [hmore, hid]
    · rw [hloop.hasLoop_eq heq, h.hasLoop_iff_of_ne heq, or_iff_right heq]
  · by_cases heq : l = id
    · subst heq
      exact hloop.exists_value hmore
    · rw [hloop.loopValue?_eq heq]
      exact h.valued l hl (((hloops l).1 henclosed).resolve_left heq)

/-- A loop without a further value is ended, and leads to what comes behind it. -/
theorem loop_behind (hmore : s'.hasLoop id = false) (ht : item.next = some t) :
    (∃ around, Occurs top around t) ∧ s'.LoopsFit (Graph.ofBlock top) t := by
  have hid : (Graph.ofBlock top).IsLoop id := ⟨item, x, body, hitem, hkind⟩
  have hself := hoccurs.not_encloses_self htop
  have hback : (Graph.ofBlock top).CameBack s' t ↔ (Graph.ofBlock top).Encloses t id := by
    simp [Graph.CameBack, hloop.place]
  obtain ⟨houter, hloops⟩ := hoccurs.next htop hitem ht
  refine ⟨houter, fun l => ?_, fun l hl henclosed => ?_⟩
  · by_cases heq : l = id
    · subst heq
      have hnot : ¬ ((Graph.ofBlock top).Encloses l t ∨
          l = t ∧ (Graph.ofBlock top).Encloses t l) := by
        rw [← hloops l hid]
        exact hself
      simp only [hmore, Bool.false_eq_true, hback, hnot, and_false]
    · rw [hloop.hasLoop_eq heq, h.hasLoop_iff_of_ne heq, hback]
      exact and_congr_right fun hl => hloops l hl
  · have houtside := (hloops l hl).2 (.inl henclosed)
    have hne : l ≠ id := by
      rintro rfl
      exact hself houtside
    rw [hloop.loopValue?_eq hne]
    exact h.valued l hl houtside

end LoopItem

/-- **A step leads from running loops that fit to running loops that fit.** -/
theorem step (htop : BlockFormedAt 0 top) (hoccurs : Occurs top around id)
    (h : s.LoopsFit (Graph.ofBlock top) id) {move : Move}
    (hstep : Flow.step (Graph.ofBlock top) b s id = (move, s')) (ht : move.target = some t) :
    (∃ around, Occurs top around t) ∧ s'.LoopsFit (Graph.ofBlock top) t := by
  have htarget : (Flow.step (Graph.ofBlock top) b s id).1.target = some t := by
    rw [hstep]
    exact ht
  obtain ⟨item, hitem, hleads⟩ := step_target htarget
  by_cases hkind : ∃ x body, item.kind = .loop x body
  · obtain ⟨x, body, hkind⟩ := hkind
    cases move with
    | go next =>
      obtain ⟨⟨supply, w, hloop⟩, hnext⟩ := step_loop hitem hkind hstep
      obtain rfl : next = some t := ht
      cases hmore : s'.hasLoop id with
      | true =>
        rw [hmore, if_pos rfl] at hnext
        -- The body of a loop has a first line.
        have hne : body ≠ [] := by
          obtain ⟨hlt, rfl⟩ := Array.getElem?_eq_some_iff.1 hitem
          have hcomplete := (wellFormed_ofBlock htop).complete _ (Array.getElem_mem hlt)
          rwa [hkind] at hcomplete
        obtain ⟨first, others, rfl⟩ := List.exists_cons_of_ne_nil hne
        exact h.loop_inside htop hoccurs hitem hkind hloop hmore hnext.symm
      | false =>
        rw [hmore, if_neg Bool.false_ne_true] at hnext
        exact h.loop_behind htop hoccurs hitem hkind hloop hmore hnext.symm
    | halt outcome =>
      cases outcome with
      | suspended resume ticks =>
        obtain ⟨item', e, hitem', hact, -⟩ := step_suspended hstep
        obtain rfl := Option.some.inj (hitem'.symm.trans hitem)
        cases hkind.symm.trans hact
      | finished => cases ht
      | stopped => cases ht
      | failed fault => cases ht
  · have hkind : ∀ x body, item.kind ≠ .loop x body := fun x body heq => hkind ⟨x, body, heq⟩
    obtain ⟨hloops, hplace⟩ := step_loops (b := b) (s := s) hitem hkind
    rw [hstep] at hloops hplace
    exact h.of_not_loop htop hoccurs hitem hkind hloops hplace hleads

end WalkState.LoopsFit

/-- **Wherever a run comes to, the running loops fit,** whatever the lines do and however the world
changes while the run is suspended. -/
theorem Reaches.loopsFit {top : List (Step C E X)} {b : Behaviour C E X V S W} {K : W → Prop}
    {s : WalkState V S W} {id : ItemId} (htop : BlockFormedAt 0 top)
    (h : Reaches (Graph.ofBlock top) b K s id) :
    (∃ around, Occurs top around id) ∧ s.LoopsFit (Graph.ofBlock top) id := by
  induction h with
  | entry _ hentry => exact WalkState.LoopsFit.entry htop hentry
  | go _ hstep ih =>
    obtain ⟨⟨around, hoccurs⟩, hfit⟩ := ih
    exact hfit.step htop hoccurs hstep rfl
  | resume _ hstep _ ih =>
    obtain ⟨⟨around, hoccurs⟩, hfit⟩ := ih
    obtain ⟨hoccurs, hfit⟩ := hfit.step htop hoccurs hstep rfl
    exact ⟨hoccurs, hfit.running, hfit.valued⟩

/-- A loop takes its next value: from those that are left if a walk comes back to it, and otherwise
from values that it takes afresh. Afterwards it has a frame exactly if there was one. -/
def TakesNext (g : Graph C E X) (b : Behaviour C E X V S W) (s s' : WalkState V S W) (id : ItemId)
    (x : X) : Prop :=
  ∃ supply w,
    (g.CameBack s id → w = s.world ∧ ∃ v, s.frame? id = some ⟨supply, v⟩) ∧
    (¬ g.CameBack s id → b.supply ⟨some id, s.loopValue?⟩ x s.world = (.ok supply, w)) ∧
    s'.frame? id = (b.next id supply w).1.map fun taken => ⟨taken.2, some taken.1⟩

/-- **A loop that is entered again starts afresh.** -/
theorem WalkState.LoopsFit.takesNext {g : Graph C E X} {b : Behaviour C E X V S W}
    {s s' : WalkState V S W} {id : ItemId} {item : Item C E X} {x : X} {body : List ItemId}
    {t : Option ItemId} (h : s.LoopsFit g id) (hself : ¬ g.Encloses id id)
    (hitem : g.get? id = some item) (hkind : item.kind = .loop x body)
    (hstep : Flow.step g b s id = (.go t, s')) : TakesNext g b s s' id x := by
  have hid : g.IsLoop id := ⟨item, x, body, hitem, hkind⟩
  have hrunning : s.hasLoop id = true ↔ g.CameBack s id := by
    rw [h.running id]
    simp [hself, hid]
  obtain ⟨⟨supply, w, hloop⟩, -⟩ := step_loop hitem hkind hstep
  refine ⟨supply, w, fun hback => ?_, fun hback => ?_, hloop.own⟩
  · obtain ⟨⟨left, current⟩, hframe⟩ := Option.isSome_iff_exists.1 (hrunning.2 hback)
    obtain ⟨rfl, rfl⟩ := hloop.running _ hframe
    exact ⟨rfl, current, hframe⟩
  · refine hloop.afresh ?_
    rwa [← hrunning, Bool.not_eq_true] at hback

end TriggerScript.Flow

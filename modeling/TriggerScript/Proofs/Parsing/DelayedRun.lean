import TriggerScript.Proofs.Flow.Simulation
import TriggerScript.Proofs.Parsing.DelayFlag

/-!
# Runs that come to a line after a delay

Conditions and loops are taken to do what a list of answers says. With the right answers a walk
comes to every block of a body, and inside a loop with a line that delays it comes after a delay.

* `oracle` : lines that do what a list of answers says.
* `Comes` : where a walk comes, and with which answers left.
* `Repeats` : the rounds of loops and whiles.
* `through_layBlock` : answers that lead through a block, and past a line that delays.
* `exists_visits_delayed` : a walk that comes to a line after a delay.
-/

namespace TriggerScript.Parsing

open TriggerScript.Flow

variable {C E X : Type}

/-- Conditions and loops do what a list of answers says, and effects suspend when they say so. -/
def oracle (isDelay : E → Bool) : Behaviour C E X Unit Unit (List Bool) where
  check _ _ answers := (.ok (answers.headD false), answers.tail)
  act _ e answers := (.ok (if isDelay e then .suspend 1 else .proceed), answers)
  supply _ _ answers := (.ok (), answers)
  next _ _ answers := (if answers.headD false then some ((), ()) else none, answers.tail)

theorem oracle_suspendsBy (isDelay : E → Bool) :
    (oracle isDelay : Behaviour C E X Unit Unit (List Bool)).SuspendsBy isDelay := by
  intro site e w pace h
  obtain rfl : (if isDelay e then Pace.suspend 1 else .proceed) = pace := by
    simpa [oracle] using h
  by_cases he : isDelay e = true <;> simp [he]

/-- The loops that are running. -/
abbrev Running := List (ItemId × LoopFrame Unit Unit)

/-- A walk that starts with some answers comes to an item, and has others left. -/
def Comes (g : Graph C E X) (isDelay : E → Bool) (start : List Bool) (delayed : Bool)
    (loops : Running) (answers : List Bool) (t : Option ItemId) : Prop :=
  ∀ i, t = some i → ∃ s, Visits g (oracle isDelay) start delayed s i ∧ s.loops = loops ∧
    s.world = answers

namespace Comes

variable {g : Graph C E X} {isDelay : E → Bool} {start answers answers' : List Bool}
  {delayed : Bool} {loops loops' : Running} {id : ItemId} {item : Item C E X}
  {next : Option ItemId}

theorem go (h : Comes g isDelay start delayed loops answers (some id))
    (hitem : g.get? id = some item)
    (hstep : stepItem (oracle isDelay) ⟨loops, some id, answers⟩ id item =
      (.go next, ⟨loops', some id, answers'⟩)) :
    Comes g isDelay start delayed loops' answers' next := by
  rintro i rfl
  obtain ⟨s, hs, rfl, rfl⟩ := h id rfl
  have hgo : step g (oracle isDelay) s id = (.go (some i), ⟨loops', some id, answers'⟩) := by
    simpa only [step, hitem] using hstep
  exact ⟨_, hs.go hgo, rfl, rfl⟩

theorem suspend (ticks : UInt64) (h : Comes g isDelay start delayed loops answers (some id))
    (hitem : g.get? id = some item)
    (hstep : stepItem (oracle isDelay) ⟨loops, some id, answers⟩ id item =
      (.halt (.suspended next ticks), ⟨loops, some id, answers⟩)) :
    Comes g isDelay start true loops answers next := by
  rintro i rfl
  obtain ⟨s, hs, rfl, rfl⟩ := h id rfl
  have hhalt : step g (oracle isDelay) s id =
      (.halt (.suspended (some i) ticks), ⟨s.loops, some id, s.world⟩) := by
    simpa only [step, hitem] using hstep
  exact ⟨_, hs.resume hhalt s.world, rfl, rfl⟩

theorem check {c : C} (h : Comes g isDelay start delayed loops (true :: answers) (some id))
    (hitem : g.get? id = some item) (hkind : item.kind = .check c) :
    Comes g isDelay start delayed loops answers item.next := by
  refine h.go hitem ?_
  simp only [stepItem, hkind, inWorld_mk]
  rfl

theorem act {e : E} (h : Comes g isDelay start delayed loops answers (some id))
    (hitem : g.get? id = some item) (hkind : item.kind = .act e) :
    Comes g isDelay start (delayed || isDelay e) loops answers item.next := by
  cases he : isDelay e with
  | true =>
    rw [Bool.or_true]
    refine h.suspend 1 hitem ?_
    simp [stepItem, hkind, inWorld_mk, oracle, he]
  | false =>
    rw [Bool.or_false]
    refine h.go hitem ?_
    simp [stepItem, hkind, inWorld_mk, oracle, he]

theorem choose {branches : List (Option C × List ItemId)} {ids : List ItemId}
    (h : Comes g isDelay start delayed loops answers (some id)) (hitem : g.get? id = some item)
    (hkind : item.kind = .choose branches)
    (hchosen : chooseBranch (oracle isDelay : Behaviour C E X Unit Unit (List Bool))
      ⟨loops, some id, answers⟩ branches = (.ok (some ids), ⟨loops, some id, answers'⟩)) :
    Comes g isDelay start delayed loops answers' (ids.head?.or item.next) := by
  refine h.go hitem ?_
  simp only [stepItem, hkind, hchosen, Option.bind_some]

end Comes

/-! ### Rounds -/

/-- An item goes through a body while the answer is yes, and on behind it when it is no. `inner`
are the loops that run with the body. -/
structure Repeats (g : Graph C E X) (isDelay : E → Bool) (loops inner : Running) (id : ItemId)
    (body : List (Step C E X)) (next : Option ItemId) : Prop where
  enter : ∀ start delayed answers,
    Comes g isDelay start delayed loops (true :: answers) (some id) →
    Comes g isDelay start delayed inner answers (firstOr body (some id))
  again : ∀ start delayed answers,
    Comes g isDelay start delayed inner (true :: answers) (some id) →
    Comes g isDelay start delayed inner answers (firstOr body (some id))
  leave : ∀ start delayed answers,
    Comes g isDelay start delayed inner (false :: answers) (some id) →
    Comes g isDelay start delayed loops answers next

section Repeats

variable {g : Graph C E X} {isDelay : E → Bool} {loops inner : Running} {id : ItemId}
  {next parent : Option ItemId} {line : Nat} {body : List (Step C E X)}

/-- While its body runs, a loop is the innermost of the running loops. -/
theorem repeats_loop {x : X}
    (hitem : g.get? id = some ⟨.loop x (blockIds body), next, parent, line⟩)
    (hloops : RunningBefore id loops) :
    Repeats g isDelay loops ((id, ⟨(), some ()⟩) :: loops) id body next := by
  constructor
  · intro start delayed answers h
    refine h.go hitem ?_
    simp only [stepItem, stepLoop_fresh hloops]
    simp only [oracle]
    rw [stepLoop_running hloops, firstOr_eq]
    rfl
  · intro start delayed answers h
    refine h.go hitem ?_
    simp only [stepItem, stepLoop_running hloops, firstOr_eq]
    rfl
  · intro start delayed answers h
    refine h.go hitem ?_
    simp only [stepItem, stepLoop_running hloops]
    rfl

theorem repeats_whileHolds {c : C}
    (hitem : g.get? id = some ⟨.whileHolds c (blockIds body), next, parent, line⟩) :
    Repeats g isDelay loops loops id body next := by
  have htrue : ∀ start delayed answers,
      Comes g isDelay start delayed loops (true :: answers) (some id) →
      Comes g isDelay start delayed loops answers (firstOr body (some id)) := by
    intro start delayed answers h
    refine h.go hitem ?_
    simp only [stepItem, inWorld_mk, firstOr_eq]
    rfl
  refine ⟨htrue, htrue, fun start delayed answers h => h.go hitem ?_⟩
  simp only [stepItem, inWorld_mk]
  rfl

variable {answers : List Bool} (h : Repeats g isDelay loops inner id body next)
  (hbody : ∀ start delayed rest,
    Comes g isDelay start delayed inner (answers ++ rest) (firstOr body (some id)) →
    Comes g isDelay start (delayed || blockMayDelay isDelay body) inner rest (some id))

include h hbody

/-- One round leads behind the item. -/
theorem Repeats.through (start : List Bool) (delayed : Bool) (rest : List Bool)
    (hc : Comes g isDelay start delayed loops (true :: answers ++ [false] ++ rest) (some id)) :
    Comes g isDelay start (delayed || blockMayDelay isDelay body) loops rest next := by
  rw [List.append_assoc] at hc
  exact h.leave _ _ _ (hbody _ _ _ (h.enter _ _ _ hc))

/-- One round leads to the body again. -/
theorem Repeats.round (start : List Bool) (delayed : Bool) (rest : List Bool)
    (hc : Comes g isDelay start delayed loops (true :: answers ++ [true] ++ rest) (some id)) :
    Comes g isDelay start (delayed || blockMayDelay isDelay body) inner rest
      (firstOr body (some id)) := by
  rw [List.append_assoc] at hc
  exact h.again _ _ _ (hbody _ _ _ (h.enter _ _ _ hc))

end Repeats

/-! ### Through a block -/

section Through

variable {g : Graph C E X} (isDelay : E → Bool) {start : List Bool} {loops : Running}

/-- With the right answers any branch is taken. -/
theorem exists_chooseBranch {id : ItemId} {branches : List (Branch C E X)} {branch : Branch C E X}
    (hothers : ∀ c ∈ (branches.map Branch.condition).dropLast, c.isSome)
    (hb : branch ∈ branches) :
    ∃ answers, ∀ rest, chooseBranch (oracle isDelay : Behaviour C E X Unit Unit (List Bool))
      ⟨loops, some id, answers ++ rest⟩ (branchIds branches) =
        (.ok (some (blockIds branch.body)), ⟨loops, some id, rest⟩) := by
  induction branches with
  | nil => simp at hb
  | cons first others ih =>
    rcases List.mem_cons.1 hb with rfl | hb
    · obtain ⟨condition, body⟩ := branch
      cases condition with
      | none => exact ⟨[], fun rest => rfl⟩
      | some c => exact ⟨[true], fun rest => rfl⟩
    · have hne : others.map Branch.condition ≠ [] := by
        simpa using List.ne_nil_of_mem hb
      rw [List.map_cons, List.dropLast_cons_of_ne_nil hne, List.forall_mem_cons] at hothers
      obtain ⟨answers, hanswers⟩ := ih hothers.2 hb
      obtain ⟨condition, body⟩ := first
      obtain ⟨c, rfl⟩ := Option.isSome_iff_exists.1 hothers.1
      exact ⟨false :: answers, hanswers⟩

theorem exists_branchMayDelay {branches : List (Branch C E X)}
    (h : branchesMayDelay isDelay branches = true) :
    ∃ branch ∈ branches, branchMayDelay isDelay branch = true := by
  induction branches with
  | nil => simp [branchesMayDelay] at h
  | cons first rest ih =>
    rw [branchesMayDelay, Bool.or_eq_true] at h
    rcases h with h | h
    · exact ⟨first, List.mem_cons_self, h⟩
    · obtain ⟨branch, hmem, hdelay⟩ := ih h
      exact ⟨branch, List.mem_cons_of_mem _ hmem, hdelay⟩

/-- Some branch delays if one may delay, and is there in any case. -/
theorem exists_branch {branches : List (Branch C E X)}
    (hguarded : Guarded (branches.map Branch.condition)) :
    ∃ branch ∈ branches, branchMayDelay isDelay branch = branchesMayDelay isDelay branches := by
  cases h : branchesMayDelay isDelay branches with
  | true => exact exists_branchMayDelay isDelay h
  | false =>
    cases branches with
    | nil =>
      obtain ⟨c, hc⟩ := hguarded.first
      simp at hc
    | cons first rest =>
      rw [branchesMayDelay, Bool.or_eq_false_iff] at h
      exact ⟨first, List.mem_cons_self, h.1⟩

mutual

theorem through_layStep {m : ItemId} {parent next : Option ItemId} {s : Step C E X}
    {loops : Running} (h : s.FormedAt m) (hg : g.HoldsAt m (layStep parent next s))
    (hloops : RunningBefore m loops) :
    ∃ answers, ∀ start delayed rest,
      Comes g isDelay start delayed loops (answers ++ rest) (some m) →
      Comes g isDelay start (delayed || stepMayDelay isDelay s) loops rest next := by
  match s with
  | .check id line c =>
    obtain ⟨hitem, -⟩ := Graph.holdsAt_cons.1 hg
    refine ⟨[true], fun start delayed rest hc => ?_⟩
    rw [stepMayDelay, Bool.or_false]
    exact hc.check hitem rfl
  | .act id line e =>
    obtain ⟨hitem, -⟩ := Graph.holdsAt_cons.1 hg
    exact ⟨[], fun start delayed rest hc => hc.act hitem rfl⟩
  | .choose id line branches =>
    obtain ⟨rfl, hguarded, hbranches⟩ := h
    obtain ⟨hitem, hg⟩ := Graph.holdsAt_cons.1 hg
    obtain ⟨branch, hmem, hdelay⟩ := exists_branch isDelay hguarded
    obtain ⟨chosen, hchosen⟩ := exists_chooseBranch isDelay hguarded.others hmem
    obtain ⟨answers, hanswers⟩ := through_layBranches hbranches hg (hloops.mono id.le_succ)
      branch hmem
    refine ⟨chosen ++ answers, fun start delayed rest hc => ?_⟩
    rw [List.append_assoc] at hc
    rw [stepMayDelay, ← hdelay]
    refine hanswers start delayed rest ?_
    rw [firstOr_eq]
    exact hc.choose hitem rfl (hchosen _)
  | .loop id line x body =>
    obtain ⟨rfl, -, hbody⟩ := h
    obtain ⟨hitem, hg⟩ := Graph.holdsAt_cons.1 hg
    obtain ⟨answers, hanswers⟩ := through_layBlock hbody hg (hloops.cons ⟨(), some ()⟩)
    exact ⟨true :: answers ++ [false], (repeats_loop hitem hloops).through hanswers⟩
  | .whileHolds id line c body =>
    obtain ⟨rfl, -, hbody⟩ := h
    obtain ⟨hitem, hg⟩ := Graph.holdsAt_cons.1 hg
    obtain ⟨answers, hanswers⟩ := through_layBlock hbody hg (hloops.mono id.le_succ)
    exact ⟨true :: answers ++ [false], (repeats_whileHolds hitem).through hanswers⟩

/-- Some answers lead through a block, and past a line that delays if there is one. -/
theorem through_layBlock {m : ItemId} {parent tail : Option ItemId} {block : List (Step C E X)}
    {loops : Running} (h : BlockFormedAt m block) (hg : g.HoldsAt m (layBlock parent tail block))
    (hloops : RunningBefore m loops) :
    ∃ answers, ∀ start delayed rest,
      Comes g isDelay start delayed loops (answers ++ rest) (firstOr block tail) →
      Comes g isDelay start (delayed || blockMayDelay isDelay block) loops rest tail := by
  match block with
  | [] =>
    refine ⟨[], fun start delayed rest hc => ?_⟩
    rw [blockMayDelay, Bool.or_false]
    exact hc
  | step :: others =>
    obtain ⟨hstep, hothers⟩ := h
    rw [layBlock, Graph.holdsAt_append, length_layStep] at hg
    obtain ⟨first, hfirst⟩ := through_layStep hstep hg.1 hloops
    obtain ⟨second, hsecond⟩ := through_layBlock hothers hg.2
      (hloops.mono (Nat.le_add_right m step.size))
    refine ⟨first ++ second, fun start delayed rest hc => ?_⟩
    rw [List.append_assoc, firstOr, hstep.id_eq] at hc
    rw [blockMayDelay, ← Bool.or_assoc]
    exact hsecond start _ rest (hfirst start delayed _ hc)

theorem through_layBranches {m : ItemId} {parent next : Option ItemId}
    {branches : List (Branch C E X)} {loops : Running} (h : BranchesFormedAt m branches)
    (hg : g.HoldsAt m (layBranches parent next branches)) (hloops : RunningBefore m loops) :
    ∀ branch ∈ branches, ∃ answers, ∀ start delayed rest,
      Comes g isDelay start delayed loops (answers ++ rest) (firstOr branch.body next) →
      Comes g isDelay start (delayed || branchMayDelay isDelay branch) loops rest next := by
  match branches with
  | [] => simp
  | .mk condition body :: others =>
    obtain ⟨hbody, hothers⟩ := h
    rw [layBranches, Graph.holdsAt_append, length_layBranch] at hg
    exact List.forall_mem_cons.2 ⟨through_layBlock hbody hg.1 hloops,
      through_layBranches hothers hg.2
        (hloops.mono (Nat.le_add_right m (Branch.mk condition body).size))⟩

end

end Through

/-! ### To a block -/

/-- Some answers lead to a block, and past a line that delays if one is in a loop around it. -/
def Entered (isDelay : E → Bool) (top : List (Step C E X)) (repeated : Bool)
    (tail : Option ItemId) (block : List (Step C E X)) : Prop :=
  ∃ m parent loops answers delayed, BlockFormedAt m block ∧
    (Graph.ofBlock top).HoldsAt m (layBlock parent tail block) ∧ RunningBefore m loops ∧
    (repeated = true → delayed = true) ∧
    ∀ rest, Comes (Graph.ofBlock top) isDelay (answers ++ rest) delayed loops rest
      (firstOr block tail)

section Entered

variable {isDelay : E → Bool} {top : List (Step C E X)} {repeated : Bool} {tail : Option ItemId}

theorem Entered.next {step : Step C E X} {rest : List (Step C E X)}
    (h : Entered isDelay top repeated tail (step :: rest)) :
    Entered isDelay top repeated tail rest := by
  obtain ⟨m, parent, loops, before, delayed, ⟨hstep, hrest⟩, hg, hloops, hrep, hc⟩ := h
  rw [layBlock, Graph.holdsAt_append, length_layStep] at hg
  obtain ⟨answers, hanswers⟩ := through_layStep isDelay hstep hg.1 hloops
  refine ⟨_, parent, loops, before ++ answers, delayed || stepMayDelay isDelay step, hrest, hg.2,
    hloops.mono (Nat.le_add_right m step.size), fun hr => by rw [hrep hr, Bool.true_or],
    fun rest => ?_⟩
  have hbegin := hc (answers ++ rest)
  rw [firstOr, hstep.id_eq, ← List.append_assoc] at hbegin
  exact hanswers _ delayed rest hbegin

theorem Entered.branch {id : ItemId} {line : Nat} {branches : List (Branch C E X)}
    {rest : List (Step C E X)} {branch : Branch C E X}
    (h : Entered isDelay top repeated tail (.choose id line branches :: rest))
    (hb : branch ∈ branches) :
    Entered isDelay top repeated (firstOr rest tail) branch.body := by
  obtain ⟨m, parent, loops, before, delayed, ⟨⟨rfl, hguarded, hbranches⟩, -⟩, hg, hloops, hrep,
    hc⟩ := h
  rw [layBlock, Graph.holdsAt_append] at hg
  obtain ⟨hitem, hg⟩ := Graph.holdsAt_cons.1 hg.1
  obtain ⟨m, hm, hformed, hheld⟩ := Graph.holdsAt_of_mem_branches hbranches hg hb
  obtain ⟨chosen, hchosen⟩ := exists_chooseBranch (X := X) isDelay hguarded.others hb
  refine ⟨m, some id, loops, before ++ chosen, delayed, hformed, hheld,
    hloops.mono (Nat.le_of_succ_le hm), hrep, fun rest => ?_⟩
  have hbegin := hc (chosen ++ rest)
  rw [firstOr, Step.id, ← List.append_assoc] at hbegin
  rw [firstOr_eq]
  exact hbegin.choose hitem rfl (hchosen rest)

/-- A walk comes to a body that is repeated for the second time past all its lines. -/
theorem Entered.round {id : ItemId} {next : Option ItemId} {body : List (Step C E X)}
    {loops inner : Running} {before : List Bool} {delayed : Bool}
    (hrepeats : Repeats (Graph.ofBlock top) isDelay loops inner id body next)
    (hbody : BlockFormedAt (id + 1) body)
    (hg : (Graph.ofBlock top).HoldsAt (id + 1) (layBlock (some id) (some id) body))
    (hinner : RunningBefore (id + 1) inner) (hrep : repeated = true → delayed = true)
    (hc : ∀ rest, Comes (Graph.ofBlock top) isDelay (before ++ rest) delayed loops rest
      (some id)) :
    Entered isDelay top (repeated || blockMayDelay isDelay body) (some id) body := by
  obtain ⟨answers, hanswers⟩ := through_layBlock isDelay hbody hg hinner
  refine ⟨id + 1, some id, inner, before ++ (true :: answers ++ [true]),
    delayed || blockMayDelay isDelay body, hbody, hg, hinner, fun hr => ?_, fun rest => ?_⟩
  · rw [Bool.or_eq_true] at hr ⊢
    exact hr.imp_left hrep
  · rw [List.append_assoc]
    exact hrepeats.round hanswers _ delayed rest (hc _)

theorem Entered.loop {id : ItemId} {line : Nat} {x : X} {body rest : List (Step C E X)}
    (h : Entered isDelay top repeated tail (.loop id line x body :: rest)) :
    Entered isDelay top (repeated || blockMayDelay isDelay body) (some id) body := by
  obtain ⟨m, parent, loops, before, delayed, ⟨⟨rfl, -, hbody⟩, -⟩, hg, hloops, hrep, hc⟩ := h
  rw [layBlock, Graph.holdsAt_append] at hg
  obtain ⟨hitem, hg⟩ := Graph.holdsAt_cons.1 hg.1
  exact .round (repeats_loop hitem hloops) hbody hg (hloops.cons _) hrep hc

theorem Entered.whileHolds {id : ItemId} {line : Nat} {c : C} {body rest : List (Step C E X)}
    (h : Entered isDelay top repeated tail (.whileHolds id line c body :: rest)) :
    Entered isDelay top (repeated || blockMayDelay isDelay body) (some id) body := by
  obtain ⟨m, parent, loops, before, delayed, ⟨⟨rfl, -, hbody⟩, -⟩, hg, hloops, hrep, hc⟩ := h
  rw [layBlock, Graph.holdsAt_append] at hg
  obtain ⟨hitem, hg⟩ := Graph.holdsAt_cons.1 hg.1
  exact .round (repeats_whileHolds hitem) hbody hg (hloops.mono id.le_succ) hrep hc

/-- Every block of a body is entered with the right answers. -/
theorem Stands.entered {start d : Ternary} {block : List (Step C E X)} (htop : BlockFormedAt 0 top)
    (h : Stands isDelay start top d repeated tail block) :
    Entered isDelay top repeated tail block := by
  induction h with
  | top =>
    exact ⟨0, none, [], [], false, htop, Graph.holdsAt_ofBlock top, nofun, nofun,
      fun rest i hi => ⟨_, .entry hi, rfl, rfl⟩⟩
  | next _ ih => exact ih.next
  | branch _ hb ih => exact ih.branch hb
  | loop _ ih => exact ih.loop
  | whileHolds _ ih => exact ih.whileHolds

/-- **In a loop with a line that delays, every line can be come to after a delay.** -/
theorem exists_visits_delayed {start d : Ternary} {step : Step C E X} {rest : List (Step C E X)}
    (htop : BlockFormedAt 0 top) (h : Stands isDelay start top d true tail (step :: rest)) :
    ∃ world s, Visits (Graph.ofBlock top) (oracle isDelay) world true s step.id := by
  obtain ⟨_, _, _, answers, delayed, _, _, _, hrep, hc⟩ := h.entered htop
  obtain rfl := hrep rfl
  obtain ⟨s, hs, -, -⟩ := hc [] step.id rfl
  exact ⟨_, s, hs⟩

end Entered

end TriggerScript.Parsing

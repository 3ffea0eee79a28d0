import TriggerScript.Proofs.Flow.Run
import TriggerScript.Proofs.Parsing.BodyGraph

/-!
# What a definite delay flag says about runs

The delay flag behind a block is open wherever some runs delay and others do not. Where it is not
open, all runs agree.

* `Event.Suspends`, `Quiet` : a record of a run, with a suspension in it or without.
* `Ran.Leaves` : what a run of some steps leaves behind, by how it ends.
* `leaves_runBlock_quiet` : without a line that delays no run is suspended.
* `leaves_runBlock_early` : a run through a block that was not suspended proves the flag not to be
  yes.
* `definite_delay_readBody` : the flag behind a whole body and the runs through its graph.
-/

namespace TriggerScript.Flow

variable {C E X V S W : Type}

/-- An effect has suspended the run. -/
def Event.Suspends : Event C E X V → Prop
  | .checked _ _ _ => False
  | .acted _ _ (.ok (.suspend _)) => True
  | .acted _ _ (.ok .proceed) => False
  | .acted _ _ (.error _) => False
  | .fetched _ _ _ => False
  | .bound _ _ => False

/-- Nothing on record has suspended the run. -/
def Quiet (w : W × List (Event C E X V)) : Prop :=
  ∀ e ∈ w.2, ¬ e.Suspends

theorem quiet_recording {α : Type} (f : W → α × W) (event : α → Event C E X V)
    (w : W × List (Event C E X V)) :
    Quiet (recording f event w).2 ↔ Quiet w ∧ ¬ (event (f w.1).1).Suspends := by
  simp [Quiet, recording, or_imp, forall_and]

/-! ### How runs end -/

namespace Ran

variable {m n : Nat} {P P' Q : W → Prop}

/-- What a run of some steps leaves behind: `P` if it went through, and else `Q`. Only what goes
through comes to the end of a trigger. -/
def Leaves (P Q : W → Prop) : Ran n W → Prop
  | .through _ _ w => P w
  | .ended outcome w => outcome ≠ .finished ∧ Q w
  | .cut w => Q w

theorem Leaves.mono {r : Ran n W} (h : r.Leaves P Q) (hP : ∀ w, P w → P' w) : r.Leaves P' Q := by
  cases r with
  | through left hleft w => exact hP w h
  | ended outcome w => exact h
  | cut w => exact h

theorem Leaves.weaken {r : Ran m W} (h : r.Leaves P Q) (hle : m ≤ n) :
    (r.weaken hle).Leaves P Q := by
  cases r <;> exact h

theorem Leaves.andThen {r : Ran n W} {f : (left : Nat) → W → Ran left W} (h : r.Leaves P Q)
    (hf : ∀ left w, P w → (f left w).Leaves P' Q) : (r.andThen f).Leaves P' Q := by
  cases r with
  | through left hleft w => exact (hf left w h).weaken hleft
  | ended outcome w => exact h
  | cut w => exact h

theorem leaves_spending {w : W} {f : (left : Nat) → Ran left W} (hw : Q w)
    (hf : ∀ left, (f left).Leaves P Q) : (spending n w f).Leaves P Q := by
  cases n with
  | zero => exact hw
  | succ left => exact (hf left).weaken left.le_succ

/-- What each round keeps is kept by all of them. -/
theorem leaves_forEach {next : S → W → Option (V × S) × W} {body : V → (n : Nat) → W → Ran n W}
    (hPQ : ∀ w, P w → Q w) (hnext : ∀ supply w, P w → P (next supply w).2)
    (hbody : ∀ v n w, P w → (body v n w).Leaves P Q) (supply : S) (n : Nat) (w : W) (hw : P w) :
    (forEach next body supply n w).Leaves P Q := by
  induction n using Nat.strongRecOn generalizing supply w with
  | ind n ih =>
    have hw' := hnext supply w hw
    rw [forEach]
    split
    · next w' hnone => rwa [hnone] at hw'
    · next v rest w' hsome =>
      rw [hsome] at hw'
      have hround := hbody v n w' hw'
      split
      · next hle w'' heq =>
        rw [heq] at hround
        exact hPQ w'' hround
      · next left hle w'' heq =>
        rw [heq] at hround
        exact (ih left hle rest w'' hround).weaken _
      · next outcome w'' heq => rwa [heq] at hround
      · next w'' heq => rwa [heq] at hround

theorem leaves_repeatWhile {test : W → Except Fault Bool × W} {body : (n : Nat) → W → Ran n W}
    (hPQ : ∀ w, P w → Q w) (htest : ∀ w, P w → P (test w).2)
    (hbody : ∀ n w, P w → (body n w).Leaves P Q) (n : Nat) (w : W) (hw : P w) :
    (repeatWhile test body n w).Leaves P Q := by
  induction n using Nat.strongRecOn generalizing w with
  | ind n ih =>
    have hw' := htest w hw
    rw [repeatWhile]
    split
    · next fault w' heq =>
      rw [heq] at hw'
      exact ⟨by simp, hPQ w' hw'⟩
    · next w' heq => rwa [heq] at hw'
    · next w' heq =>
      rw [heq] at hw'
      have hround := hbody n w' hw'
      split
      · next hle w'' heq' =>
        rw [heq'] at hround
        exact hPQ w'' hround
      · next left hle w'' heq' =>
        rw [heq'] at hround
        exact (ih left hle w'' hround).weaken _
      · next outcome w'' heq' => rwa [heq'] at hround
      · next w'' heq' => rwa [heq'] at hround

/-- Only a run that went through comes to the end. -/
theorem Leaves.finish {r : Ran n W} (h : r.Leaves P Q) :
    ((r.finish fun _ w => (some .finished, w)).1 = some .finished →
      P (r.finish fun _ w => (some .finished, w)).2) ∧
    ((∀ w, P w → Q w) → Q (r.finish fun _ w => (some .finished, w)).2) := by
  cases r with
  | through left hleft w => exact ⟨fun _ => h, fun hPQ => hPQ w h⟩
  | ended outcome w => exact ⟨fun hfin => absurd (Option.some.inj hfin) h.1, fun _ => h.2⟩
  | cut w => exact ⟨nofun, fun _ => h⟩

end Ran

end TriggerScript.Flow

namespace TriggerScript.Parsing

open TriggerScript.Flow

variable {C E X V S W : Type}

/-! ### Flags -/

theorem eq_yes_of_merge {ds : List Ternary} (h : Ternary.merge ds = .yes) : ∀ d ∈ ds, d = .yes := by
  cases ds with
  | nil => simp
  | cons first rest =>
    simp only [Ternary.merge, List.all_eq_true, beq_iff_eq] at h
    split at h
    · next hall =>
      subst h
      exact List.forall_mem_cons.2 ⟨rfl, hall⟩
    · cases h

theorem merge_eq_yes {ds : List Ternary} (hne : ds ≠ []) (h : ∀ d ∈ ds, d = .yes) :
    Ternary.merge ds = .yes := by
  cases ds with
  | nil => exact absurd rfl hne
  | cons first rest =>
    obtain ⟨rfl, hrest⟩ := List.forall_mem_cons.1 h
    simpa [Ternary.merge] using hrest

theorem eq_yes_of_delayAfterRepeating {before after : Ternary}
    (h : delayAfterRepeating before after = .yes) : before = .yes := by
  revert h
  cases before <;> cases after <;> decide

section Flags

variable {isDelay : E → Bool}

mutual

/-- What is behind a delay stays so. -/
theorem delayBehindStep_yes (s : Step C E X) : delayBehindStep isDelay .yes s = .yes := by
  match s with
  | .check .. => rfl
  | .act _ _ e =>
    rw [delayBehindStep]
    split <;> rfl
  | .choose _ _ branches =>
    have hall := branchDelays_yes branches
    rw [delayBehindStep]
    refine merge_eq_yes ?_ ?_
    · cases branches with
      | nil => simp
      | cons first rest => simp [branchDelays]
    · refine List.forall_mem_append.2 ⟨hall, ?_⟩
      split <;> simp
  | .loop .. => rfl
  | .whileHolds .. => rfl

theorem delayBehind_yes (block : List (Step C E X)) : delayBehind isDelay .yes block = .yes := by
  match block with
  | [] => rfl
  | step :: rest => rw [delayBehind, delayBehindStep_yes step, delayBehind_yes rest]

theorem branchDelays_yes (branches : List (Branch C E X)) :
    ∀ d ∈ branchDelays isDelay .yes branches, d = .yes := by
  match branches with
  | [] => simp [branchDelays]
  | .mk _ body :: rest =>
    have hbody : delayBehind isDelay .yes body = .yes := delayBehind_yes body
    simpa [branchDelays, delayBehindBranch, hbody] using branchDelays_yes rest

end

end Flags

/-! ### Runs of a block -/

section Runs

variable {isDelay : E → Bool} {b : Behaviour C E X V S W} (meanwhile : UInt64 → W → W)

/-- What happens while a run is suspended leaves the record alone. -/
def apart (ticks : UInt64) (w : W × List (Event C E X V)) : W × List (Event C E X V) :=
  (meanwhile ticks w.1, w.2)

theorem quiet_check (site : Site V) (c : C) (w : W × List (Event C E X V)) :
    Quiet (b.traced.check site c w).2 ↔ Quiet w := by
  simp [Behaviour.traced, quiet_recording, Event.Suspends]

theorem quiet_supply (site : Site V) (x : X) (w : W × List (Event C E X V)) :
    Quiet (b.traced.supply site x w).2 ↔ Quiet w := by
  simp [Behaviour.traced, quiet_recording, Event.Suspends]

theorem quiet_next (id : ItemId) (supply : S) (w : W × List (Event C E X V)) :
    Quiet (b.traced.next id supply w).2 ↔ Quiet w := by
  simp [Behaviour.traced, quiet_recording, Event.Suspends]

/-- An effect that goes on at once leaves the record quiet, and does not delay. -/
theorem act_proceed (hb : b.SuspendsBy isDelay) {site : Site V} {e : E}
    {w w' : W × List (Event C E X V)} (h : b.traced.act site e w = (.ok .proceed, w')) :
    isDelay e = false ∧ (Quiet w' ↔ Quiet w) := by
  simp only [Behaviour.traced, recording, Prod.mk.injEq] at h
  obtain ⟨hact, rfl⟩ := h
  have hdelay := hb site e w.1 _ hact
  refine ⟨by simpa using hdelay, ?_⟩
  simp [Quiet, or_imp, forall_and, hact, Event.Suspends]

/-- An effect that suspends the run delays, and this is on record. -/
theorem act_suspend (hb : b.SuspendsBy isDelay) {site : Site V} {e : E} {ticks : UInt64}
    {w w' : W × List (Event C E X V)} (h : b.traced.act site e w = (.ok (.suspend ticks), w')) :
    isDelay e = true ∧ ¬ Quiet w' := by
  simp only [Behaviour.traced, recording, Prod.mk.injEq] at h
  obtain ⟨hact, rfl⟩ := h
  refine ⟨(hb site e w.1 _ hact).1 (by simp), fun hquiet => ?_⟩
  exact hquiet _ (List.mem_append_right _ (List.mem_singleton_self _))
    (by simp [hact, Event.Suspends])

theorem act_error {site : Site V} {e : E} {fault : Fault} {w w' : W × List (Event C E X V)}
    (h : b.traced.act site e w = (.error fault, w')) : Quiet w' ↔ Quiet w := by
  simp only [Behaviour.traced, recording, Prod.mk.injEq] at h
  obtain ⟨hact, rfl⟩ := h
  simp [Quiet, or_imp, forall_and, hact, Event.Suspends]

mutual

theorem leaves_runStep_quiet (hb : b.SuspendsBy isDelay) (values : ItemId → Option V) (n : Nat)
    (w : W × List (Event C E X V)) (s : Step C E X) (hs : stepMayDelay isDelay s = false)
    (hw : Quiet w) :
    (runStep b.traced (apart meanwhile) values n w s).Leaves Quiet Quiet := by
  match s with
  | .check id _ c =>
    rw [runStep]
    refine Ran.leaves_spending hw fun left => ?_
    have hchecked := (quiet_check (b := b) ⟨some id, values⟩ c w).2 hw
    split
    · next heq =>
      rw [heq] at hchecked
      exact ⟨by simp, hchecked⟩
    · next heq => rwa [heq] at hchecked
    · next heq =>
      rw [heq] at hchecked
      exact ⟨by simp, hchecked⟩
  | .act id _ e =>
    rw [runStep]
    refine Ran.leaves_spending hw fun left => ?_
    split
    · next heq => exact ⟨by simp, (act_error heq).2 hw⟩
    · next heq => exact (act_proceed hb heq).2.2 hw
    · next heq =>
      obtain ⟨hdelay, -⟩ := act_suspend hb heq
      exact absurd (hdelay.symm.trans hs) (by simp)
  | .choose id _ branches =>
    rw [runStep]
    exact Ran.leaves_spending hw fun left =>
      leaves_runBranches_quiet hb id values left w branches hs hw
  | .loop id _ x body =>
    rw [runStep]
    refine Ran.leaves_spending hw fun left => ?_
    have hfetched := (quiet_supply (b := b) ⟨some id, values⟩ x w).2 hw
    split
    · next heq =>
      rw [heq] at hfetched
      exact ⟨by simp, hfetched⟩
    · next supply w' heq =>
      rw [heq] at hfetched
      exact Ran.leaves_forEach (fun _ h => h) (fun supply w => (quiet_next id supply w).2)
        (fun v n w hw => leaves_runBlock_quiet hb _ n w body hs hw) supply left w' hfetched
  | .whileHolds id _ c body =>
    rw [runStep]
    exact Ran.leaves_spending hw fun left =>
      Ran.leaves_repeatWhile (fun _ h => h) (fun w => (quiet_check ⟨some id, values⟩ c w).2)
        (fun n w hw => leaves_runBlock_quiet hb _ n w body hs hw) left w hw

/-- **Without a line that delays no run of a block is suspended,** however it ends. -/
theorem leaves_runBlock_quiet (hb : b.SuspendsBy isDelay) (values : ItemId → Option V) (n : Nat)
    (w : W × List (Event C E X V)) (block : List (Step C E X))
    (hblock : blockMayDelay isDelay block = false) (hw : Quiet w) :
    (runBlock b.traced (apart meanwhile) values n w block).Leaves Quiet Quiet := by
  match block with
  | [] => exact hw
  | step :: rest =>
    rw [blockMayDelay, Bool.or_eq_false_iff] at hblock
    rw [runBlock]
    exact (leaves_runStep_quiet hb values n w step hblock.1 hw).andThen fun left w hw =>
      leaves_runBlock_quiet hb values left w rest hblock.2 hw

theorem leaves_runBranches_quiet (hb : b.SuspendsBy isDelay) (id : ItemId)
    (values : ItemId → Option V) (n : Nat) (w : W × List (Event C E X V))
    (branches : List (Branch C E X)) (hbranches : branchesMayDelay isDelay branches = false)
    (hw : Quiet w) :
    (runBranches b.traced (apart meanwhile) id values n w branches).Leaves Quiet Quiet := by
  match branches with
  | [] => exact hw
  | .mk none body :: rest =>
    rw [branchesMayDelay, Bool.or_eq_false_iff] at hbranches
    rw [runBranches]
    exact leaves_runBlock_quiet hb values n w body hbranches.1 hw
  | .mk (some c) body :: rest =>
    rw [branchesMayDelay, Bool.or_eq_false_iff] at hbranches
    rw [runBranches]
    have hchecked := (quiet_check (b := b) ⟨some id, values⟩ c w).2 hw
    split
    · next heq =>
      rw [heq] at hchecked
      exact ⟨by simp, hchecked⟩
    · next w' heq =>
      rw [heq] at hchecked
      exact leaves_runBlock_quiet hb values n w' body hbranches.1 hchecked
    · next w' heq =>
      rw [heq] at hchecked
      exact leaves_runBranches_quiet hb id values n w' rest hbranches.2 hchecked

end

/-- If nothing has suspended the run, it is early: the flag must not say that a delay has
happened. -/
def Early (d : Ternary) (w : W × List (Event C E X V)) : Prop :=
  Quiet w → d ≠ .yes

theorem Early.of_quiet {d : Ternary} {w w' : W × List (Event C E X V)} (h : Early d w)
    (hquiet : Quiet w' → Quiet w) : Early d w' :=
  fun hw => h (hquiet hw)

theorem Early.of_flag {d d' : Ternary} {w : W × List (Event C E X V)} (h : Early d w)
    (hflag : d' = .yes → d = .yes) : Early d' w :=
  fun hw hd => h hw (hflag hd)

/-- A round that was not suspended leads back to the flag before it. -/
theorem Early.of_round {d : Ternary} {body : List (Step C E X)} {w : W × List (Event C E X V)}
    (h : Early (delayBehind isDelay d body) w) : Early d w :=
  h.of_flag fun hd => by rw [hd, delayBehind_yes]

mutual

theorem leaves_runStep_early (hb : b.SuspendsBy isDelay) (values : ItemId → Option V) (n : Nat)
    (w : W × List (Event C E X V)) (s : Step C E X) {d : Ternary} (hw : Early d w) :
    (runStep b.traced (apart meanwhile) values n w s).Leaves (Early (delayBehindStep isDelay d s))
      fun _ => True := by
  match s with
  | .check id _ c =>
    rw [runStep]
    refine Ran.leaves_spending trivial fun left => ?_
    have hchecked := hw.of_quiet (quiet_check (b := b) ⟨some id, values⟩ c w).1
    split
    · exact ⟨by simp, trivial⟩
    · next heq => rwa [heq] at hchecked
    · exact ⟨by simp, trivial⟩
  | .act id _ e =>
    rw [runStep]
    refine Ran.leaves_spending trivial fun left => ?_
    split
    · exact ⟨by simp, trivial⟩
    · next heq =>
      obtain ⟨hdelay, hquiet⟩ := act_proceed hb heq
      rw [delayBehindStep, hdelay]
      exact hw.of_quiet hquiet.1
    · next heq =>
      -- Behind a suspension nothing is early any more.
      exact fun hquiet => absurd hquiet (act_suspend hb heq).2
  | .choose id _ branches =>
    rw [runStep]
    refine Ran.leaves_spending trivial fun left => ?_
    refine leaves_runBranches_early hb id values left w branches hw ?_ ?_
    · intro d' hd' hmerge
      exact eq_yes_of_merge hmerge d' (List.mem_append_left _ hd')
    · intro helse hmerge
      exact eq_yes_of_merge hmerge d (List.mem_append_right _ (by simp [helse]))
  | .loop id _ x body =>
    rw [runStep]
    refine Ran.leaves_spending trivial fun left => ?_
    have hfetched := hw.of_quiet (quiet_supply (b := b) ⟨some id, values⟩ x w).1
    split
    · exact ⟨by simp, trivial⟩
    · next supply w' heq =>
      rw [heq] at hfetched
      refine Ran.Leaves.mono (P := Early d) ?_ fun w hw => hw.of_flag eq_yes_of_delayAfterRepeating
      exact Ran.leaves_forEach (fun _ _ => trivial)
        (fun supply w hw => hw.of_quiet (quiet_next id supply w).1)
        (fun v n w hw => (leaves_runBlock_early hb _ n w body hw).mono fun w => Early.of_round)
        supply left w' hfetched
  | .whileHolds id _ c body =>
    rw [runStep]
    refine Ran.leaves_spending trivial fun left => ?_
    refine Ran.Leaves.mono (P := Early d) ?_ fun w hw => hw.of_flag eq_yes_of_delayAfterRepeating
    exact Ran.leaves_repeatWhile (fun _ _ => trivial)
      (fun w hw => hw.of_quiet (quiet_check ⟨some id, values⟩ c w).1)
      (fun n w hw => (leaves_runBlock_early hb _ n w body hw).mono fun w => Early.of_round)
      left w hw

/-- **A run through a block that was not suspended proves the flag behind it not to be yes,** if
the flag before it is not. -/
theorem leaves_runBlock_early (hb : b.SuspendsBy isDelay) (values : ItemId → Option V) (n : Nat)
    (w : W × List (Event C E X V)) (block : List (Step C E X)) {d : Ternary} (hw : Early d w) :
    (runBlock b.traced (apart meanwhile) values n w block).Leaves
      (Early (delayBehind isDelay d block)) fun _ => True := by
  match block with
  | [] => exact hw
  | step :: rest =>
    rw [runBlock]
    exact (leaves_runStep_early hb values n w step hw).andThen fun left w hw =>
      leaves_runBlock_early hb values left w rest hw

theorem leaves_runBranches_early (hb : b.SuspendsBy isDelay) (id : ItemId)
    (values : ItemId → Option V) (n : Nat) (w : W × List (Event C E X V))
    (branches : List (Branch C E X)) {d d' : Ternary} (hw : Early d w)
    (htaken : ∀ t ∈ branchDelays isDelay d branches, d' = .yes → t = .yes)
    (hpassed : branches.any (·.condition.isNone) = false → d' = .yes → d = .yes) :
    (runBranches b.traced (apart meanwhile) id values n w branches).Leaves (Early d')
      fun _ => True := by
  match branches with
  | [] => exact hw.of_flag (hpassed rfl)
  | .mk none body :: rest =>
    have hbody := htaken _ List.mem_cons_self
    rw [runBranches]
    exact (leaves_runBlock_early hb values n w body hw).mono fun w hw => hw.of_flag hbody
  | .mk (some c) body :: rest =>
    have hbody := htaken _ List.mem_cons_self
    rw [runBranches]
    have hchecked := hw.of_quiet (quiet_check (b := b) ⟨some id, values⟩ c w).1
    split
    · exact ⟨by simp, trivial⟩
    · next w' heq =>
      rw [heq] at hchecked
      exact (leaves_runBlock_early hb values n w' body hchecked).mono fun w hw => hw.of_flag hbody
    · next w' heq =>
      rw [heq] at hchecked
      exact leaves_runBranches_early hb id values n w' rest hchecked
        (fun t ht => htaken t (List.mem_cons_of_mem _ ht)) (by simpa using hpassed)

end

end Runs

/-! ### Whole bodies -/

/-- A run of at most `n` steps from the entry of a graph, with a record of what it does. -/
def recorded (g : Graph C E X) (b : Behaviour C E X V S W) (meanwhile : UInt64 → W → W) (n : Nat)
    (world : W) : Option Outcome × WalkState V S (W × List (Event C E X V)) :=
  runWithin g b.traced (apart meanwhile) n g.entry (.start (world, []))

/-- No run is suspended, whatever conditions, effects and loops do and however often loops are
passed, as long as effects suspend when they say so. -/
def NeverSuspends (g : Graph C E X) (isDelay : E → Bool) : Prop :=
  ∀ (V S W : Type) (b : Behaviour C E X V S W), b.SuspendsBy isDelay →
    ∀ (meanwhile : UInt64 → W → W) (n : Nat) (world : W),
      ∀ e ∈ (recorded g b meanwhile n world).2.world.2, ¬ e.Suspends

/-- Every run that comes to the end has been suspended. -/
def SuspendsBeforeEnd (g : Graph C E X) (isDelay : E → Bool) : Prop :=
  ∀ (V S W : Type) (b : Behaviour C E X V S W), b.SuspendsBy isDelay →
    ∀ (meanwhile : UInt64 → W → W) (n : Nat) (world : W),
      (recorded g b meanwhile n world).1 = some .finished →
        ∃ e ∈ (recorded g b meanwhile n world).2.world.2, e.Suspends

/-- A recorded run of a body ends as the run of its steps does. -/
theorem recorded_readBody (r : LineReader C E X) (place : Place) (delay : Ternary)
    (nodes : List Node) (b : Behaviour C E X V S W) (meanwhile : UInt64 → W → W) (n : Nat)
    (world : W) :
    let run := recorded (readBody r place delay nodes).graph b meanwhile n world
    (run.1, run.2.world) = interpret b.traced (apart meanwhile) n
      (readBody r place delay nodes).steps (world, []) :=
  observe_runWithin_ofBlock b.traced (apart meanwhile) (formed_readBody r place delay nodes) n
    (world, [])

/-- **A delay flag that is not open is right.** If the flag behind a body is no, so it was before,
and no run is suspended; if it is yes, so it was before, or every run that comes to the end of the
body has been suspended. -/
theorem definite_delay_readBody (r : LineReader C E X) (place : Place) (delay : Ternary)
    (nodes : List Node) :
    ((readBody r place delay nodes).delay = .no →
      delay = .no ∧ NeverSuspends (readBody r place delay nodes).graph r.isDelay) ∧
    ((readBody r place delay nodes).delay = .yes →
      delay = .yes ∨ SuspendsBeforeEnd (readBody r place delay nodes).graph r.isDelay) := by
  have hflag : (readBody r place delay nodes).delay =
      delayBehind r.isDelay delay (readBody r place delay nodes).steps :=
    (reads_readBody r place delay nodes).delay
  rw [hflag]
  constructor
  · intro hno
    obtain ⟨hbefore, hquiet⟩ := (delayBehind_eq_no_iff delay _).1 hno
    refine ⟨hbefore, fun V S W b hb meanwhile n world => ?_⟩
    have hrun := (leaves_runBlock_quiet meanwhile hb (fun _ => none) n (world, []) _ hquiet
      nofun).finish.2 fun _ h => h
    rwa [← interpret, ← recorded_readBody] at hrun
  · intro hyes
    refine or_iff_not_imp_left.2 fun hbefore V S W b hb meanwhile n world hfinished => ?_
    have hrun := (leaves_runBlock_early meanwhile hb (fun _ => none) n (world, [])
      (readBody r place delay nodes).steps (fun _ => hbefore)).finish.1
    rw [← interpret, ← recorded_readBody] at hrun
    -- A run that came to the end without a suspension would be early behind a flag that is yes.
    by_contra hnone
    push Not at hnone
    exact hrun hfinished hnone hyes

/-- Both ways through a conditional wait. -/
def waitEitherWay : List Node :=
  [.heading 1 "if ready" [.entry 2 "wait"], .heading 3 "else" [.entry 4 "cancel", .entry 5 "wait"]]

theorem definite_delay_readBody_waitEitherWay :
    (readBody waitReader alone .no waitEitherWay).delay = .yes ∧
      SuspendsBeforeEnd (readBody waitReader alone .no waitEitherWay).graph waitReader.isDelay ∧
      (readBody waitReader alone .no [.entry 1 "cancel"]).delay = .no ∧
      NeverSuspends (readBody waitReader alone .no [.entry 1 "cancel"]).graph waitReader.isDelay :=
  ⟨rfl, ((definite_delay_readBody waitReader alone .no waitEitherWay).2 rfl).resolve_left
      (by decide), rfl,
    ((definite_delay_readBody waitReader alone .no [.entry 1 "cancel"]).1 rfl).2⟩

end TriggerScript.Parsing

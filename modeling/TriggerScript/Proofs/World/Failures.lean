import TriggerScript.Proofs.Flow.Commuting
import TriggerScript.Proofs.World.Evolution

/-!
# Failed runs

A run that fails is counted and reported, and nothing that runs can see that. So triggers that run
one after the other do the same, whether or not the failures before are recorded. Runs that are given
up are counted apart.

* `World.record` : how many runs have failed, and how many have been given up.
* `World.blame` : records failures.
* `World.attempt` : a run without the record of its failure.
* `World.attempt_blame` : what has been recorded makes no difference to it.
* `World.record_attempt` : it records no failure, and counts if it is given up.
* `World.attemptAll` : such runs one after the other.
* `World.foldl_execute` : runs one after the other are these, and their failures are added.
* `World.dispatchTo_eq` : which triggers are run for an event.
-/

namespace TriggerScript

open TriggerScript.Flow

/-- Whether a trigger that listens accepts an event. -/
def Trigger.accepts (t : Trigger) (e : Occurrence) : Bool :=
  match t.header with
  | .listens listener => listener.accepts e
  | _ => false

/-- The report of a failure. -/
def Trigger.failureText (t : Trigger) (place : Option ItemId) (fault : Fault) : String :=
  "Error while running '" ++ (t.placeText place).1 ++ "' (" ++ (t.placeText place).2.text ++ "): " ++
    fault.message

namespace World

/-- How many runs have failed, and how many have been given up. -/
def record (w : World) : Nat × Nat := (w.realm.failures, w.realm.unended)

/-- Records failures, with their reports. -/
def blame (w : World) (reports : List String) : World :=
  w.onRealm fun r => { r with
    failures := r.failures + reports.length, reports := reports ++ r.reports }

theorem blame_blame (w : World) (reports more : List String) :
    (w.blame reports).blame more = w.blame (more ++ reports) := by
  simp [blame, onRealm, Nat.add_assoc, Nat.add_comm more.length]

/-- What comes of a run, and the report if it fails. The failure is not recorded. -/
def attempt (w : World) (t : Trigger) (run : Run) (loops : RunningLoops) (start : Option ItemId) :
    Option String × World :=
  let (outcome, s) :=
    walkWithin t.graph scriptBehaviour w.realm.stepLimit start ⟨loops, none, ⟨run, w⟩⟩
  match outcome with
  | none => (none, s.world.world.giveUp)
  | some .finished => (none, s.world.world)
  | some .stopped => (none, s.world.world)
  | some (.suspended resume ticks) =>
    (none, s.world.world.suspend t s.world.run s.loops resume ticks)
  | some (.failed fault) => (some (t.failureText s.place fault), s.world.world)

/-- A run is one without record, and its failure is added. -/
theorem runFrom_eq_attempt (w : World) (t : Trigger) (run : Run) (loops : RunningLoops)
    (start : Option ItemId) : w.runFrom t run loops start =
      (w.attempt t run loops start).2.blame (w.attempt t run loops start).1.toList := by
  unfold runFrom attempt
  rcases walkWithin t.graph scriptBehaviour w.realm.stepLimit start ⟨loops, none, ⟨run, w⟩⟩ with
    ⟨_ | outcome, s⟩
  · rfl
  · cases outcome <;> rfl

end World

/-! ### Lines do not see failures -/

namespace Surroundings

/-- Records failures in the world around a run. -/
def blame (reports : List String) (s : Surroundings) : Surroundings :=
  { s with world := s.world.blame reports }

variable (s : Surroundings) (reports : List String)

theorem apply_blame (action : Action) :
    (s.blame reports).apply action = (s.apply action).blame reports := by
  cases action with
  | broadcast message => rfl
  | setVariable name value => simp only [apply, setVariable]; split <;> rfl
  | deleteVariable name => simp only [apply, deleteVariable]; split <;> rfl
  | setCancelled cancelled =>
    have hrun : (s.blame reports).run = s.run := rfl
    simp only [apply, World.setCancelled, hrun]
    split <;> rfl
  | setCancelledLater cancelled => rfl

theorem eval_blame {α : Type} (loops : ItemId → Option Value) (f : Sight → Eval α) :
    (s.blame reports).eval loops f = (s.eval loops f).map id (blame reports) := rfl

theorem perform_blame (loops : ItemId → Option Value) (e : Effect) :
    (s.blame reports).perform loops e = (s.perform loops e).map id (blame reports) := by
  have hactions (actions : List Action) (s : Surroundings) :
      actions.foldl apply (s.blame reports) = (actions.foldl apply s).blame reports :=
    List.foldl_hom (blame reports) fun s action => s.apply_blame reports action
  simp only [perform, eval_blame]
  rcases s.eval loops fun sight => e.perform sight with ⟨fault | ⟨actions, pace⟩, s'⟩
  · rfl
  · simp only [Prod.map, id, hactions]

/-! ### Lines record nothing -/

theorem record_apply (action : Action) : (s.apply action).world.record = s.world.record := by
  cases action with
  | broadcast message => rfl
  | setVariable name value => simp only [apply, setVariable]; split <;> rfl
  | deleteVariable name => simp only [apply, deleteVariable]; split <;> rfl
  | setCancelled cancelled => simp only [apply, World.setCancelled]; split <;> rfl
  | setCancelledLater cancelled => rfl

theorem record_eval {α : Type} (loops : ItemId → Option Value) (f : Sight → Eval α) :
    (s.eval loops f).2.world.record = s.world.record := rfl

theorem record_perform (loops : ItemId → Option Value) (e : Effect) :
    (s.perform loops e).2.world.record = s.world.record := by
  have heval := s.record_eval loops fun sight => e.perform sight
  unfold perform
  split
  · next actions pace s' heq =>
    rw [heq] at heval
    exact List.foldlRecOn (motive := fun s' => s'.world.record = s.world.record)
      actions apply heval fun s' h action _ => (s'.record_apply action).trans h
  · next heq => rwa [heq] at heval

end Surroundings

theorem scriptBehaviour_record (r : Nat × Nat) :
    scriptBehaviour.Keeps (fun s => s.world.record = r) fun _ _ => True where
  check _ _ s h := (s.record_eval _ _).trans h
  act _ _ s h := (s.record_perform _ _).trans h
  supply _ _ s h := (s.record_eval _ _).trans h
  next _ _ _ h := h
  taken _ _ _ _ _ _ _ _ _ := trivial
  ended _ _ _ := trivial

/-- **No line sees which runs have failed.** -/
theorem scriptBehaviour_ignores (reports : List String) :
    scriptBehaviour.Ignores (Surroundings.blame reports) where
  check site c s := s.eval_blame reports site.loopValue? fun sight => c.check sight
  act site e s := s.perform_blame reports site.loopValue? e
  supply site e s := s.eval_blame reports site.loopValue? fun sight => e.supply sight
  next _ _ _ := rfl

namespace World

theorem suspend_blame (w : World) (reports : List String) (t : Trigger) (run : Run)
    (loops : RunningLoops) (resume : Option ItemId) (ticks : UInt64) :
    (w.blame reports).suspend t run loops resume ticks =
      (w.suspend t run loops resume ticks).blame reports := by
  cases resume <;> rfl

/-- **What has been recorded makes no difference to a run.** -/
theorem attempt_blame (w : World) (reports : List String) (t : Trigger) (run : Run)
    (loops : RunningLoops) (start : Option ItemId) :
    (w.blame reports).attempt t run loops start =
      (w.attempt t run loops start).map id fun w => w.blame reports := by
  have hwalk := (scriptBehaviour_ignores reports).walkWithin_mapWorld t.graph w.realm.stepLimit start
    ⟨loops, none, ⟨run, w⟩⟩
  have hstart : WalkState.mapWorld (Surroundings.blame reports)
      (⟨loops, none, ⟨run, w⟩⟩ : ScriptWalk) = ⟨loops, none, ⟨run, w.blame reports⟩⟩ := rfl
  have hlimit : (w.blame reports).realm.stepLimit = w.realm.stepLimit := rfl
  rw [hstart] at hwalk
  unfold attempt
  rw [hlimit, hwalk]
  rcases walkWithin t.graph scriptBehaviour w.realm.stepLimit start ⟨loops, none, ⟨run, w⟩⟩ with
    ⟨_ | outcome, s⟩
  · rfl
  · cases outcome with
    | finished => rfl
    | stopped => rfl
    | suspended resume ticks => exact congrArg (Prod.mk none) (suspend_blame ..)
    | failed fault => rfl

/-- A run without record records no failure, and counts if it is given up. -/
theorem record_attempt (w : World) (t : Trigger) (run : Run) (loops : RunningLoops)
    (start : Option ItemId) : (w.attempt t run loops start).2.record =
      (w.realm.failures, w.realm.unended +
        if (walkWithin t.graph scriptBehaviour w.realm.stepLimit start
          ⟨loops, none, ⟨run, w⟩⟩).1.isSome then 0 else 1) := by
  have hwalk := keeps_walkWithin (g := t.graph) (scriptBehaviour_record w.record) w.realm.stepLimit
    start ⟨loops, none, ⟨run, w⟩⟩ rfl
  unfold attempt
  generalize walkWithin t.graph scriptBehaviour _ start ⟨loops, none, ⟨run, w⟩⟩ = ended at hwalk ⊢
  obtain ⟨outcome, s⟩ := ended
  cases outcome with
  | none => exact congrArg (Prod.map id (· + 1)) hwalk
  | some outcome =>
    cases outcome with
    | finished => exact hwalk
    | stopped => exact hwalk
    | suspended resume ticks => cases resume <;> exact hwalk
    | failed fault => exact hwalk

theorem failures_attempt (w : World) (t : Trigger) (run : Run) (loops : RunningLoops)
    (start : Option ItemId) : (w.attempt t run loops start).2.realm.failures = w.realm.failures :=
  congrArg Prod.fst (record_attempt ..)

/-! ### Runs one after the other -/

/-- Runs triggers for an event one after the other, without a record of failures. The reports come
beside, latest first. -/
def attemptAll (e : Occurrence) : List Trigger → World → List String × World
  | [], w => ([], w)
  | t :: rest, w =>
    let (report, w) := w.attempt t (.start e) [] t.graph.entry
    let (reports, w) := attemptAll e rest w
    (reports ++ report.toList, w)

theorem attemptAll_blame (e : Occurrence) (ts : List Trigger) (w : World) (reports : List String) :
    attemptAll e ts (w.blame reports) = (attemptAll e ts w).map id fun w => w.blame reports := by
  induction ts generalizing w with
  | nil => rfl
  | cons t ts ih =>
    simp only [attemptAll, attempt_blame, Prod.map, id, ih]

theorem failures_attemptAll (e : Occurrence) (ts : List Trigger) (w : World) :
    (attemptAll e ts w).2.realm.failures = w.realm.failures := by
  induction ts generalizing w with
  | nil => rfl
  | cons t ts ih => exact (ih _).trans (w.failures_attempt ..)

/-- **Each failure of triggers that run one after the other is added, and changes nothing for the
others.** -/
theorem foldl_execute (e : Occurrence) (ts : List Trigger) (w : World) :
    ts.foldl (fun w t => w.execute t e) w =
      (attemptAll e ts w).2.blame (attemptAll e ts w).1 := by
  induction ts generalizing w with
  | nil => rfl
  | cons t ts ih =>
    rw [List.foldl_cons, ih, execute, runFrom_eq_attempt, attemptAll_blame]
    exact blame_blame ..

/-! ### Triggers for an event -/

theorem wants_of_active {w : World} {t : Trigger} {e : Occurrence} (h : w.isActive t) :
    w.wants t e = t.accepts e := by
  unfold wants Trigger.accepts
  cases t.header with
  | listens listener => simp [h]
  | onLoad => rfl
  | every period => rfl

/-- Of triggers in use, those that accept an event are run for it, and they are counted. -/
theorem dispatchTo_eq {e : Occurrence} {ts : List Trigger} {w : World}
    (hactive : ∀ t ∈ ts, w.isActive t) (n : Nat) :
    dispatchTo e ts (n, w) = (n + (ts.filter (·.accepts e)).length,
      (ts.filter (·.accepts e)).foldl (fun w t => w.execute t e) w) := by
  induction ts generalizing n w with
  | nil => rfl
  | cons t ts ih =>
    have hlater (w' : World) (hretired : w'.realm.retired = w.realm.retired) :
        ∀ t ∈ ts, w'.isActive t := fun t ht => by
      have ht := hactive t (List.mem_cons_of_mem _ ht)
      rwa [isActive, hretired]
    simp only [dispatchTo, wants_of_active (hactive t List.mem_cons_self), List.filter_cons]
    split
    · rw [ih (hlater _ (w.evolves_execute t e).retired), List.length_cons, List.foldl_cons]
      exact congrArg (·, _) (by omega)
    · exact ih (hlater w rfl) n

end World

end TriggerScript

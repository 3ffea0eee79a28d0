import TriggerScript.Proofs.Agenda.Repeating
import TriggerScript.Proofs.Flow.Frames
import TriggerScript.World.Running

/-!
# What running triggers leave alone

While triggers run, tasks can be booked, each to be done once, and nothing is taken off the agenda.
Which triggers are in use, what they listen to, which timers they have and what is registered stays
as it is.

* `World.SameUse`, `World.Evolves` : what stays as it is, and how the world can change meanwhile.
* `scriptBehaviour_evolves` : lines change it in this way only.
* `World.evolves_runFrom` : so do whole runs.
-/

namespace TriggerScript

open TriggerScript.Flow

/-! ### Changes while triggers run -/

/-- The same triggers are in use, in the same way, and the same is registered. -/
structure World.SameUse (w w' : World) : Prop where
  switchboard : w'.realm.switchboard = w.realm.switchboard
  retired : w'.realm.retired = w.realm.retired
  timers : w'.realm.timers = w.realm.timers
  registry : w'.realm.registry = w.realm.registry

/-- How the world can change while triggers run. -/
structure World.Evolves (w w' : World) : Prop extends w.SameUse w' where
  agenda : ∃ tasks : List (QueuedJob Job), (∀ task ∈ tasks, task.period = none) ∧
    w'.agenda = w.agenda.booking tasks
  triggerIds : w'.realm.triggerIds = w.realm.triggerIds

namespace World

variable {w w' w'' : World}

theorem SameUse.refl (w : World) : w.SameUse w := ⟨rfl, rfl, rfl, rfl⟩

theorem SameUse.trans (h : w.SameUse w') (h' : w'.SameUse w'') : w.SameUse w'' where
  switchboard := h'.switchboard.trans h.switchboard
  retired := h'.retired.trans h.retired
  timers := h'.timers.trans h.timers
  registry := h'.registry.trans h.registry

/-- An agenda that stays as it is. -/
theorem exists_booking_of_eq (hagenda : w'.agenda = w.agenda) :
    ∃ tasks : List (QueuedJob Job), (∀ task ∈ tasks, task.period = none) ∧
      w'.agenda = w.agenda.booking tasks :=
  ⟨[], List.forall_mem_nil _, by rw [hagenda, Agenda.booking_nil]⟩

theorem Evolves.of_agenda_eq (hagenda : w'.agenda = w.agenda) (hsame : w.SameUse w')
    (htriggerIds : w'.realm.triggerIds = w.realm.triggerIds) : w.Evolves w' :=
  ⟨hsame, exists_booking_of_eq hagenda, htriggerIds⟩

theorem Evolves.refl (w : World) : w.Evolves w :=
  .of_agenda_eq rfl (.refl w) rfl

theorem Evolves.trans (h : w.Evolves w') (h' : w'.Evolves w'') : w.Evolves w'' where
  toSameUse := h.toSameUse.trans h'.toSameUse
  agenda := by
    obtain ⟨tasks, honce, hagenda⟩ := h.agenda
    obtain ⟨more, honce', hagenda'⟩ := h'.agenda
    refine ⟨tasks ++ more, ?_, by rw [hagenda', hagenda, Agenda.booking_booking]⟩
    exact fun task htask => (List.mem_append.1 htask).elim (honce task) (honce' task)
  triggerIds := h'.triggerIds.trans h.triggerIds

/-- A task that is to be done once is put onto the agenda. -/
theorem Evolves.once (w : World) (delay : UInt64) (job : Job) :
    w.Evolves { w with agenda := (w.agenda.once delay job).2 } where
  agenda := ⟨_, List.forall_mem_singleton.2 rfl, Agenda.once_eq_booking ..⟩
  toSameUse := ⟨rfl, rfl, rfl, rfl⟩
  triggerIds := rfl

theorem evolves_setCancelled (w : World) (e : Occurrence) (cancelled : Bool) :
    w.Evolves (w.setCancelled e cancelled).2 := by
  unfold setCancelled
  split
  · exact .of_agenda_eq rfl ⟨rfl, rfl, rfl, rfl⟩ rfl
  · exact .refl w

end World

/-! ### Lines -/

namespace Surroundings

theorem evolves_apply (s : Surroundings) (action : Action) :
    s.world.Evolves (s.apply action).world := by
  cases action with
  | broadcast message => exact .of_agenda_eq rfl ⟨rfl, rfl, rfl, rfl⟩ rfl
  | setVariable name value =>
    simp only [apply, setVariable]
    split
    · exact .refl _
    · exact .of_agenda_eq rfl ⟨rfl, rfl, rfl, rfl⟩ rfl
  | deleteVariable name =>
    simp only [apply, deleteVariable]
    split
    · exact .refl _
    · exact .of_agenda_eq rfl ⟨rfl, rfl, rfl, rfl⟩ rfl
  | setCancelled cancelled => exact s.world.evolves_setCancelled s.run.event cancelled
  | setCancelledLater cancelled => exact .once s.world 1 _

theorem evolves_eval {α : Type} (s : Surroundings) (loops : ItemId → Option Value)
    (f : Sight → Eval α) : s.world.Evolves (s.eval loops f).2.world :=
  .of_agenda_eq rfl ⟨rfl, rfl, rfl, rfl⟩ rfl

theorem evolves_perform (s : Surroundings) (loops : ItemId → Option Value) (e : Effect) :
    s.world.Evolves (s.perform loops e).2.world := by
  have heval := s.evolves_eval loops fun sight => e.perform sight
  unfold perform
  split
  · next actions pace s' heq =>
    rw [heq] at heval
    exact List.foldlRecOn (motive := fun s' => s.world.Evolves s'.world) actions
      Surroundings.apply heval fun s' h action _ => h.trans (s'.evolves_apply action)
  · next heq => rwa [heq] at heval

end Surroundings

/-- **No line takes a trigger out of use or changes a timer,** and what lines put onto the agenda is
to be done once. -/
theorem scriptBehaviour_evolves (w : World) :
    scriptBehaviour.Keeps (fun s => w.Evolves s.world) fun _ _ => True where
  check _ _ s h := h.trans (s.evolves_eval _ _)
  act _ _ s h := h.trans (s.evolves_perform _ _)
  supply _ _ s h := h.trans (s.evolves_eval _ _)
  next _ _ _ h := h
  taken _ _ _ _ _ _ _ _ _ := trivial
  ended _ _ _ := trivial

/-! ### Runs -/

section Walks

variable {C E X V S W : Type} {g : Graph C E X} {b : Behaviour C E X V S W} {K : W → Prop}

/-- What every line keeps, a walk keeps. -/
theorem keeps_walkWithin (hb : b.Keeps K fun _ _ => True) (n : Nat) (start : Option ItemId)
    (s : WalkState V S W) (hs : K s.world) : K (walkWithin g b n start s).2.world := by
  induction n generalizing start s with
  | zero => cases start <;> exact hs
  | succ n ih =>
    cases start with
    | none => exact hs
    | some id =>
      have hholds : s.Holds g K fun _ _ => True := ⟨hs, fun _ _ _ _ _ _ _ _ => trivial⟩
      have hstep : (step g b s id).2.Holds g K fun _ _ => True :=
        hholds.step hb fun _ _ _ _ _ _ _ => trivial
      simp only [walkWithin]
      generalize step g b s id = moved at hstep ⊢
      obtain ⟨next | outcome, s'⟩ := moved
      · exact ih next s' hstep.world
      · exact hstep.world

end Walks

namespace World

theorem evolves_reportFailure (w : World) (t : Trigger) (place : Option ItemId) (fault : Fault) :
    w.Evolves (w.reportFailure t place fault) :=
  .of_agenda_eq rfl ⟨rfl, rfl, rfl, rfl⟩ rfl

theorem evolves_suspend (w : World) (t : Trigger) (run : Run) (loops : RunningLoops)
    (resume : Option ItemId) (ticks : UInt64) : w.Evolves (w.suspend t run loops resume ticks) := by
  cases resume with
  | none => exact .refl w
  | some item => exact .once w ticks _

theorem evolves_giveUp (w : World) : w.Evolves w.giveUp :=
  .of_agenda_eq rfl ⟨rfl, rfl, rfl, rfl⟩ rfl

/-- **A run only lets the world evolve.** -/
theorem evolves_runFrom (w : World) (t : Trigger) (run : Run) (loops : RunningLoops)
    (start : Option ItemId) : w.Evolves (w.runFrom t run loops start) := by
  have hwalk := keeps_walkWithin (g := t.graph) (scriptBehaviour_evolves w) w.realm.stepLimit start
    ⟨loops, none, ⟨run, w⟩⟩ (.refl w)
  unfold runFrom
  generalize walkWithin t.graph scriptBehaviour _ start ⟨loops, none, ⟨run, w⟩⟩ = ended at hwalk ⊢
  obtain ⟨outcome, s⟩ := ended
  cases outcome with
  | none => exact hwalk.trans (evolves_giveUp _)
  | some outcome =>
    cases outcome with
    | finished => exact hwalk
    | stopped => exact hwalk
    | suspended resume ticks => exact hwalk.trans (evolves_suspend ..)
    | failed fault => exact hwalk.trans (evolves_reportFailure ..)

theorem evolves_execute (w : World) (t : Trigger) (e : Occurrence) : w.Evolves (w.execute t e) :=
  w.evolves_runFrom t _ _ _

theorem evolves_executePlain (w : World) (t : Trigger) (kind : EventKind) :
    w.Evolves (w.executePlain t kind) := by
  have hdraw : w.Evolves w.drawEvent.2 := .of_agenda_eq rfl ⟨rfl, rfl, rfl, rfl⟩ rfl
  exact hdraw.trans (w.drawEvent.2.evolves_execute t _)

theorem evolves_perform (w : World) (job : Job) : w.Evolves (w.perform job) := by
  cases job with
  | resume t run loops item =>
    simp only [perform]
    split
    · exact w.evolves_runFrom t run loops (some item)
    · exact .refl w
  | periodic t =>
    simp only [perform]
    split
    · exact w.evolves_executePlain t _
    · exact .refl w
  | setCancelled e cancelled => exact w.evolves_setCancelled e cancelled

end World

end TriggerScript

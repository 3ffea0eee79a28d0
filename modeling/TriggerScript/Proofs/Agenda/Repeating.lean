import TriggerScript.Proofs.Agenda.Stages
import Mathlib.Data.List.Perm.Basic

/-!
# Ticks in which nothing is cancelled

Where jobs only book tasks that are to be done once, a tick keeps the repeating tasks: those that
are due are done and queued again.

* `Agenda.booking`, `Agenda.Books` : an agenda with some more tasks; jobs that do no more than that.
* `Agenda.tick_induction` : what every job keeps, a tick keeps.
* `Agenda.noting`, `Agenda.performances` : the jobs that are done in a tick, with what they find.
* `Agenda.repeating`, `Agenda.tick_books` : the repeating tasks stay.
-/

namespace TriggerScript.Agenda

variable {J σ τ : Type}

/-! ### More tasks -/

/-- An agenda onto which some tasks have been put. -/
def booking (a : Agenda J) (tasks : List (QueuedJob J)) : Agenda J :=
  { a with nextId := a.nextId + .ofNat tasks.length, tasks := a.tasks ++ tasks }

@[simp] theorem booking_nil (a : Agenda J) : a.booking [] = a := by
  simp [booking]

theorem booking_booking (a : Agenda J) (tasks more : List (QueuedJob J)) :
    (a.booking tasks).booking more = a.booking (tasks ++ more) := by
  simp [booking, UInt64.ofNat_add, UInt64.add_assoc]

theorem once_eq_booking (a : Agenda J) (delay : UInt64) (job : J) :
    (a.once delay job).2 =
      a.booking [⟨a.nextId, saturatingAdd a.now (max delay 1), none, job⟩] := by
  simp [once, push, booking]

/-- Doing a job books tasks that are to be done once, and leaves the agenda alone otherwise. -/
def Books (run : J → Agenda J × σ → Agenda J × σ) : Prop :=
  ∀ job s, ∃ tasks : List (QueuedJob J), (∀ task ∈ tasks, task.period = none) ∧
    (run job s).1 = s.1.booking tasks

/-! ### What a tick keeps -/

/-- Begins a tick and gives the tasks that are due their turns. -/
def turns (run : J → Agenda J × σ → Agenda J × σ) (s : Agenda J × σ) : Agenda J × σ :=
  s.1.beginTick.1.foldl (fun s' task => runTask run s.1.beginTick.2.now task s')
    (s.1.beginTick.2, s.2)

theorem tick_eq_turns (run : J → Agenda J × σ → Agenda J × σ) (s : Agenda J × σ) :
    tick run s = ((turns run (serve run s)).1.endTick, (turns run (serve run s)).2) :=
  rfl

/-- **What every job keeps, a tick keeps,** if it depends on nothing else than the number of the
next task and what lies beside the agenda. -/
theorem tick_induction (run : J → Agenda J × σ → Agenda J × σ) {P : Agenda J × σ → Prop}
    (hagenda : ∀ (a a' : Agenda J) (x : σ), a'.nextId = a.nextId → P (a, x) → P (a', x))
    (hrun : ∀ job s, P s → P (run job s)) {s : Agenda J × σ} (hs : P s) : P (tick run s) := by
  have hturn (now : UInt64) (task : QueuedJob J) (s : Agenda J × σ) (hs : P s) :
      P (runTask run now task s) := by
    unfold runTask
    split
    · exact hagenda s.1 _ s.2 rfl hs
    · exact hagenda _ _ _ (nextId_requeue ..) (hrun task.job s hs)
  have hserved : P (serve run s) :=
    List.foldlRecOn (motive := P) s.1.handedOver _ (hagenda s.1 _ s.2 rfl hs)
      fun s hs job _ => hrun job s hs
  have hturns : P (turns run (serve run s)) :=
    List.foldlRecOn (motive := P) (serve run s).1.beginTick.1 _
      (hagenda (serve run s).1 _ _ rfl hserved) fun s hs task _ => hturn _ task s hs
  rw [tick_eq_turns]
  exact hagenda (turns run (serve run s)).1 _ _ rfl hturns

/-- What lies beside the agenda can be read in another way. -/
theorem tick_map {run : J → Agenda J × σ → Agenda J × σ} {run' : J → Agenda J × τ → Agenda J × τ}
    {p : τ → σ} (hrun : ∀ job s, (run' job s).map id p = run job (s.map id p))
    (s : Agenda J × τ) : (tick run' s).map id p = tick run (s.map id p) := by
  have hturn (now : UInt64) (task : QueuedJob J) (s : Agenda J × τ) :
      (runTask run' now task s).map id p = runTask run now task (s.map id p) := by
    have hcancelled : (s.map id p).1.cancelled = s.1.cancelled := rfl
    simp only [runTask, ← hrun, hcancelled]
    split <;> rfl
  have hfold {α : Type} {f : Agenda J × τ → α → Agenda J × τ} {g : Agenda J × σ → α → Agenda J × σ}
      (hstep : ∀ s x, (f s x).map id p = g (s.map id p) x) (l : List α) (s : Agenda J × τ) :
      (l.foldl f s).map id p = l.foldl g (s.map id p) :=
    (List.foldl_hom (Prod.map id p) fun s x => (hstep s x).symm).symm
  have hserve : (serve run' s).map id p = serve run (s.map id p) :=
    hfold (fun s job => hrun job s) s.1.handedOver _
  have hturns (s : Agenda J × τ) : (turns run' s).map id p = turns run (s.map id p) :=
    hfold (fun s' task => hturn s.1.beginTick.2.now task s') s.1.beginTick.1 _
  rw [tick_eq_turns, tick_eq_turns, ← hserve, ← hturns]
  rfl

/-! ### Notes -/

/-- Does jobs, and takes a note of each with what it finds. -/
def noting (run : J → Agenda J × σ → Agenda J × σ) (job : J)
    (s : Agenda J × (σ × List (J × Agenda J × σ))) : Agenda J × (σ × List (J × Agenda J × σ)) :=
  let (a, x) := run job (s.1, s.2.1)
  (a, (x, s.2.2 ++ [(job, s.1, s.2.1)]))

/-- The jobs that are done in a tick, each with what it finds. -/
def performances (run : J → Agenda J × σ → Agenda J × σ) (s : Agenda J × σ) :
    List (J × Agenda J × σ) :=
  (tick (noting run) (s.1, (s.2, []))).2.2

theorem noting_map (run : J → Agenda J × σ → Agenda J × σ) (job : J)
    (s : Agenda J × (σ × List (J × Agenda J × σ))) :
    (noting run job s).map id Prod.fst = run job (s.map id Prod.fst) :=
  rfl

/-- Notes make no difference to a tick. -/
theorem tick_noting (run : J → Agenda J × σ → Agenda J × σ) (s : Agenda J × σ)
    (notes : List (J × Agenda J × σ)) :
    (tick (noting run) (s.1, (s.2, notes))).map id Prod.fst = tick run s :=
  tick_map (noting_map run) _

/-! ### Repeating tasks -/

/-- Of some tasks those that repeat, with number, period and job. -/
def repeating (tasks : List (QueuedJob J)) : List (UInt64 × Option UInt64 × J) :=
  (tasks.filter (·.period.isSome)).map fun task => (task.id, task.period, task.job)

theorem repeating_append (tasks more : List (QueuedJob J)) :
    repeating (tasks ++ more) = repeating tasks ++ repeating more := by
  simp [repeating]

theorem repeating_of_once {tasks : List (QueuedJob J)} (h : ∀ task ∈ tasks, task.period = none) :
    repeating tasks = [] := by
  have hnone : tasks.filter (·.period.isSome) = [] :=
    List.filter_eq_nil_iff.2 fun task htask => by simp [h task htask]
  rw [repeating, hnone, List.map_nil]

theorem perm_repeating {tasks more : List (QueuedJob J)} (h : tasks.Perm more) :
    (repeating tasks).Perm (repeating more) :=
  (h.filter _).map _

/-- The agenda between ticks or in one, with nothing cancelled and nothing handed over. -/
structure Calm (a : Agenda J) : Prop where
  cancelled : a.cancelled = []
  handedOver : a.handedOver = []

theorem serve_eq_of_calm {run : J → Agenda J × σ → Agenda J × σ} {s : Agenda J × σ}
    (hcalm : s.1.Calm) : serve run s = s := by
  obtain ⟨⟨now, nextId, tasks, inHand, cancelled, handedOver⟩, x⟩ := s
  obtain ⟨rfl, rfl⟩ : cancelled = [] ∧ handedOver = [] := ⟨hcalm.cancelled, hcalm.handedOver⟩
  rfl

section Books

variable {run : J → Agenda J × σ → Agenda J × σ} (hrun : Books run)

include hrun

/-- A task that is done keeps its place among the repeating ones. -/
theorem runTask_books (now : UInt64) (task : QueuedJob J) {s : Agenda J × σ} (hcalm : s.1.Calm) :
    (runTask run now task s).1.Calm ∧
      (repeating (runTask run now task s).1.tasks).Perm
        (repeating s.1.tasks ++ repeating [task]) := by
  obtain ⟨tasks, honce, hbooked⟩ := hrun task.job s
  have hnone : ¬s.1.cancelled.contains task.id := by simp [hcalm.cancelled]
  have hnone' : ¬(s.1.booking tasks).cancelled.contains task.id := hnone
  simp only [runTask, if_neg hnone, hbooked]
  unfold requeue
  split
  · next hperiod =>
    refine ⟨⟨hcalm.cancelled, hcalm.handedOver⟩, ?_⟩
    have hlone : repeating [task] = [] := repeating_of_once (by simp [hperiod])
    rw [booking, repeating_append, repeating_of_once honce, hlone]
  · next period hperiod =>
    rw [if_neg hnone']
    refine ⟨⟨hcalm.cancelled, hcalm.handedOver⟩, ?_⟩
    have hlater : repeating [{ task with due := now + period }] = repeating [task] := by
      simp [repeating, hperiod]
    simp only [booking, repeating_append, repeating_of_once honce, hlater, List.append_nil]
    exact .refl _

theorem turns_books {s : Agenda J × σ} (hcalm : s.1.Calm) :
    (turns run s).1.Calm ∧
      (repeating (turns run s).1.tasks).Perm (repeating s.1.tasks) := by
  have hfold (now : UInt64) (due : List (QueuedJob J)) (s : Agenda J × σ) (hcalm : s.1.Calm) :
      (due.foldl (fun s task => runTask run now task s) s).1.Calm ∧
        (repeating (due.foldl (fun s task => runTask run now task s) s).1.tasks).Perm
          (repeating s.1.tasks ++ repeating due) := by
    induction due generalizing s with
    | nil => exact ⟨hcalm, by simp [repeating]⟩
    | cons task due ih =>
      obtain ⟨hcalm', hperm⟩ := runTask_books hrun now task hcalm
      obtain ⟨hcalm'', hperm'⟩ := ih (runTask run now task s) hcalm'
      refine ⟨hcalm'', hperm'.trans ?_⟩
      have happend : repeating (task :: due) = repeating [task] ++ repeating due :=
        repeating_append [task] due
      rw [happend, ← List.append_assoc]
      exact hperm.append_right _
  have hcalm' : s.1.beginTick.2.Calm := ⟨hcalm.cancelled, hcalm.handedOver⟩
  obtain ⟨hended, hperm⟩ := hfold s.1.beginTick.2.now s.1.beginTick.1 (s.1.beginTick.2, s.2) hcalm'
  refine ⟨hended, hperm.trans ?_⟩
  rw [← repeating_append]
  refine perm_repeating ?_
  simp only [beginTick, List.partition_eq_filter_filter, Function.comp_def]
  exact List.perm_append_comm.trans (List.filter_append_perm ..)

/-- **A tick keeps the repeating tasks,** if jobs only book tasks that are to be done once. -/
theorem tick_books {s : Agenda J × σ} (hcalm : s.1.Calm) :
    (tick run s).1.Calm ∧ (tick run s).1.inHand = [] ∧
      (repeating (tick run s).1.tasks).Perm (repeating s.1.tasks) := by
  obtain ⟨hended, hperm⟩ := turns_books hrun hcalm
  rw [tick_eq_turns, serve_eq_of_calm hcalm]
  exact ⟨⟨rfl, hended.handedOver⟩, rfl, hperm⟩

end Books

end TriggerScript.Agenda

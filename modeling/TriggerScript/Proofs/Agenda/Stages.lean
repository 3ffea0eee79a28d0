import TriggerScript.Proofs.Agenda.History

/-!
# Stages of an agenda

A tick is not one step: while its tasks have their turns, jobs make calls. So the steps between two
things that happen are taken apart, and an invariant has to be shown for each of them only.

* `Stage` : an agenda, with the tasks that a tick in progress has in hand.
* `Reaches` : the stages that can be reached, with what has happened up to there.
* `reaches_history` : whatever commands are performed, the agenda reaches its stages so.
* `Reaches.exists_of_prefix` : each part of a history from the start also reaches a stage.
-/

namespace TriggerScript

/-- The task if it is to be queued again when it has run. -/
def QueuedJob.again? {J : Type} (task : QueuedJob J) : Option (QueuedJob J) :=
  if task.period.isSome then some task else none

namespace Agenda

variable {J σ : Type}

/-- An agenda, and what the tick in progress is doing with the tasks that it has taken out. -/
structure Stage (J : Type) where
  agenda : Agenda J
  ticking : Bool
  /-- The tasks whose turn has not come yet. -/
  waiting : List (QueuedJob J)
  /-- The repeating task that has started and has to be queued again. -/
  busy : Option (QueuedJob J)

/-- A stage can be reached, and this has happened up to there. -/
inductive Reaches : List (Happening J) → Stage J → Prop where
  | empty : Reaches [] ⟨.empty, false, [], none⟩
  | call {h : List (Happening J)} {stage : Stage J} (c : Call J) (before : Reaches h stage) :
    Reaches (h ++ [c.happening stage.agenda])
      { stage with agenda := c.perform stage.agenda }
  | handedOver {h : List (Happening J)} {stage : Stage J} (jobs : List J) (before : Reaches h stage) :
    Reaches h { stage with agenda := { stage.agenda with handedOver := jobs } }
  | beginTick {h : List (Happening J)} {a : Agenda J} (before : Reaches h ⟨a, false, [], none⟩) :
    Reaches (h ++ [.begun]) ⟨a.beginTick.2, true, a.beginTick.1, none⟩
  | start {h : List (Happening J)} {a : Agenda J} {task : QueuedJob J} {rest : List (QueuedJob J)}
    (before : Reaches h ⟨a, true, task :: rest, none⟩) (stands : task.id ∉ a.cancelled) :
    Reaches (h ++ [.started task.id task.job]) ⟨a, true, rest, task.again?⟩
  | pass {h : List (Happening J)} {a : Agenda J} {task : QueuedJob J} {rest : List (QueuedJob J)}
    (before : Reaches h ⟨a, true, task :: rest, none⟩) (marked : task.id ∈ a.cancelled) :
    Reaches (h ++ [.passed task.id]) ⟨a.forget task.id, true, rest, none⟩
  | requeue {h : List (Happening J)} {a : Agenda J} {task : QueuedJob J} {rest : List (QueuedJob J)}
    {period : UInt64} (before : Reaches h ⟨a, true, rest, some task⟩)
    (hperiod : task.period = some period) (stands : task.id ∉ a.cancelled) :
    Reaches (h ++ [.requeued task.id period]) ⟨a.requeue a.now task, true, rest, none⟩
  | release {h : List (Happening J)} {a : Agenda J} {task : QueuedJob J} {rest : List (QueuedJob J)}
    (before : Reaches h ⟨a, true, rest, some task⟩) (marked : task.id ∈ a.cancelled) :
    Reaches h ⟨a.requeue a.now task, true, rest, none⟩
  | endTick {h : List (Happening J)} {a : Agenda J} (before : Reaches h ⟨a, true, [], none⟩) :
    Reaches h ⟨a.endTick, false, [], none⟩

/-! ### What leaves the clock alone -/

@[simp] theorem now_perform (c : Call J) (a : Agenda J) : (c.perform a).now = a.now := by
  cases c with
  | once delay job => rfl
  | every delay period job => rfl
  | cancel id =>
    simp only [Call.perform, cancel]
    split <;> rfl

@[simp] theorem now_callAll (calls : List (Call J)) (a : Agenda J) :
    (callAll calls a).now = a.now := by
  induction calls generalizing a with
  | nil => rfl
  | cons c calls ih => exact (ih (c.perform a)).trans (now_perform c a)

theorem now_requeue (a : Agenda J) (now : UInt64) (task : QueuedJob J) :
    (a.requeue now task).now = a.now := by
  unfold requeue
  split
  · rfl
  · split <;> rfl

theorem nextId_requeue (a : Agenda J) (now : UInt64) (task : QueuedJob J) :
    (a.requeue now task).nextId = a.nextId := by
  unfold requeue
  split
  · rfl
  · split <;> rfl

theorem now_runTask (w : Worker J σ) (now : UInt64) (task : QueuedJob J) (s : Agenda J × σ) :
    (runTask w.run now task s).1.now = s.1.now := by
  unfold runTask
  split
  · rfl
  · simp [now_requeue, w.run_fst]

/-! ### What the agenda does -/

theorem reaches_calls {h : List (Happening J)} {stage : Stage J} (hreach : Reaches h stage)
    (calls : List (Call J)) : Reaches (h ++ callHistory calls stage.agenda)
      { stage with agenda := callAll calls stage.agenda } := by
  induction calls generalizing h stage with
  | nil => simpa [callHistory, callAll] using hreach
  | cons c calls ih => simpa [callHistory, callAll] using ih (hreach.call c)

theorem reaches_turn (w : Worker J σ) {h : List (Happening J)} {task : QueuedJob J}
    {rest : List (QueuedJob J)} {s : Agenda J × σ}
    (hreach : Reaches h ⟨s.1, true, task :: rest, none⟩) :
    Reaches (h ++ turnHistory w task s) ⟨(runTask w.run s.1.now task s).1, true, rest, none⟩ := by
  by_cases hmarked : task.id ∈ s.1.cancelled
  · have hmarked' : s.1.cancelled.contains task.id = true := List.contains_iff_mem.2 hmarked
    simpa only [turnHistory, runTask, hmarked', if_true] using hreach.pass hmarked
  · have hmarked' : s.1.cancelled.contains task.id = false := by simpa using hmarked
    have hcalled := reaches_calls (hreach.start hmarked) (w.calls task.job s)
    simp only [turnHistory, runTask, hmarked', Bool.false_eq_true, if_false]
    rw [w.run_fst, ← now_callAll (w.calls task.job s) s.1, ← List.singleton_append,
      ← List.append_assoc, ← List.append_assoc]
    cases hperiod : task.period with
    | none => simpa [QueuedJob.again?, hperiod, requeueHistory, requeue] using hcalled
    | some period =>
      simp only [QueuedJob.again?, hperiod, Option.isSome_some, if_true] at hcalled
      by_cases hlater : task.id ∈ (callAll (w.calls task.job s) s.1).cancelled
      · simpa [requeueHistory, hperiod, hlater] using hcalled.release hlater
      · simpa [requeueHistory, hperiod, hlater] using hcalled.requeue hperiod hlater

theorem reaches_turns (w : Worker J σ) (now : UInt64) (tasks : List (QueuedJob J))
    {h : List (Happening J)} {s : Agenda J × σ} (hreach : Reaches h ⟨s.1, true, tasks, none⟩)
    (hnow : s.1.now = now) :
    Reaches (h ++ turnsHistory w now tasks s)
      ⟨(tasks.foldl (fun s task => runTask w.run now task s) s).1, true, [], none⟩ := by
  induction tasks generalizing h s with
  | nil => simpa [turnsHistory] using hreach
  | cons task tasks ih =>
    have hturn := reaches_turn w hreach
    rw [hnow] at hturn
    have hrest := ih hturn ((now_runTask w now task s).trans hnow)
    rwa [List.append_assoc] at hrest

theorem reaches_serve (w : Worker J σ) (jobs : List J) {h : List (Happening J)} {s : Agenda J × σ}
    (hreach : Reaches h ⟨s.1, false, [], none⟩) :
    Reaches (h ++ serveHistory w jobs s)
      ⟨(jobs.foldl (fun s job => w.run job s) s).1, false, [], none⟩ := by
  induction jobs generalizing h s with
  | nil => simpa [serveHistory] using hreach
  | cons job jobs ih =>
    have hcalled := reaches_calls hreach (w.calls job s)
    simp only [← w.run_fst] at hcalled
    have hrest := ih hcalled
    rwa [List.append_assoc] at hrest

theorem reaches_tick (w : Worker J σ) {h : List (Happening J)} {s : Agenda J × σ}
    (hreach : Reaches h ⟨s.1, false, [], none⟩) :
    Reaches (h ++ tickHistory w s) ⟨(tick w.run s).1, false, [], none⟩ := by
  have hserved : Reaches (h ++ serveHistory w s.1.handedOver ({ s.1 with handedOver := [] }, s.2))
      ⟨(serve w.run s).1, false, [], none⟩ :=
    reaches_serve w s.1.handedOver (s := ({ s.1 with handedOver := [] }, s.2))
      (hreach.handedOver [])
  have hturns := reaches_turns w _ _ (s := ((serve w.run s).1.beginTick.2, (serve w.run s).2))
    hserved.beginTick rfl
  rw [List.append_assoc, List.append_assoc] at hturns
  exact hturns.endTick

theorem reaches_command (w : Worker J σ) (c : Command J) {h : List (Happening J)} {s : Agenda J × σ}
    (hreach : Reaches h ⟨s.1, false, [], none⟩) :
    Reaches (h ++ c.history w s) ⟨(c.perform w s).1, false, [], none⟩ := by
  cases c with
  | call c => exact hreach.call c
  | handOver job =>
    rw [Command.history, List.append_nil]
    exact hreach.handedOver (s.1.handedOver ++ [job])
  | tick => exact reaches_tick w hreach

/-- **Whatever commands are performed, the agenda reaches its state by these steps,** and this is
what happens. -/
theorem reaches_history (w : Worker J σ) (commands : List (Command J)) {h : List (Happening J)}
    {s : Agenda J × σ} (hreach : Reaches h ⟨s.1, false, [], none⟩) :
    Reaches (h ++ history w commands s) ⟨(performAll w commands s).1, false, [], none⟩ := by
  induction commands generalizing h s with
  | nil => simpa [history, performAll] using hreach
  | cons c commands ih =>
    have hrest := ih (reaches_command w c hreach)
    rwa [List.append_assoc] at hrest

/-! ### Parts of a history -/

/-- Each part of a history from the start reaches a stage as well. -/
theorem Reaches.exists_of_prefix {h h' : List (Happening J)} {stage : Stage J}
    (hreach : Reaches h stage) (hpart : h' <+: h) : ∃ stage : Stage J, Reaches h' stage := by
  have hstep {h : List (Happening J)} {e : Happening J} {stage : Stage J}
      (hreach : Reaches (h ++ [e]) stage) (hbefore : h' <+: h → ∃ stage : Stage J, Reaches h' stage)
      (hpart : h' <+: h ++ [e]) : ∃ stage : Stage J, Reaches h' stage := by
    obtain rfl | hpart := List.prefix_concat_iff.1 hpart
    · exact ⟨stage, hreach⟩
    · exact hbefore hpart
  induction hreach with
  | empty =>
    obtain rfl := List.prefix_nil.1 hpart
    exact ⟨_, .empty⟩
  | call c before ih => exact hstep (before.call c) ih hpart
  | handedOver jobs _ ih => exact ih hpart
  | beginTick before ih => exact hstep before.beginTick ih hpart
  | start before stands ih => exact hstep (before.start stands) ih hpart
  | pass before marked ih => exact hstep (before.pass marked) ih hpart
  | requeue before hperiod stands ih => exact hstep (before.requeue hperiod stands) ih hpart
  | release _ _ ih => exact ih hpart
  | endTick _ ih => exact ih hpart

end Agenda

end TriggerScript

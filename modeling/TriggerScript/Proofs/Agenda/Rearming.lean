import TriggerScript.Proofs.Agenda.Meanwhile

/-!
# When a repeating task is due again

A repeating task that has run is queued again, to be due a period after the tick in progress. The
sum is taken on 64 bits: where it does not fit it wraps, and the task is due at once, unlike the
first time, when the sum stops at the largest number.

* `Traced`, `traced_of_reaches` : repeating tasks keep the period that they were booked with.
* `DueAfter` : when a task should be due again.
* `dueAfter_iff` : it is, exactly if the sum fits.
* `beforeTurn` : the agenda when it is the turn of a task.
* `queued_again` : a repeating task that has run is queued again, and when it is due.
-/

namespace TriggerScript.Agenda

variable {J σ : Type}

/-! ### The period of a task -/

/-- A repeating task was booked with its period; a period of zero counts as one. -/
def Traced (h : List (Happening J)) (task : QueuedJob J) : Prop :=
  ∀ period, task.period = some period → ∃ delay given,
    .booked task.id delay (some given) task.job ∈ h ∧ period = max given 1

theorem Traced.append {h : List (Happening J)} {task : QueuedJob J} (htask : Traced h task)
    (more : List (Happening J)) : Traced (h ++ more) task := fun period hperiod =>
  let ⟨delay, given, hbooked, heq⟩ := htask period hperiod
  ⟨delay, given, List.mem_append_left _ hbooked, heq⟩

theorem traced_of_period_eq_none (h : List (Happening J)) {task : QueuedJob J}
    (hperiod : task.period = none) : Traced h task := by
  intro period heq
  rw [hperiod] at heq
  cases heq

/-- When a task is due makes no difference to its period. -/
theorem Traced.due {h : List (Happening J)} {task : QueuedJob J} (htask : Traced h task)
    (due : UInt64) : Traced h { task with due } :=
  htask

theorem mem_beginTick {a : Agenda J} {task : QueuedJob J} :
    task ∈ a.beginTick.1 ↔ task ∈ a.tasks ∧ task.due ≤ a.now + 1 := by
  simp [beginTick, List.partition_eq_filter_filter]

theorem mem_tasks_of_mem_beginTick {a : Agenda J} {task : QueuedJob J}
    (htask : task ∈ a.beginTick.2.tasks) : task ∈ a.tasks := by
  simp only [beginTick, List.partition_eq_filter_filter] at htask
  exact List.mem_of_mem_filter htask

theorem mem_stageTasks {stage : Stage J} {task : QueuedJob J} : task ∈ stage.tasks ↔
    task ∈ stage.agenda.tasks ∨ task ∈ stage.waiting ∨ stage.busy = some task := by
  rw [Stage.tasks, List.mem_append, List.mem_append, Option.mem_toList]

/-- One more task is queued, and something has happened. -/
theorem traced_of_mem_push {h more : List (Happening J)} {stage : Stage J} {new task : QueuedJob J}
    (hold : ∀ old ∈ stage.tasks, Traced h old) (hnew : Traced (h ++ more) new)
    (htask : task ∈ stage.agenda.tasks ++ [new] ∨ task ∈ stage.waiting ∨ stage.busy = some task) :
    Traced (h ++ more) task := by
  rcases htask with htask | htask
  · rcases List.mem_append.1 htask with htask | htask
    · exact (hold task (mem_stageTasks.2 (.inl htask))).append more
    · exact List.mem_singleton.1 htask ▸ hnew
  · exact (hold task (mem_stageTasks.2 (.inr htask))).append more

/-- **Repeating tasks keep the period that they were booked with.** -/
theorem traced_of_reaches {h : List (Happening J)} {stage : Stage J} (hreach : Reaches h stage) :
    ∀ task ∈ stage.tasks, Traced h task := by
  induction hreach with
  | empty => simp [Stage.tasks, Agenda.empty]
  | @call h stage c before ih =>
    intro task htask
    rw [mem_stageTasks] at htask
    cases c with
    | once delay job => exact traced_of_mem_push ih (traced_of_period_eq_none _ rfl) htask
    | every delay period job =>
      refine traced_of_mem_push ih (fun kept hkept => ?_) htask
      refine ⟨delay, period, ?_, (Option.some.inj hkept).symm⟩
      exact List.mem_append_right _ List.mem_cons_self
    | cancel id =>
      rw [Call.perform, tasks_cancel] at htask
      exact (ih task (mem_stageTasks.2 (htask.imp_left List.mem_of_mem_filter))).append _
  | handedOver jobs before ih => exact ih
  | beginTick before ih =>
    intro task htask
    refine Traced.append (ih task (mem_stageTasks.2 (.inl ?_))) _
    rcases mem_stageTasks.1 htask with htask | htask | htask
    · exact mem_tasks_of_mem_beginTick htask
    · exact (mem_beginTick.1 htask).1
    · cases htask
  | @start h a first rest before stands ih =>
    intro task htask
    refine Traced.append (ih task (mem_stageTasks.2 ?_)) _
    rcases mem_stageTasks.1 htask with htask | htask | htask
    · exact .inl htask
    · exact .inr (.inl (List.mem_cons_of_mem _ htask))
    · obtain rfl : first = task := (Option.ite_none_right_eq_some.1 htask).2 |> Option.some.inj
      exact .inr (.inl List.mem_cons_self)
  | pass before marked ih =>
    intro task htask
    refine Traced.append (ih task (mem_stageTasks.2 ?_)) _
    rcases mem_stageTasks.1 htask with htask | htask | htask
    · exact .inl htask
    · exact .inr (.inl (List.mem_cons_of_mem _ htask))
    · cases htask
  | @requeue h a first rest period before hperiod stands ih =>
    have hfirst : Traced h first := ih first (mem_stageTasks.2 (.inr (.inr rfl)))
    have hagain := (hfirst.append [.requeued first.id period]).due (a.now + period)
    intro task htask
    rw [mem_stageTasks, requeue_of_not_mem hperiod stands] at htask
    refine traced_of_mem_push ih hagain (htask.imp_right (Or.imp_right fun hbusy => ?_))
    cases hbusy
  | @release h a first rest before marked ih =>
    intro task htask
    refine ih task (mem_stageTasks.2 ?_)
    rcases mem_stageTasks.1 htask with htask | htask | htask
    · -- A task that is cancelled in its own turn is not queued again.
      refine .inl ?_
      cases hperiod : first.period with
      | none => rwa [Agenda.requeue, hperiod] at htask
      | some period => rwa [requeue_of_mem hperiod marked] at htask
    · exact .inr (.inl htask)
    · cases htask
  | endTick before ih => exact ih

/-! ### The next turn -/

/-- After a turn in the tick `now` a task is due a period later, as far as there are numbers; so it
is due later than now, and in the next tick only if its period is one. -/
structure DueAfter (now period : UInt64) (task : QueuedJob J) : Prop where
  due : task.due.toNat = min (now.toNat + (max period 1).toNat) (UInt64.size - 1)
  later : now < task.due
  rests : ∀ a : Agenda J, a.now = now → task ∈ a.beginTick.1 → max period 1 = 1

/-- Where the sum does not fit it wraps. -/
theorem toNat_add_of_size_le {a b : UInt64} (h : UInt64.size ≤ a.toNat + b.toNat) :
    (a + b).toNat = a.toNat + b.toNat - UInt64.size := by
  have ha := a.toNat_lt_size
  have hb := b.toNat_lt_size
  rw [UInt64.toNat_add]
  change (a.toNat + b.toNat) % UInt64.size = _
  rw [Nat.mod_eq_sub_mod h, Nat.mod_eq_of_lt (by omega)]

theorem toNat_add_of_lt_size {a b : UInt64} (h : a.toNat + b.toNat < UInt64.size) :
    (a + b).toNat = a.toNat + b.toNat := by
  rw [UInt64.toNat_add]
  exact Nat.mod_eq_of_lt h

/-- **A task that is queued again is due when it should be exactly if the sum of the tick and the
period fits.** -/
theorem dueAfter_iff {now period : UInt64} {task : QueuedJob J}
    (hdue : task.due = now + max period 1) :
    DueAfter now period task ↔ now.toNat + (max period 1).toNat < UInt64.size := by
  have hone : 1 ≤ (max period 1).toNat := by
    rw [toNat_max_one]
    exact Nat.le_max_right ..
  have hnow := now.toNat_lt_size
  have hperiod := (max period 1).toNat_lt_size
  constructor
  · intro h
    by_contra hover
    have hlater := UInt64.lt_iff_toNat_lt.1 h.later
    rw [hdue, toNat_add_of_size_le (by omega)] at hlater
    omega
  · intro hfits
    have hsum : task.due.toNat = now.toNat + (max period 1).toNat := by
      rw [hdue, toNat_add_of_lt_size hfits]
    refine ⟨by omega, UInt64.lt_iff_toNat_lt.2 (by omega), fun a hclock hmem => ?_⟩
    have hsoon := UInt64.le_iff_toNat_le.1 (mem_beginTick.1 hmem).2
    have hnext : (now + 1).toNat = now.toNat + 1 :=
      toNat_add_of_lt_size (by change now.toNat + 1 < UInt64.size; omega)
    rw [hclock, hnext, hsum] at hsoon
    refine UInt64.toNat_inj.1 ?_
    change _ = 1
    omega

/-! ### The turn of a task -/

/-- The agenda when a tick has begun and the tasks `earlier` have had their turns. -/
def beforeTurn (run : J → Agenda J × σ → Agenda J × σ) (s : Agenda J × σ)
    (earlier : List (QueuedJob J)) : Agenda J × σ :=
  earlier.foldl (fun s' task => runTask run s.1.beginTick.2.now task s') (s.1.beginTick.2, s.2)

/-- A repeating task that has not been cancelled runs and is queued again. -/
theorem tasks_runTask {run : J → Agenda J × σ → Agenda J × σ} {now period : UInt64}
    {task : QueuedJob J} {s : Agenda J × σ} (hperiod : task.period = some period)
    (hbefore : task.id ∉ s.1.cancelled) (hafter : task.id ∉ (run task.job s).1.cancelled) :
    (runTask run now task s).1.tasks =
      (run task.job s).1.tasks ++ [{ task with due := now + period }] := by
  simp [runTask, requeue, hbefore, hafter, hperiod]

/-- **A repeating task that has run is queued again.** Its period is the one that it was booked
with, at least one. It is due after this period exactly if the number of that tick fits in 64 bits;
otherwise it has its turn again in the next tick, whatever its period. -/
theorem queued_again (w : Worker J σ) (commands : List (Command J)) (x : σ)
    (earlier later : List (QueuedJob J)) (task : QueuedJob J) (period : UInt64)
    (hdue : (serve w.run (performAll w commands (.empty, x))).1.beginTick.1 =
      earlier ++ task :: later)
    (hperiod : task.period = some period)
    (hbefore : task.id ∉
      (beforeTurn w.run (serve w.run (performAll w commands (.empty, x))) earlier).1.cancelled)
    (hafter : task.id ∉ (w.run task.job
      (beforeTurn w.run (serve w.run (performAll w commands (.empty, x))) earlier)).1.cancelled) :
    let s := performAll w commands (.empty, x)
    let now := (serve w.run s).1.beginTick.2.now
    let before := beforeTurn w.run (serve w.run s) earlier
    ∃ delay given, .booked task.id delay (some given) task.job ∈
        history w commands (.empty, x) ++ servedIn w s ∧
      ∃ again : QueuedJob J, again.id = task.id ∧ again.period = some (max given 1) ∧
        again.job = task.job ∧
        (runTask w.run now task before).1.tasks = (w.run task.job before).1.tasks ++ [again] ∧
        (DueAfter now given again ↔ now.toNat + (max given 1).toNat < UInt64.size) ∧
        (UInt64.size ≤ now.toNat + (max given 1).toNat → now.toNat + 1 < UInt64.size →
          ∀ a : Agenda J, a.now = now → again ∈ a.tasks → again ∈ a.beginTick.1) := by
  intro s now before
  have hreach : Reaches (history w commands (.empty, x)) ⟨s.1, false, [], none⟩ :=
    reaches_history w commands (h := []) (s := (.empty, x)) .empty
  have hserved : Reaches (history w commands (.empty, x) ++ servedIn w s)
      ⟨(serve w.run s).1, false, [], none⟩ :=
    reaches_serve w s.1.handedOver (s := ({ s.1 with handedOver := [] }, s.2))
      (hreach.handedOver [])
  have htask : task ∈ (serve w.run s).1.tasks := by
    refine (mem_beginTick.1 ?_).1
    rw [hdue]
    exact List.mem_append_right _ List.mem_cons_self
  obtain ⟨delay, given, hbooked, rfl⟩ :=
    traced_of_reaches hserved task (mem_stageTasks.2 (.inl htask)) period hperiod
  refine ⟨delay, given, hbooked, { task with due := now + max given 1 }, rfl, hperiod, rfl,
    tasks_runTask hperiod hbefore hafter, dueAfter_iff rfl, fun hover hnext a hclock hmem => ?_⟩
  refine mem_beginTick.2 ⟨hmem, UInt64.le_iff_toNat_le.2 ?_⟩
  have hsoon : (now + 1).toNat = now.toNat + 1 := toNat_add_of_lt_size hnext
  have hlast := (max given 1).toNat_lt_size
  rw [hclock, hsoon, toNat_add_of_size_le hover]
  omega

/-- A worker whose jobs do nothing. -/
def idler : Worker Nat Unit :=
  .listed fun _ => []

/-- A task with a period of three that has run in the first tick is due after that. -/
theorem queued_again_three :
    let s := performAll idler [.call (.every 0 3 7)] (.empty, ())
    let before := beforeTurn idler.run (serve idler.run s) []
    (serve idler.run s).1.beginTick.1 = [⟨1, 1, some 3, 7⟩] ∧ 1 ∉ before.1.cancelled ∧
      ∃ again : QueuedJob Nat, again.id = 1 ∧ again.job = 7 ∧
        (runTask idler.run 1 ⟨1, 1, some 3, 7⟩ before).1.tasks = [again] ∧
        DueAfter 1 3 again := by
  intro s before
  have hdue : (serve idler.run s).1.beginTick.1 = [⟨1, 1, some 3, 7⟩] := rfl
  have hstands : (1 : UInt64) ∉ before.1.cancelled := List.not_mem_nil
  obtain ⟨delay, given, hbooked, again, hid, -, hjob, htasks, hiff, -⟩ :=
    queued_again idler [.call (.every 0 3 7)] () [] [] ⟨1, 1, some 3, 7⟩ 3 hdue rfl hstands hstands
  obtain ⟨-, -, hgiven, -⟩ := Happening.booked.inj (List.mem_singleton.1 hbooked)
  obtain rfl := Option.some.inj hgiven
  exact ⟨hdue, hstands, again, hid, hjob, htasks, hiff.2 (by decide)⟩

/-- A task with a period of more than one may start in two ticks one after the other. -/
theorem not_rests_of_period : ¬∀ (w : Worker Nat Unit) (commands : List (Command Nat)) (id : UInt64)
    (b : Booking Nat) (period : UInt64) (n : Nat),
    (account id (history w commands (.empty, ()))).booking = some b → b.period = some period →
      1 < period → n ∈ (account id (history w commands (.empty, ()))).starts →
      n + 1 ∉ (account id (history w commands (.empty, ()))).starts := by
  intro h
  have haccount : account 1 (history idler
      [.call (.every 1 18446744073709551615 0), .tick, .tick] (.empty, ())) =
        ⟨2, some ⟨0, 1, some 18446744073709551615, 0⟩, none, [1, 2], []⟩ := by
    decide
  refine h idler _ 1 _ 18446744073709551615 1 (congrArg Account.booking haccount) rfl (by decide)
    ?_ ?_ <;> (rw [haccount]; decide)

end TriggerScript.Agenda

import TriggerScript.Proofs.Agenda.Agreement

/-!
# Tasks start when they are due

* `nodup_bookedIds` : as long as there are numbers left, tasks have different numbers.
* `Fair` : nothing starts after it has been cancelled, and nothing else is passed over.
* `InOrder` : in a tick, tasks start in the order in which they were last queued.
* `starts_when_due` : in which ticks tasks start, in which order, and what is left between ticks.
-/

namespace TriggerScript.Agenda

variable {J σ : Type} {h : List (Happening J)} {stage : Stage J}

/-! ### Numbers of tasks -/

/-- The number that the task booked after `n` others gets. -/
def numberAt (n : Nat) : UInt64 := .ofNat (n + 1)

theorem numberAt_succ (n : Nat) : numberAt (n + 1) = numberAt n + 1 :=
  UInt64.ofNat_add (n + 1) 1

theorem numberAt_inj {m n : Nat} (hm : m < UInt64.size) (hn : n < UInt64.size)
    (heq : numberAt m = numberAt n) : m = n := by
  have hnat := congrArg UInt64.toNat heq
  simp only [numberAt, UInt64.toNat_ofNat'] at hnat
  simp only [UInt64.size] at *
  omega

theorem nextId_cancel (a : Agenda J) (id : UInt64) : (a.cancel id).nextId = a.nextId := by
  simp only [cancel]
  split <;> rfl

/-- Tasks are numbered one after the other. -/
theorem bookedIds_of_reaches (hreach : Reaches h stage) :
    bookedIds h = (List.range (bookedIds h).length).map numberAt ∧
      stage.agenda.nextId = numberAt (bookedIds h).length := by
  have hsilent {h : List (Happening J)} {e : Happening J} (he : e.bookedId? = none) :
      bookedIds (h ++ [e]) = bookedIds h := by
    rw [bookedIds_concat, he, Option.toList_none, List.append_nil]
  have hbook {h : List (Happening J)} {e : Happening J} {stage : Stage J}
      (he : e.bookedId? = some stage.agenda.nextId)
      (ih : bookedIds h = (List.range (bookedIds h).length).map numberAt ∧
        stage.agenda.nextId = numberAt (bookedIds h).length) :
      bookedIds (h ++ [e]) = (List.range (bookedIds (h ++ [e])).length).map numberAt ∧
        stage.agenda.nextId + 1 = numberAt (bookedIds (h ++ [e])).length := by
    rw [bookedIds_concat, he, Option.toList_some, List.length_append, List.length_singleton,
      List.range_succ, List.map_append, List.map_singleton, ← ih.1, ← ih.2]
    exact ⟨rfl, ih.2 ▸ (numberAt_succ _).symm⟩
  induction hreach with
  | empty => exact ⟨rfl, rfl⟩
  | call c before ih =>
    cases c with
    | once delay job => exact hbook rfl ih
    | every delay period job => exact hbook rfl ih
    | cancel id =>
      rw [hsilent rfl]
      exact ⟨ih.1, (nextId_cancel ..).trans ih.2⟩
  | handedOver jobs before ih => exact ih
  | beginTick before ih => rw [hsilent rfl]; exact ih
  | start before stands ih => rw [hsilent rfl]; exact ih
  | pass before marked ih => rw [hsilent rfl]; exact ih
  | requeue before hperiod stands ih =>
    rw [hsilent rfl]
    exact ⟨ih.1, (nextId_requeue ..).trans ih.2⟩
  | release before marked ih => exact ⟨ih.1, (nextId_requeue ..).trans ih.2⟩
  | endTick before ih => exact ih

/-- Tasks can be told apart by their numbers unless there are more tasks than numbers. -/
theorem nodup_bookedIds (hreach : Reaches h stage)
    (hcount : (bookedIds h).length ≤ UInt64.size) : (bookedIds h).Nodup := by
  rw [(bookedIds_of_reaches hreach).1]
  refine List.Nodup.map_on (fun m hm n hn heq => ?_) List.nodup_range
  have hm' := List.mem_range.1 hm
  have hn' := List.mem_range.1 hn
  exact numberAt_inj (by omega) (by omega) heq

/-! ### What starts and what is passed over -/

/-- Only tasks that have been booked and not cancelled start, each with its own job, and only
cancelled tasks are passed over. -/
structure Fair (h : List (Happening J)) : Prop where
  started : ∀ pre id job, pre ++ [.started id job] <+: h →
    (account id pre).cancelled = none ∧ ∃ b, (account id pre).booking = some b ∧ b.job = job
  passed : ∀ pre id, pre ++ [.passed id] <+: h → (account id pre).cancelled.isSome

theorem Fair.concat {e : Happening J} (hfair : Fair h)
    (hstarted : ∀ id job, e = .started id job →
      (account id h).cancelled = none ∧ ∃ b, (account id h).booking = some b ∧ b.job = job)
    (hpassed : ∀ id, e = .passed id → (account id h).cancelled.isSome) : Fair (h ++ [e]) where
  started pre id job hpre := by
    obtain heq | hpre := List.prefix_concat_iff.1 hpre
    · obtain ⟨rfl, he⟩ := List.append_inj' heq rfl
      exact hstarted id job (List.singleton_inj.1 he).symm
    · exact hfair.started pre id job hpre
  passed pre id hpre := by
    obtain heq | hpre := List.prefix_concat_iff.1 hpre
    · obtain ⟨rfl, he⟩ := List.append_inj' heq rfl
      exact hpassed id (List.singleton_inj.1 he).symm
    · exact hfair.passed pre id hpre

theorem fair_of_reaches {last : Nat} (hreach : Reaches h stage)
    (hnumbers : WellNumbered last h) : Fair h := by
  induction hreach with
  | empty => exact ⟨fun pre _ _ hpre => by simp at hpre, fun pre _ hpre => by simp at hpre⟩
  | call c before ih =>
    cases c with
    | once delay job => exact (ih hnumbers.init).concat nofun nofun
    | every delay period job => exact (ih hnumbers.init).concat nofun nofun
    | cancel id => exact (ih hnumbers.init).concat nofun nofun
  | handedOver jobs before ih => exact ih hnumbers
  | beginTick before ih => exact (ih hnumbers.init).concat nofun nofun
  | start before hstands ih =>
    refine (ih hnumbers.init).concat (fun id job he => ?_) nofun
    obtain ⟨rfl, rfl⟩ := Happening.started.inj he
    obtain ⟨⟨b, hb, -, hjob⟩, -, -, hmarked⟩ := (agrees_of_reaches before hnumbers.init).turn_due
    exact ⟨hmarked.trans (if_neg hstands), b, hb, hjob.symm⟩
  | pass before hmarks ih =>
    refine (ih hnumbers.init).concat nofun (fun id he => ?_)
    obtain rfl := Happening.passed.inj he
    rw [(agrees_of_reaches before hnumbers.init).turn_due.marked, if_pos hmarks]
    rfl
  | requeue before hperiod hstands ih => exact (ih hnumbers.init).concat nofun nofun
  | release before hmarks ih => exact ih hnumbers
  | endTick before ih => exact ih hnumbers

/-! ### The order in a tick -/

/-- Without repeats, what is queued once more moves to the end. -/
theorem dedup_concat (l : List UInt64) (x : UInt64) :
    (l ++ [x]).dedup = l.dedup.filter (· ≠ x) ++ [x] := by
  induction l with
  | nil => rfl
  | cons y l ih =>
    rw [List.cons_append]
    by_cases hy : y ∈ l
    · rw [List.dedup_cons_of_mem (List.mem_append_left _ hy), List.dedup_cons_of_mem hy, ih]
    · rw [List.dedup_cons_of_notMem hy]
      by_cases hyx : y = x
      · rw [List.dedup_cons_of_mem (by simp [hyx]), ih]
        simp [hyx]
      · rw [List.dedup_cons_of_notMem (by simp [hy, hyx]), ih]
        simp [hyx]

/-- A list in the order of last occurrences stays so when another element is put behind it. -/
theorem sublist_dedup_concat {ids l : List UInt64} {x : UInt64} (hsub : ids.Sublist l.dedup)
    (hx : x ∉ ids) : (ids ++ [x]).Sublist (l ++ [x]).dedup := by
  rw [dedup_concat]
  refine List.Sublist.append_right ?_ _
  have hids : ids.filter (· ≠ x) = ids := by
    refine List.filter_eq_self.2 fun y hy => decide_eq_true ?_
    rintro rfl
    exact hx hy
  exact hids ▸ hsub.filter _

/-- The queue is in the order in which its tasks were last queued, and so are the tasks of the tick
in progress: those that have started, and those that wait behind them. -/
structure InOrder (h : List (Happening J)) (stage : Stage J) : Prop where
  queue : (stage.agenda.tasks.map (·.id)).Sublist (queuedIds h).dedup
  turns : ∀ pre during, h = pre ++ .begun :: during → .begun ∉ during →
    (startedIds during ++ stage.waiting.map (·.id)).Sublist (queuedIds pre).dedup

/-- What happens in a tick is part of the tick. -/
theorem InOrder.concat {e : Happening J} {stage' : Stage J} (horder : InOrder h stage)
    (hbegun : e.isBegun = false)
    (hqueue : (stage'.agenda.tasks.map (·.id)).Sublist (queuedIds (h ++ [e])).dedup)
    (hturns : (e.startedId?.toList ++ stage'.waiting.map (·.id)).Sublist
      (stage.waiting.map (·.id))) : InOrder (h ++ [e]) stage' where
  queue := hqueue
  turns pre during heq hnone := by
    obtain rfl | ⟨during, e', rfl⟩ := List.eq_nil_or_concat during
    · obtain rfl := List.singleton_inj.1 (List.append_inj' heq rfl).2
      cases hbegun
    · rw [List.concat_eq_append, ← List.cons_append, ← List.append_assoc] at heq
      obtain ⟨rfl, he⟩ := List.append_inj' heq rfl
      obtain rfl := List.singleton_inj.1 he
      have hearlier := horder.turns pre during rfl fun hmem => hnone (by simp [hmem])
      rw [List.concat_eq_append, startedIds_concat, List.append_assoc]
      exact (hturns.append_left _).trans hearlier

theorem inOrder_of_reaches {last : Nat} (hreach : Reaches h stage)
    (hnumbers : WellNumbered last h) : InOrder h stage := by
  have hsilent {h : List (Happening J)} {e : Happening J} (he : e.queuedId? = none) :
      queuedIds (h ++ [e]) = queuedIds h := by
    rw [queuedIds_concat, he, Option.toList_none, List.append_nil]
  have hloud {h : List (Happening J)} {e : Happening J} {id : UInt64}
      (he : e.queuedId? = some id) : queuedIds (h ++ [e]) = queuedIds h ++ [id] := by
    rw [queuedIds_concat, he, Option.toList_some]
  induction hreach with
  | empty => exact ⟨List.Sublist.refl _, fun pre during heq => by simp at heq⟩
  | @call h stage c before ih =>
    have horder := ih hnumbers.init
    have hagrees := agrees_of_reaches before hnumbers.init
    have hbook (hnew : stage.agenda.nextId ∉ bookedIds h) :
        (stage.agenda.tasks.map (·.id) ++ [stage.agenda.nextId]).Sublist
          (queuedIds h ++ [stage.agenda.nextId]).dedup :=
      sublist_dedup_concat horder.queue fun hmem => hnew (hagrees.ids_subset (by
        rw [Stage.ids, Stage.tasks, List.map_append]
        exact List.mem_append_left _ hmem))
    cases c with
    | once delay job =>
      refine horder.concat rfl ?_ (List.Sublist.refl _)
      rw [hloud rfl]
      simpa [Call.perform, once, push] using hbook (hnumbers.not_mem_bookedIds rfl)
    | every delay period job =>
      refine horder.concat rfl ?_ (List.Sublist.refl _)
      rw [hloud rfl]
      simpa [Call.perform, every, push] using hbook (hnumbers.not_mem_bookedIds rfl)
    | cancel id =>
      refine horder.concat rfl ?_ (List.Sublist.refl _)
      rw [hsilent rfl]
      refine List.Sublist.trans (List.Sublist.map _ ?_) horder.queue
      exact (tasks_cancel stage.agenda id).symm ▸ List.filter_sublist
  | handedOver jobs before ih =>
    obtain ⟨hqueue, hturns⟩ := ih hnumbers
    exact ⟨hqueue, hturns⟩
  | @beginTick h a before ih =>
    have horder := ih hnumbers.init
    have hsub (p : QueuedJob J → Bool) :
        ((a.tasks.filter p).map (·.id)).Sublist (queuedIds h).dedup :=
      (List.filter_sublist.map _).trans horder.queue
    constructor
    · rw [hsilent rfl]
      simpa [Agenda.beginTick, List.partition_eq_filter_filter] using hsub _
    · intro pre during heq hnone
      obtain rfl | ⟨during, e, rfl⟩ := List.eq_nil_or_concat during
      · obtain ⟨rfl, -⟩ := List.append_inj' heq rfl
        simpa [Agenda.beginTick, List.partition_eq_filter_filter, startedIds] using hsub _
      · rw [List.concat_eq_append, ← List.cons_append, ← List.append_assoc] at heq
        obtain ⟨-, he⟩ := List.append_inj' heq rfl
        exact absurd (by simp [List.singleton_inj.1 he]) hnone
  | start before hstands ih =>
    refine (ih hnumbers.init).concat rfl ?_ (List.Sublist.refl _)
    rw [hsilent rfl]
    exact (ih hnumbers.init).queue
  | pass before hmarks ih =>
    refine (ih hnumbers.init).concat rfl ?_ (List.sublist_cons_self ..)
    rw [hsilent rfl]
    exact (ih hnumbers.init).queue
  | @requeue h a task rest period before hperiod hstands ih =>
    refine (ih hnumbers.init).concat rfl ?_ (List.Sublist.refl _)
    have hagrees := agrees_of_reaches before hnumbers.init
    rw [hloud rfl, requeue_of_not_mem hperiod hstands]
    simpa using sublist_dedup_concat (ih hnumbers.init).queue hagrees.busy_nowhere_else.1
  | @release h a task rest before hmarks ih =>
    obtain ⟨hqueue, hturns⟩ := ih hnumbers
    obtain ⟨period, hperiod, -⟩ := (agrees_of_reaches before hnumbers).busy task rfl
    rw [requeue_of_mem hperiod hmarks]
    exact ⟨hqueue, hturns⟩
  | endTick before ih =>
    obtain ⟨hqueue, hturns⟩ := ih hnumbers
    exact ⟨hqueue, hturns⟩

/-! ### Whole histories -/

/-- Between ticks, a next turn comes later than now, or than the cancellation. -/
theorem Agrees.cancelled_lt_next {last : Nat} {a : Agenda J} {id : UInt64} {d : Nat}
    (hagrees : Agrees last h ⟨a, false, [], none⟩) (hnext : (account id h).next? = some d) :
    (account id h).cancelled.getD (account id h).now < d := by
  by_cases hqueued : id ∈ a.tasks.map (·.id)
  · obtain ⟨task, htask, rfl⟩ := List.mem_map.1 hqueued
    obtain ⟨-, hstands, tick, hnext', hlater, -⟩ := hagrees.queued task htask
    obtain rfl := Option.some.inj (hnext'.symm.trans hnext)
    rwa [hstands]
  · have hgone : id ∉ Stage.ids ⟨a, false, [], none⟩ := by
      simpa [Stage.ids, Stage.tasks] using hqueued
    obtain ⟨m, hm, hlt⟩ := hagrees.gone id hgone d hnext
    rwa [hm]

/-- **Tasks start when they are due.** Whatever is asked of an agenda, also by jobs while a tick
runs, as long as there are numbers for tasks and ticks:

* the turns of a task are in the ticks in which it is due, up to its cancellation or up to now;
* what starts was booked, with the job that is run, and has not been cancelled; what is passed over
  has been cancelled, in this tick;
* what starts in one tick starts in the order in which it was last queued;
* after each command nothing is in hand and nothing marked, and every task is due later. -/
theorem starts_when_due (w : Worker J σ) (commands : List (Command J)) (x : σ)
    (hcount : (bookedIds (history w commands (.empty, x))).length ≤ UInt64.size)
    (hrange : InRange (ticksIn (history w commands (.empty, x))) 0
      (history w commands (.empty, x))) :
    let h := history w commands (.empty, x)
    let a := (performAll w commands (.empty, x)).1
    (∀ id b, (account id h).booking = some b →
      (account id h).turns.Pairwise (· < ·) ∧
      (∀ m, m ∈ (account id h).turns ↔
        b.IsDue m ∧ m ≤ (account id h).cancelled.getD (ticksIn h)) ∧
      ∀ m ∈ (account id h).passes, (account id h).cancelled = some m) ∧
    (∀ pre id job, pre ++ [.started id job] <+: h →
      (account id pre).cancelled = none ∧ ∃ b, (account id pre).booking = some b ∧ b.job = job) ∧
    (∀ pre id, pre ++ [.passed id] <+: h → (account id pre).cancelled.isSome) ∧
    (∀ pre during, pre ++ .begun :: during <+: h → .begun ∉ during →
      (startedIds during).Sublist (queuedIds pre).dedup) ∧
    a.now.toNat = ticksIn h ∧ a.inHand = [] ∧ a.cancelled = [] ∧
      ∀ task ∈ a.tasks, a.now < task.due := by
  intro h a
  have hreach : Reaches h ⟨a, false, [], none⟩ :=
    reaches_history w commands (h := []) (s := (.empty, x)) .empty
  have hnumbers : WellNumbered (ticksIn h) h := ⟨nodup_bookedIds hreach hcount, hrange⟩
  have hagrees := agrees_of_reaches hreach hnumbers
  have hfair := fair_of_reaches hreach hnumbers
  refine ⟨fun id b hb => ?_, hfair.started, hfair.passed, fun pre during hpre hnone => ?_,
    hagrees.now, (hagrees.quiet rfl).1, (hagrees.quiet rfl).2.1, fun task htask => ?_⟩
  · have hlawful := hagrees.lawful id
    refine ⟨hlawful.pairwise_turns hb, ?_, hlawful.passes⟩
    rw [← now_account id h]
    exact hlawful.mem_turns hb fun d hd => hagrees.cancelled_lt_next hd
  · obtain ⟨stage, hstage⟩ := hreach.exists_of_prefix hpre
    have horder := inOrder_of_reaches hstage (hnumbers.of_prefix hpre)
    exact (List.sublist_append_left ..).trans (horder.turns pre during rfl hnone)
  · obtain ⟨-, -, tick, -, hlater, hshows⟩ := hagrees.queued task htask
    rw [now_account] at hlater
    rw [UInt64.lt_iff_toNat_lt, hagrees.now]
    exact Nat.lt_of_not_le fun hle => Nat.not_le_of_lt hlater ((hshows _ (Nat.le_refl _)).1 hle)

/-- A worker whose jobs are numbers of lists of calls. -/
def Worker.listed (calls : Nat → List (Call Nat)) : Worker Nat Unit where
  run job s := (callAll (calls job) s.1, s.2)
  calls job _ := calls job
  run_fst _ _ := rfl

/-- Job 1 cancels a task that is due in the same tick, job 2 its own task. -/
def meddler : Worker Nat Unit :=
  .listed fun
    | 1 => [.cancel 2]
    | 2 => [.cancel 3, .once 1 0]
    | _ => []

/-- The jobs of `meddler` are booked before five ticks pass. -/
def meddling : List (Command Nat) :=
  [.call (.once 1 1), .call (.once 1 0), .call (.every 2 3 2), .call (.every 0 2 0),
    .tick, .tick, .tick, .tick, .tick]

/-- The task that is cancelled in the tick in which it is due does not start, the one that cancels
itself does not start again, and another one goes on. -/
theorem starts_when_due_meddling :
    let h := history meddler meddling (.empty, ())
    (bookedIds h).length ≤ UInt64.size ∧ InRange (ticksIn h) 0 h ∧
      account 2 h = ⟨5, some ⟨0, 1, none, 0⟩, some 1, [], [1]⟩ ∧
      account 3 h = ⟨5, some ⟨0, 2, some 3, 2⟩, some 2, [2], []⟩ ∧
      account 4 h = ⟨5, some ⟨0, 0, some 2, 0⟩, none, [1, 3, 5], []⟩ ∧
      (∀ m, m ∈ [1, 3, 5] ↔ Booking.IsDue ⟨0, 0, some 2, 0⟩ m ∧ m ≤ 5) ∧
      (performAll meddler meddling (.empty, ())).1.inHand = [] := by
  intro h
  have hcount : (bookedIds h).length ≤ UInt64.size := by decide
  have hrange : InRange (ticksIn h) 0 h := by decide
  obtain ⟨hturns, -, -, -, -, hinHand, -⟩ := starts_when_due meddler meddling () hcount hrange
  have haccount : account 4 h = ⟨5, some ⟨0, 0, some 2, 0⟩, none, [1, 3, 5], []⟩ := by decide
  have hfour := (hturns 4 ⟨0, 0, some 2, 0⟩ (by rw [haccount])).2.1
  rw [haccount] at hfour
  exact ⟨hcount, hrange, by decide, by decide, haccount, hfour, hinHand⟩

end TriggerScript.Agenda

import TriggerScript.Proofs.Agenda.Ledger

/-!
# The agenda agrees with its history

The agenda holds each task once: in the queue, in the hands of the tick in progress, or as the task
that has started and is to be queued again. A task that is cancelled is taken out of the queue at
once; one in hand is marked instead. So wherever a task is, its account says the same.

* `Shows` : a number on the agenda stands for a tick.
* `Queued`, `Held` : the account of a task in the queue, and of one in hand.
* `Agrees` : the agenda agrees with its history.
* `agrees_of_reaches` : it does at every stage that can be reached.
-/

namespace TriggerScript.Agenda

variable {J : Type} {last : Nat}

/-! ### Numbers of ticks -/

/-- A number stands for a tick, as far as can be told up to the tick `last`. -/
def Shows (last : Nat) (due : UInt64) (tick : Nat) : Prop :=
  ∀ now ≤ last, due.toNat ≤ now ↔ tick ≤ now

theorem shows_add {now delay : UInt64} (h : now.toNat + delay.toNat < UInt64.size) :
    Shows last (now + delay) (now.toNat + delay.toNat) := by
  intro m _
  rw [UInt64.toNat_add, Nat.mod_eq_of_lt h]

theorem shows_saturatingAdd {now delay : UInt64} (h : Bookable last (now.toNat + delay.toNat)) :
    Shows last (saturatingAdd now delay) (now.toNat + delay.toNat) := by
  by_cases hfits : now.toNat + delay.toNat < UInt64.size
  · have hle : now ≤ now + delay := by
      rw [UInt64.le_iff_toNat_le, UInt64.toNat_add, Nat.mod_eq_of_lt hfits]
      exact Nat.le_add_right ..
    rw [saturatingAdd, if_pos hle]
    exact shows_add hfits
  · have hover : ¬now ≤ now + delay := by
      rw [UInt64.le_iff_toNat_le, UInt64.toNat_add]
      have hnow := now.toNat_lt_size
      have hdelay := delay.toNat_lt_size
      simp only [UInt64.size] at *
      omega
    have hmax : (UInt64.ofNat (UInt64.size - 1)).toNat = UInt64.size - 1 := by decide
    intro m hm
    rw [saturatingAdd, if_neg hover, hmax]
    have := h.resolve_left hfits
    omega

/-! ### Where a task is -/

/-- Period and job on the agenda are those of the booking. -/
def AsBooked (acc : Account J) (task : QueuedJob J) : Prop :=
  ∃ b, acc.booking = some b ∧ task.period = b.period.map (max · 1) ∧ task.job = b.job

/-- The account of a task in the queue. -/
structure Queued (last : Nat) (acc : Account J) (task : QueuedJob J) : Prop where
  booked : AsBooked acc task
  stands : acc.cancelled = none
  due : ∃ tick, acc.next? = some tick ∧ acc.now < tick ∧ Shows last task.due tick

/-- The account of a task in hand, the next turn of which is in the tick `tick`. -/
structure Held (a : Agenda J) (acc : Account J) (task : QueuedJob J) (tick : Nat) : Prop where
  booked : AsBooked acc task
  inHand : task.id ∈ a.inHand
  next : acc.next? = some tick
  marked : acc.cancelled = if task.id ∈ a.cancelled then some acc.now else none

/-- All tasks of a stage. -/
def Stage.tasks (stage : Stage J) : List (QueuedJob J) :=
  stage.agenda.tasks ++ (stage.waiting ++ stage.busy.toList)

/-- The numbers of all tasks of a stage. -/
def Stage.ids (stage : Stage J) : List UInt64 := stage.tasks.map (·.id)

/-- The agenda agrees with its history. -/
structure Agrees (last : Nat) (h : List (Happening J)) (stage : Stage J) : Prop where
  now : stage.agenda.now.toNat = ticksIn h
  quiet : stage.ticking = false → stage.agenda.inHand = [] ∧ stage.agenda.cancelled = [] ∧
    stage.waiting = [] ∧ stage.busy = none
  nodup : stage.ids.Nodup
  lawful : ∀ id, (account id h).Lawful
  queued : ∀ task ∈ stage.agenda.tasks, Queued last (account task.id h) task
  waiting : ∀ task ∈ stage.waiting, Held stage.agenda (account task.id h) task (ticksIn h)
  busy : ∀ task ∈ stage.busy, ∃ period, task.period = some period ∧
    Held stage.agenda (account task.id h) task (ticksIn h + period.toNat)
  gone : ∀ id, id ∉ stage.ids → (account id h).Over

namespace Agrees

variable {h : List (Happening J)} {stage : Stage J} {a : Agenda J} {task : QueuedJob J}
  {rest : List (QueuedJob J)}

theorem asBooked (hagrees : Agrees last h stage) (htask : task ∈ stage.tasks) :
    AsBooked (account task.id h) task := by
  obtain hqueued | htask := List.mem_append.1 htask
  · exact (hagrees.queued task hqueued).booked
  · obtain hwaiting | hbusy := List.mem_append.1 htask
    · exact (hagrees.waiting task hwaiting).booked
    · obtain ⟨_, _, hheld⟩ := hagrees.busy task (Option.mem_toList.1 hbusy)
      exact hheld.booked

/-- Every task on the agenda was booked. -/
theorem ids_subset (hagrees : Agrees last h stage) : stage.ids ⊆ bookedIds h := by
  intro id hid
  obtain ⟨task, htask, rfl⟩ := List.mem_map.1 hid
  obtain ⟨b, hb, -⟩ := hagrees.asBooked htask
  exact isSome_booking_account.1 (Option.isSome_iff_exists.2 ⟨b, hb⟩)

/-- A task in hand is not in the queue. -/
theorem not_mem_queue (hagrees : Agrees last h stage)
    (htask : task ∈ stage.waiting ++ stage.busy.toList) :
    task.id ∉ stage.agenda.tasks.map (·.id) := by
  have hnodup := hagrees.nodup
  rw [Stage.ids, Stage.tasks, List.map_append, List.nodup_append] at hnodup
  exact fun hqueued => hnodup.2.2 _ hqueued _ (List.mem_map_of_mem htask) rfl

end Agrees

/-! ### Steps that concern one task -/

/-- Two stages differ in one task only. -/
structure SameBut (id : UInt64) (stage stage' : Stage J) : Prop where
  now : stage'.agenda.now = stage.agenda.now
  inHand : stage'.agenda.inHand = stage.agenda.inHand
  marks : ∀ i, i ≠ id → (i ∈ stage'.agenda.cancelled ↔ i ∈ stage.agenda.cancelled)
  queued : ∀ task ∈ stage'.agenda.tasks, task.id ≠ id → task ∈ stage.agenda.tasks
  waiting : ∀ task ∈ stage'.waiting, task.id ≠ id → task ∈ stage.waiting
  busy : ∀ task ∈ stage'.busy, task.id ≠ id → task ∈ stage.busy
  ids : ∀ i ∈ stage.ids, i ≠ id → i ∈ stage'.ids

variable {h h' : List (Happening J)} {stage stage' : Stage J} {a a' : Agenda J} {task : QueuedJob J}
  {rest : List (QueuedJob J)} {acc : Account J} {tick : Nat}

theorem Held.of_iff (hheld : Held a acc task tick) (hinHand : a'.inHand = a.inHand)
    (hmarks : task.id ∈ a'.cancelled ↔ task.id ∈ a.cancelled) : Held a' acc task tick where
  booked := hheld.booked
  inHand := hinHand ▸ hheld.inHand
  next := hheld.next
  marked := by simpa only [hmarks] using hheld.marked

/-- Where stages differ in one task only, and nothing has happened to another one, there is nothing
to show but for this task. -/
theorem Agrees.of_sameBut (hagrees : Agrees last h stage) (id : UInt64)
    (hsame : SameBut id stage stage') (hticks : ticksIn h' = ticksIn h)
    (hother : ∀ i, i ≠ id → account i h' = account i h)
    (hquiet : stage'.ticking = false → stage'.agenda.inHand = [] ∧ stage'.agenda.cancelled = [] ∧
      stage'.waiting = [] ∧ stage'.busy = none)
    (hnodup : stage'.ids.Nodup) (hlawful : (account id h').Lawful)
    (hqueued : ∀ task ∈ stage'.agenda.tasks, task.id = id → Queued last (account id h') task)
    (hwaiting : ∀ task ∈ stage'.waiting, task.id = id →
      Held stage'.agenda (account id h') task (ticksIn h))
    (hbusy : ∀ task ∈ stage'.busy, task.id = id → ∃ period, task.period = some period ∧
      Held stage'.agenda (account id h') task (ticksIn h + period.toNat))
    (hover : id ∉ stage'.ids → (account id h').Over) : Agrees last h' stage' where
  now := (congrArg UInt64.toNat hsame.now).trans (hagrees.now.trans hticks.symm)
  quiet := hquiet
  nodup := hnodup
  lawful i := by
    by_cases hi : i = id
    · exact hi ▸ hlawful
    · exact hother i hi ▸ hagrees.lawful i
  queued task htask := by
    by_cases hi : task.id = id
    · exact hi ▸ hqueued task htask hi
    · exact hother _ hi ▸ hagrees.queued task (hsame.queued task htask hi)
  waiting task htask := by
    rw [hticks]
    by_cases hi : task.id = id
    · exact hi ▸ hwaiting task htask hi
    · rw [hother _ hi]
      exact (hagrees.waiting task (hsame.waiting task htask hi)).of_iff hsame.inHand
        (hsame.marks _ hi)
  busy task htask := by
    rw [hticks]
    by_cases hi : task.id = id
    · exact hi ▸ hbusy task htask hi
    · obtain ⟨period, hperiod, hheld⟩ := hagrees.busy task (hsame.busy task htask hi)
      rw [hother _ hi]
      exact ⟨period, hperiod, hheld.of_iff hsame.inHand (hsame.marks _ hi)⟩
  gone i hi := by
    by_cases hid : i = id
    · exact hid ▸ hover (hid ▸ hi)
    · rw [hother i hid]
      exact hagrees.gone i fun hmem => hi (hsame.ids i hmem hid)

/-! ### Calls -/

/-- A task is booked under a number that is new. -/
theorem Agrees.push (hagrees : Agrees last h stage) (delay : UInt64) (period : Option UInt64)
    (job : J) (hnew : stage.agenda.nextId ∉ bookedIds h)
    (hfits : Bookable last (ticksIn h + (max delay 1).toNat)) :
    Agrees last (h ++ [.booked stage.agenda.nextId delay period job])
      { stage with agenda := (stage.agenda.push (max delay 1) (period.map (max · 1)) job).2 } := by
  have hid : stage.agenda.nextId ∉ stage.ids := fun hmem => hnew (hagrees.ids_subset hmem)
  have hself : account stage.agenda.nextId (h ++ [.booked stage.agenda.nextId delay period job]) =
      ⟨ticksIn h, some ⟨ticksIn h, delay, period, job⟩, none, [], []⟩ := by
    rw [account_concat, ← now_account stage.agenda.nextId h]
    exact if_pos rfl
  have hne {task : QueuedJob J} (htask : task ∈ stage.tasks) :
      task.id ≠ stage.agenda.nextId := fun heq => hid (heq ▸ List.mem_map_of_mem htask)
  have hids : (Stage.ids { stage with
      agenda := (stage.agenda.push (max delay 1) (period.map (max · 1)) job).2 }).Perm
      (stage.agenda.nextId :: stage.ids) := by
    simp only [Stage.ids, Stage.tasks, Agenda.push, List.map_append, List.map_cons,
      List.append_assoc, List.singleton_append]
    exact List.perm_middle
  refine hagrees.of_sameBut stage.agenda.nextId ⟨rfl, rfl, fun _ _ => Iff.rfl, ?_,
    fun _ htask _ => htask, fun _ htask _ => htask, fun i hi _ => ?_⟩ (ticksIn_concat h nofun)
    (fun i hi => account_concat_of_ne h (fun heq => hi (Option.some.inj heq).symm) nofun)
    hagrees.quiet ?_ ?_ ?_ ?_ ?_ ?_
  · intro task htask hi
    obtain htask | htask := List.mem_append.1 htask
    · exact htask
    · exact absurd (congrArg QueuedJob.id (List.mem_singleton.1 htask)) hi
  · exact hids.mem_iff.2 (List.mem_cons_of_mem _ hi)
  · exact hids.nodup_iff.2 (List.nodup_cons.2 ⟨hid, hagrees.nodup⟩)
  · exact hself ▸ Account.lawful_booked ..
  · intro task htask hi
    obtain htask | htask := List.mem_append.1 htask
    · exact absurd hi (hne (List.mem_append_left _ htask))
    · obtain rfl := List.mem_singleton.1 htask
      rw [hself]
      refine ⟨⟨_, rfl, rfl, rfl⟩, rfl, _, Account.next?_booked ..,
        Booking.lt_first ⟨ticksIn h, delay, period, job⟩, ?_⟩
      have hshows : Shows last (saturatingAdd stage.agenda.now (max delay 1))
          (stage.agenda.now.toNat + (max delay 1).toNat) :=
        shows_saturatingAdd (hagrees.now ▸ hfits)
      rwa [hagrees.now] at hshows
  · exact fun task htask hi =>
      absurd hi (hne (List.mem_append_right _ (List.mem_append_left _ htask)))
  · exact fun task htask hi => absurd hi (hne (List.mem_append_right _
      (List.mem_append_right _ (Option.mem_toList.2 htask))))
  · exact fun hmem => absurd (hids.mem_iff.2 List.mem_cons_self) hmem

theorem tasks_cancel (a : Agenda J) (id : UInt64) :
    (a.cancel id).tasks = a.tasks.filter (·.id != id) := by
  simp only [cancel]
  split <;> rfl

theorem inHand_cancel (a : Agenda J) (id : UInt64) : (a.cancel id).inHand = a.inHand := by
  simp only [cancel]
  split <;> rfl

/-- A task that was in hand is marked when it is cancelled. -/
theorem mem_cancelled_cancel {a : Agenda J} {id i : UInt64} :
    i ∈ (a.cancel id).cancelled ↔
      i ∈ a.cancelled ∨ i = id ∧ id ∈ a.inHand ∧ id ∉ a.tasks.map (·.id) := by
  have hlength : (a.tasks.filter (·.id != id)).length = a.tasks.length ↔
      id ∉ a.tasks.map (·.id) := by
    simp [List.length_filter_eq_length_iff]
  simp only [cancel, Bool.and_eq_true, beq_iff_eq, hlength, List.contains_iff_mem]
  split
  · next hmarked => simp [hmarked, or_comm]
  · next hunmarked => exact (or_iff_left fun h => hunmarked ⟨h.2.2, h.2.1⟩).symm

theorem Held.cancel (hheld : Held a acc task tick) (hqueued : task.id ∉ a.tasks.map (·.id)) :
    Held (a.cancel task.id) { acc with cancelled := acc.cancelled.or (some acc.now) } task
      tick where
  booked := hheld.booked
  inHand := inHand_cancel a task.id ▸ hheld.inHand
  next := hheld.next
  marked := by
    have hmarked : task.id ∈ (a.cancel task.id).cancelled :=
      mem_cancelled_cancel.2 (.inr ⟨rfl, hheld.inHand, hqueued⟩)
    rw [if_pos hmarked, hheld.marked]
    split <;> rfl

/-- Only the task that is cancelled is taken out of the queue, or marked. -/
theorem sameBut_cancel (stage : Stage J) (id : UInt64) :
    SameBut id stage { stage with agenda := stage.agenda.cancel id } where
  now := now_perform (.cancel id) stage.agenda
  inHand := inHand_cancel stage.agenda id
  marks i hi := mem_cancelled_cancel.trans (or_iff_left fun h => hi h.1)
  queued task htask _ := by
    rw [tasks_cancel] at htask
    exact List.mem_of_mem_filter htask
  waiting _ htask _ := htask
  busy _ htask _ := htask
  ids i hi hne := by
    obtain ⟨task, htask, rfl⟩ := List.mem_map.1 hi
    refine List.mem_map_of_mem ?_
    obtain htask | htask := List.mem_append.1 htask
    · refine List.mem_append_left _ ?_
      rw [tasks_cancel]
      exact List.mem_filter.2 ⟨htask, bne_iff_ne.2 hne⟩
    · exact List.mem_append_right _ htask

theorem account_cancelled {id : UInt64} (hbooked : (account id h).booking.isSome) :
    account id (h ++ [.cancelled id]) =
      { account id h with cancelled := (account id h).cancelled.or (some (account id h).now) } := by
  rw [account_concat]
  exact if_pos ⟨rfl, hbooked⟩

theorem account_cancelled_of_unbooked {id : UInt64} (hnone : ¬(account id h).booking.isSome) :
    account id (h ++ [.cancelled id]) = account id h := by
  rw [account_concat]
  exact if_neg fun h => hnone h.2

theorem Agrees.lawful_cancelled (hagrees : Agrees last h stage) (id : UInt64) :
    (account id (h ++ [.cancelled id])).Lawful := by
  by_cases hbooked : (account id h).booking.isSome
  · exact account_cancelled hbooked ▸ (hagrees.lawful id).cancelled hbooked
  · exact account_cancelled_of_unbooked hbooked ▸ hagrees.lawful id

/-- What is over stays over when it is cancelled. -/
theorem over_cancelled_of_over {id : UInt64} (hover : (account id h).Over) :
    (account id (h ++ [.cancelled id])).Over := by
  by_cases hbooked : (account id h).booking.isSome
  · rw [account_cancelled hbooked]
    intro d hd
    obtain ⟨m, hm, hlt⟩ := hover d hd
    exact ⟨m, by rw [hm]; rfl, hlt⟩
  · rwa [account_cancelled_of_unbooked hbooked]

/-- A task in the queue is due later, so it is over when it is cancelled. -/
theorem Queued.over_cancelled (hqueued : Queued last (account task.id h) task) :
    (account task.id (h ++ [.cancelled task.id])).Over := by
  obtain ⟨⟨b, hb, -⟩, hstands, tick, hnext, hlater, -⟩ := hqueued
  rw [account_cancelled (Option.isSome_iff_exists.2 ⟨b, hb⟩)]
  intro d hd
  obtain rfl := Option.some.inj (hnext.symm.trans hd)
  exact ⟨_, by rw [hstands]; rfl, hlater⟩

/-- A task is cancelled, wherever it is. -/
theorem Agrees.cancel (hagrees : Agrees last h stage) (id : UInt64) :
    Agrees last (h ++ [.cancelled id]) { stage with agenda := stage.agenda.cancel id } := by
  have hbooked {task : QueuedJob J} (htask : task ∈ stage.tasks) :
      (account task.id h).booking.isSome :=
    isSome_booking_account.2 (hagrees.ids_subset (List.mem_map_of_mem htask))
  refine hagrees.of_sameBut id (sameBut_cancel stage id) (ticksIn_concat h nofun)
    (fun i hi => account_concat_of_ne h (fun heq => hi (Option.some.inj heq).symm) nofun)
    (fun hrest => ?_) ?_ (hagrees.lawful_cancelled id) (fun task htask hi => ?_)
    (fun task htask hi => ?_) (fun task htask hi => ?_) (fun hgone => ?_)
  · obtain ⟨hinHand, hcancelled, hwaiting, hbusy⟩ := hagrees.quiet hrest
    refine ⟨(inHand_cancel _ id).trans hinHand, List.eq_nil_iff_forall_not_mem.2 fun i hi => ?_,
      hwaiting, hbusy⟩
    simp [mem_cancelled_cancel, hinHand, hcancelled] at hi
  · refine List.Sublist.nodup (List.Sublist.map _ (List.Sublist.append_right ?_ _)) hagrees.nodup
    rw [tasks_cancel]
    exact List.filter_sublist
  · rw [tasks_cancel] at htask
    exact absurd hi (bne_iff_ne.1 (List.mem_filter.1 htask).2)
  · subst hi
    have hheld := List.mem_append_left stage.busy.toList htask
    rw [account_cancelled (hbooked (List.mem_append_right _ hheld))]
    exact (hagrees.waiting task htask).cancel (hagrees.not_mem_queue hheld)
  · subst hi
    have hheld := List.mem_append_right stage.waiting (Option.mem_toList.2 htask)
    rw [account_cancelled (hbooked (List.mem_append_right _ hheld))]
    obtain ⟨period, hperiod, hbusy⟩ := hagrees.busy task htask
    exact ⟨period, hperiod, hbusy.cancel (hagrees.not_mem_queue hheld)⟩
  · by_cases hqueued : id ∈ stage.agenda.tasks.map (·.id)
    · obtain ⟨task, htask, rfl⟩ := List.mem_map.1 hqueued
      exact (hagrees.queued task htask).over_cancelled
    · refine over_cancelled_of_over (hagrees.gone id ?_)
      simp only [Stage.ids, Stage.tasks, List.map_append, List.mem_append, not_or] at hgone ⊢
      exact ⟨hqueued, hgone.2⟩

/-! ### Ticks -/

/-- The tasks that are due are taken out of the queue; they are those that are due in this tick. -/
theorem Agrees.beginTick (hagrees : Agrees last h ⟨a, false, [], none⟩)
    (hlast : ticksIn h + 1 ≤ last) (hsize : ticksIn h + 1 < UInt64.size) :
    Agrees last (h ++ [.begun]) ⟨a.beginTick.2, true, a.beginTick.1, none⟩ := by
  have hacc (id : UInt64) :
      account id (h ++ [.begun]) = { account id h with now := (account id h).now + 1 } :=
    account_concat id h .begun
  have hnow : (a.now + 1).toNat = ticksIn h + 1 := by
    rw [UInt64.toNat_add, hagrees.now]
    exact Nat.mod_eq_of_lt hsize
  have hsplit : a.beginTick.1 = a.tasks.filter (·.due ≤ a.now + 1) ∧
      a.beginTick.2.tasks = a.tasks.filter fun task => !decide (task.due ≤ a.now + 1) := by
    simp [Agenda.beginTick, List.partition_eq_filter_filter, Function.comp_def]
  have hdue {task : QueuedJob J} {tick : Nat} (hshows : Shows last task.due tick) :
      task.due ≤ a.now + 1 ↔ tick ≤ ticksIn h + 1 := by
    rw [UInt64.le_iff_toNat_le, hnow]
    exact hshows _ hlast
  have hids : (Stage.ids ⟨a.beginTick.2, true, a.beginTick.1, none⟩).Perm
      (Stage.ids ⟨a, false, [], none⟩) := by
    simp only [Stage.ids, Stage.tasks, hsplit, Option.toList_none, List.append_nil]
    exact (List.perm_append_comm.trans (List.filter_append_perm ..)).map _
  refine ⟨hnow.trans (ticksIn_append h [.begun]).symm, nofun, hids.nodup_iff.2 hagrees.nodup,
    fun id => ?_, fun task htask => ?_, fun task htask => ?_, nofun, fun id hid => ?_⟩
  · exact hacc id ▸ (hagrees.lawful id).begun
  · rw [hsplit.2] at htask
    obtain ⟨htask, hlater⟩ := List.mem_filter.1 htask
    obtain ⟨hbooked, hstands, tick, hnext, hlt, hshows⟩ := hagrees.queued task htask
    rw [hacc]
    refine ⟨hbooked, hstands, tick, hnext, ?_, hshows⟩
    change (account task.id h).now + 1 < tick
    rw [now_account]
    exact Nat.lt_of_not_le fun hle => by simp [(hdue hshows).2 hle] at hlater
  · change task ∈ a.beginTick.1 at htask
    rw [hsplit.1] at htask
    obtain ⟨htask, hle⟩ := List.mem_filter.1 htask
    obtain ⟨hbooked, hstands, tick, hnext, hlt, hshows⟩ := hagrees.queued task htask
    rw [now_account] at hlt
    have htick : tick = ticksIn (h ++ [.begun]) := by
      have hle := (hdue hshows).1 (of_decide_eq_true hle)
      rw [ticksIn_append, ticksIn_begun]
      omega
    have hmarks : a.beginTick.2.cancelled = [] := (hagrees.quiet rfl).2.1
    rw [hacc]
    refine ⟨hbooked, List.mem_append_right _ ?_, htick ▸ hnext, ?_⟩
    · exact List.mem_map_of_mem (hsplit.1 ▸ List.mem_filter.2 ⟨htask, hle⟩)
    · simpa [hmarks] using hstands
  · exact hacc id ▸ hagrees.gone id fun hmem => hid (hids.mem_iff.2 hmem)

/-- What the booking says about the period of a task that repeats. -/
theorem AsBooked.stride {b : Booking J} {period : UInt64} (hbooked : AsBooked acc task)
    (hb : acc.booking = some b) (hperiod : task.period = some period) :
    b.period.isSome ∧ b.stride = period.toNat := by
  obtain ⟨b', hb', hmap, -⟩ := hbooked
  obtain rfl : b = b' := Option.some.inj (hb.symm.trans hb')
  obtain ⟨p, hp, rfl⟩ := Option.map_eq_some_iff.1 (hmap.symm.trans hperiod)
  exact ⟨by simp [hp], Booking.stride_of_period hp⟩

theorem AsBooked.period_pos {period : UInt64} (hbooked : AsBooked acc task)
    (hperiod : task.period = some period) : 0 < period.toNat := by
  obtain ⟨b, -, hmap, -⟩ := hbooked
  obtain ⟨p, -, rfl⟩ := Option.map_eq_some_iff.1 (hmap.symm.trans hperiod)
  rw [toNat_max_one]
  omega

theorem AsBooked.isSome_iff {b : Booking J} (hbooked : AsBooked acc task)
    (hb : acc.booking = some b) : task.period.isSome ↔ b.period.isSome := by
  obtain ⟨b', hb', hmap, -⟩ := hbooked
  obtain rfl : b = b' := Option.some.inj (hb.symm.trans hb')
  simp [hmap]

/-- The task whose turn it is is nowhere else. -/
theorem Agrees.turn_nowhere_else (hagrees : Agrees last h ⟨a, true, task :: rest, none⟩) :
    task.id ∉ a.tasks.map (·.id) ∧ task.id ∉ rest.map (·.id) := by
  refine ⟨hagrees.not_mem_queue (List.mem_append_left _ List.mem_cons_self), ?_⟩
  have hnodup := hagrees.nodup
  simp only [Stage.ids, Stage.tasks, Option.toList_none, List.append_nil, List.map_append,
    List.map_cons] at hnodup
  exact (List.nodup_cons.1 (List.nodup_append.1 hnodup).2.1).1

/-- It is the turn of a task: it leaves those that wait, and it may have to be queued again. -/
theorem Agrees.of_turn {again : Option (QueuedJob J)} {e : Happening J}
    (hagrees : Agrees last h ⟨a, true, task :: rest, none⟩)
    (he : e.id? = some task.id) (hbegun : e ≠ .begun)
    (hnow : a'.now = a.now) (htasks : a'.tasks = a.tasks) (hinHand : a'.inHand = a.inHand)
    (hmarks : ∀ i, i ≠ task.id → (i ∈ a'.cancelled ↔ i ∈ a.cancelled))
    (hlawful : (account task.id (h ++ [e])).Lawful)
    (hagain : ∀ task' ∈ again, task' = task ∧ ∃ period, task.period = some period ∧
      Held a' (account task.id (h ++ [e])) task (ticksIn h + period.toNat))
    (hover : again = none → (account task.id (h ++ [e])).Over) :
    Agrees last (h ++ [e]) ⟨a', true, rest, again⟩ := by
  obtain ⟨hqueue, hrest⟩ := hagrees.turn_nowhere_else
  have hids : Stage.ids ⟨a, true, task :: rest, none⟩ =
      a.tasks.map (·.id) ++ task.id :: rest.map (·.id) := by
    simp [Stage.ids, Stage.tasks]
  have hids' : Stage.ids ⟨a', true, rest, again⟩ =
      a.tasks.map (·.id) ++ (rest.map (·.id) ++ again.toList.map (·.id)) := by
    simp [Stage.ids, Stage.tasks, htasks]
  refine hagrees.of_sameBut task.id ⟨hnow, hinHand, hmarks,
    fun _ htask _ => htasks ▸ htask, fun _ htask _ => List.mem_cons_of_mem _ htask,
    fun task' htask hne => ?_, fun i hi hne => ?_⟩ (ticksIn_concat h hbegun)
    (fun i hi => account_concat_of_ne h (fun heq => hi (Option.some.inj (heq.symm.trans he)))
      hbegun) nofun ?_ hlawful (fun task' htask hi => ?_) (fun task' htask hi => ?_)
    (fun task' htask hi => ?_) (fun hgone => hover ?_)
  · exact absurd (congrArg QueuedJob.id (hagain task' htask).1) hne
  · rw [hids] at hi
    rw [hids']
    obtain hi | hi := List.mem_append.1 hi
    · exact List.mem_append_left _ hi
    · obtain hi | hi := List.mem_cons.1 hi
      · exact absurd hi hne
      · exact List.mem_append_right _ (List.mem_append_left _ hi)
  · have hnodup := hagrees.nodup
    rw [hids, List.perm_middle.nodup_iff, List.nodup_cons] at hnodup
    rw [hids', ← List.append_assoc]
    cases again with
    | none => simpa using hnodup.2
    | some task' =>
      rw [(hagain task' rfl).1]
      exact List.perm_append_singleton .. |>.nodup_iff.2 (List.nodup_cons.2 hnodup)
  · exact absurd (hi ▸ List.mem_map_of_mem (htasks ▸ htask)) hqueue
  · exact absurd (hi ▸ List.mem_map_of_mem htask) hrest
  · obtain ⟨rfl, hheld⟩ := hagain task' htask
    exact hheld
  · refine Option.eq_none_iff_forall_not_mem.2 fun task' htask => hgone ?_
    have hsome : again = some task := (hagain task' htask).1 ▸ htask
    rw [hids', hsome]
    simp

/-- When it is the turn of a task, it is due in this tick. -/
theorem Agrees.turn_due (hagrees : Agrees last h ⟨a, true, task :: rest, none⟩) :
    Held a (account task.id h) task (account task.id h).now := by
  rw [now_account]
  exact hagrees.waiting task List.mem_cons_self

/-- A task that has not been cancelled starts. -/
theorem Agrees.start (hagrees : Agrees last h ⟨a, true, task :: rest, none⟩)
    (hstands : task.id ∉ a.cancelled) :
    Agrees last (h ++ [.started task.id task.job]) ⟨a, true, rest, task.again?⟩ := by
  obtain ⟨hbooked, hinHand, hnext, hmarked⟩ := hagrees.turn_due
  obtain ⟨b, hb⟩ := Account.exists_booking_of_next? hnext
  have hcancelled : (account task.id h).cancelled = none := hmarked.trans (if_neg hstands)
  have hself : account task.id (h ++ [.started task.id task.job]) =
      { account task.id h with
        starts := (account task.id h).starts ++ [(account task.id h).now] } := by
    rw [account_concat]
    exact if_pos rfl
  obtain ⟨hlawful, hnext'⟩ := (hagrees.lawful task.id).started hb hnext hcancelled
  rw [← hself] at hlawful hnext'
  refine hagrees.of_turn rfl nofun rfl rfl rfl (fun _ _ => Iff.rfl) hlawful
    (fun task' htask => ?_) (fun hnone => ?_)
  · obtain ⟨hrepeats, heq⟩ := Option.ite_none_right_eq_some.1 htask
    obtain rfl := Option.some.inj heq
    obtain ⟨period, hperiod⟩ := Option.isSome_iff_exists.1 hrepeats
    obtain ⟨hsome, hstride⟩ := hbooked.stride hb hperiod
    refine ⟨rfl, period, hperiod, ?_⟩
    rw [hstride, now_account] at hnext'
    refine ⟨hself ▸ hbooked, hinHand, ?_, hself ▸ hmarked⟩
    obtain ⟨p, hp⟩ := Option.isSome_iff_exists.1 hsome
    simpa [hp] using hnext'
  · have hperiod : ¬task.period.isSome := by simpa [QueuedJob.again?] using hnone
    rw [hbooked.isSome_iff hb, Option.not_isSome_iff_eq_none] at hperiod
    intro d hd
    rw [hnext', hperiod] at hd
    cases hd

/-- A task that has been cancelled is passed over. -/
theorem Agrees.pass (hagrees : Agrees last h ⟨a, true, task :: rest, none⟩)
    (hmarks : task.id ∈ a.cancelled) :
    Agrees last (h ++ [.passed task.id]) ⟨a.forget task.id, true, rest, none⟩ := by
  obtain ⟨hbooked, hinHand, hnext, hmarked⟩ := hagrees.turn_due
  obtain ⟨b, hb⟩ := Account.exists_booking_of_next? hnext
  have hcancelled : (account task.id h).cancelled = some (account task.id h).now :=
    hmarked.trans (if_pos hmarks)
  have hself : account task.id (h ++ [.passed task.id]) =
      { account task.id h with
        passes := (account task.id h).passes ++ [(account task.id h).now] } := by
    rw [account_concat]
    exact if_pos rfl
  obtain ⟨hlawful, hnext'⟩ := (hagrees.lawful task.id).passed hb hnext hcancelled
  rw [← hself] at hlawful hnext'
  refine hagrees.of_turn rfl nofun rfl rfl rfl (fun i hi => ?_) hlawful nofun fun _ d hd => ?_
  · simp [forget, hi]
  · obtain ⟨p, hp, rfl⟩ := Option.map_eq_some_iff.1 (hnext'.symm.trans hd)
    have hpos : 0 < b.stride := Booking.stride_pos (by simp [hp])
    exact ⟨(account task.id h).now, by rw [hself]; exact hcancelled, Nat.lt_add_of_pos_right hpos⟩

/-- The task that has started and is to be queued again is nowhere else. -/
theorem Agrees.busy_nowhere_else (hagrees : Agrees last h ⟨a, true, rest, some task⟩) :
    task.id ∉ a.tasks.map (·.id) ∧ task.id ∉ rest.map (·.id) := by
  refine ⟨hagrees.not_mem_queue (List.mem_append_right _ (Option.mem_toList.2 rfl)), fun hmem => ?_⟩
  have hnodup := hagrees.nodup
  simp only [Stage.ids, Stage.tasks, Option.toList_some, List.map_append] at hnodup
  exact (List.nodup_append.1 (List.nodup_append.1 hnodup).2.1).2.2 _ hmem _ (by simp) rfl

theorem requeue_of_not_mem {period : UInt64} (hperiod : task.period = some period)
    (hstands : task.id ∉ a.cancelled) : a.requeue a.now task =
      { a with tasks := a.tasks ++ [{ task with due := a.now + period }] } := by
  simp [Agenda.requeue, hperiod, hstands]

theorem requeue_of_mem {period : UInt64} (hperiod : task.period = some period)
    (hmarks : task.id ∈ a.cancelled) : a.requeue a.now task = a.forget task.id := by
  simp [Agenda.requeue, hperiod, hmarks]

theorem Agrees.requeue {period : UInt64} (hagrees : Agrees last h ⟨a, true, rest, some task⟩)
    (hperiod : task.period = some period) (hstands : task.id ∉ a.cancelled)
    (hsize : ticksIn h + period.toNat < UInt64.size) :
    Agrees last (h ++ [.requeued task.id period]) ⟨a.requeue a.now task, true, rest, none⟩ := by
  obtain ⟨hqueue, hrest⟩ := hagrees.busy_nowhere_else
  obtain ⟨period', hperiod', hbooked, hinHand, hnext, hmarked⟩ := hagrees.busy task rfl
  obtain rfl : period = period' := Option.some.inj (hperiod.symm.trans hperiod')
  have hacc (id : UInt64) : account id (h ++ [.requeued task.id period]) = account id h :=
    account_concat id h (.requeued task.id period)
  rw [requeue_of_not_mem hperiod hstands]
  have hids : (Stage.ids ⟨{ a with tasks := a.tasks ++ [{ task with due := a.now + period }] },
      true, rest, none⟩).Perm (Stage.ids ⟨a, true, rest, some task⟩) := by
    simp only [Stage.ids, Stage.tasks, Option.toList_none, Option.toList_some, List.append_nil,
      List.map_append, List.map_cons, List.map_nil, List.append_assoc]
    exact List.perm_append_comm.append_left _
  refine hagrees.of_sameBut task.id ⟨rfl, rfl, fun _ _ => Iff.rfl,
    fun task' htask hne => ?_, fun _ htask _ => htask, nofun, fun i hi _ => hids.mem_iff.2 hi⟩
    (ticksIn_concat h nofun) (fun i _ => hacc i) nofun (hids.nodup_iff.2 hagrees.nodup)
    (hacc _ ▸ hagrees.lawful _) (fun task' htask hi => ?_) (fun task' htask hi => ?_) nofun
    (fun hgone => ?_)
  · obtain htask | htask := List.mem_append.1 htask
    · exact htask
    · exact absurd (congrArg QueuedJob.id (List.mem_singleton.1 htask)) hne
  · obtain htask | htask := List.mem_append.1 htask
    · exact absurd (hi ▸ List.mem_map_of_mem htask) hqueue
    · obtain rfl := List.mem_singleton.1 htask
      rw [hacc]
      refine ⟨hbooked, hmarked.trans (if_neg hstands), _, hnext, ?_, ?_⟩
      · rw [now_account]
        exact Nat.lt_add_of_pos_right (hbooked.period_pos hperiod)
      · have hshows : Shows last (a.now + period) (a.now.toNat + period.toNat) :=
          shows_add (hagrees.now ▸ hsize)
        rwa [hagrees.now] at hshows
  · exact absurd (hi ▸ List.mem_map_of_mem htask) hrest
  · exact absurd (hids.mem_iff.2 (by simp [Stage.ids, Stage.tasks])) hgone

theorem Agrees.release (hagrees : Agrees last h ⟨a, true, rest, some task⟩)
    (hmarks : task.id ∈ a.cancelled) : Agrees last h ⟨a.requeue a.now task, true, rest, none⟩ := by
  obtain ⟨hqueue, hrest⟩ := hagrees.busy_nowhere_else
  obtain ⟨period, hperiod, hbooked, hinHand, hnext, hmarked⟩ := hagrees.busy task rfl
  rw [requeue_of_mem hperiod hmarks]
  refine hagrees.of_sameBut task.id ⟨rfl, rfl, fun i hi => by simp [forget, hi],
    fun _ htask _ => htask, fun _ htask _ => htask, nofun, fun i hi hne => ?_⟩ rfl
    (fun _ _ => rfl) nofun ?_ (hagrees.lawful _)
    (fun task' htask hi => absurd (hi ▸ List.mem_map_of_mem htask) hqueue)
    (fun task' htask hi => absurd (hi ▸ List.mem_map_of_mem htask) hrest) nofun fun _ d hd => ?_
  · simp only [Stage.ids, Stage.tasks, forget, Option.toList_none, Option.toList_some,
      List.append_nil, List.map_append, List.mem_append, List.map_cons, List.map_nil,
      List.mem_singleton] at hi ⊢
    exact hi.imp_right fun h => h.resolve_right hne
  · refine List.Sublist.nodup (List.Sublist.map _ (List.Sublist.append_left ?_ _)) hagrees.nodup
    exact List.Sublist.append_left (List.nil_sublist _) _
  · obtain rfl := Option.some.inj (hnext.symm.trans hd)
    refine ⟨_, hmarked.trans (if_pos hmarks), ?_⟩
    rw [now_account]
    exact Nat.lt_add_of_pos_right (hbooked.period_pos hperiod)

theorem Agrees.endTick (hagrees : Agrees last h ⟨a, true, [], none⟩) :
    Agrees last h ⟨a.endTick, false, [], none⟩ where
  now := hagrees.now
  quiet _ := ⟨rfl, rfl, rfl, rfl⟩
  nodup := hagrees.nodup
  lawful := hagrees.lawful
  queued := hagrees.queued
  waiting := nofun
  busy := nofun
  gone := hagrees.gone

/-- **At every stage that can be reached the agenda agrees with its history,** as long as the tasks
can be told apart and no tick has too large a number. -/
theorem agrees_of_reaches (hreach : Reaches h stage) (hnumbers : WellNumbered last h) :
    Agrees last h stage := by
  induction hreach with
  | empty =>
    exact ⟨rfl, fun _ => ⟨rfl, rfl, rfl, rfl⟩, List.nodup_nil, fun _ => Account.lawful_empty,
      nofun, nofun, nofun, fun _ _ => nofun⟩
  | call c before ih =>
    have hagrees := ih hnumbers.init
    cases c with
    | once delay job =>
      exact hagrees.push delay none job (hnumbers.not_mem_bookedIds rfl) hnumbers.inRange_last.1
    | every delay period job =>
      exact hagrees.push delay (some period) job (hnumbers.not_mem_bookedIds rfl)
        hnumbers.inRange_last.1
    | cancel id => exact hagrees.cancel id
  | handedOver jobs before ih =>
    obtain ⟨hnow, hquiet, hnodup, hlawful, hqueued, hwaiting, hbusy, hover⟩ := ih hnumbers
    refine ⟨hnow, hquiet, hnodup, hlawful, hqueued, fun task htask => ?_, fun task htask => ?_,
      hover⟩
    · exact (hwaiting task htask).of_iff rfl Iff.rfl
    · obtain ⟨period, hperiod, hheld⟩ := hbusy task htask
      exact ⟨period, hperiod, hheld.of_iff rfl Iff.rfl⟩
  | beginTick before ih =>
    obtain ⟨hlast, hsize, -⟩ := hnumbers.inRange_last
    exact (ih hnumbers.init).beginTick hlast hsize
  | start before hstands ih => exact (ih hnumbers.init).start hstands
  | pass before hmarks ih => exact (ih hnumbers.init).pass hmarks
  | requeue before hperiod hstands ih =>
    exact (ih hnumbers.init).requeue hperiod hstands hnumbers.inRange_last.1
  | release before hmarks ih => exact (ih hnumbers).release hmarks
  | endTick before ih => exact (ih hnumbers).endTick

end TriggerScript.Agenda

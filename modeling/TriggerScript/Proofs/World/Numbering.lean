import TriggerScript.Proofs.Agenda.Punctual
import TriggerScript.Proofs.World.InUse
import TriggerScript.Proofs.World.Walks

/-!
# The numbers of timers

Tasks are numbered as they are booked, so the tasks of different timers have different numbers as
long as there are enough.

* `Agenda.NumberedBelow` : numbers of different tasks among the first ones.
* `World.Numbered` : how many tasks have been booked, and that timers have numbers of different ones.
* `World.counts_numbered`, `World.Numbered.activateAll` : what walks book is counted.
* `World.Numbered.nodup` : the timers can be told apart.
-/

namespace TriggerScript

namespace Agenda

/-- These are the numbers of different tasks among the first `n`. -/
def NumberedBelow (n : Nat) (numbers : List UInt64) : Prop :=
  ∃ ks : List Nat, ks.Nodup ∧ (∀ k ∈ ks, k < n) ∧ numbers = ks.map numberAt

namespace NumberedBelow

variable {n m : Nat} {numbers fewer : List UInt64}

theorem nil (n : Nat) : NumberedBelow n [] := ⟨[], List.nodup_nil, List.forall_mem_nil _, rfl⟩

theorem mono (h : NumberedBelow n numbers) (hle : n ≤ m) : NumberedBelow m numbers := by
  obtain ⟨ks, hks, hlt, heq⟩ := h
  exact ⟨ks, hks, fun k hk => Nat.lt_of_lt_of_le (hlt k hk) hle, heq⟩

theorem sublist (h : NumberedBelow n numbers) (hsub : fewer.Sublist numbers) :
    NumberedBelow n fewer := by
  obtain ⟨ks, hks, hlt, rfl⟩ := h
  obtain ⟨ks', hks', heq⟩ := List.sublist_map_iff.1 hsub
  exact ⟨ks', hks'.nodup hks, fun k hk => hlt k (hks'.mem hk), heq⟩

/-- The next task has a number of its own. -/
theorem cons (h : NumberedBelow n numbers) : NumberedBelow (n + 1) (numberAt n :: numbers) := by
  obtain ⟨ks, hks, hlt, rfl⟩ := h
  refine ⟨n :: ks, List.nodup_cons.2 ⟨fun hn => Nat.lt_irrefl n (hlt n hn), hks⟩, ?_, rfl⟩
  exact List.forall_mem_cons.2 ⟨n.lt_succ_self, fun k hk => Nat.lt_succ_of_lt (hlt k hk)⟩

/-- Different tasks have different numbers unless there are more tasks than numbers. -/
theorem nodup (h : NumberedBelow n numbers) (hcount : n ≤ UInt64.size) : numbers.Nodup := by
  obtain ⟨ks, hks, hlt, rfl⟩ := h
  refine List.Nodup.map_on (fun k hk m hm heq => ?_) hks
  have hkcount := Nat.lt_of_lt_of_le (hlt k hk) hcount
  exact numberAt_inj hkcount (Nat.lt_of_lt_of_le (hlt m hm) hcount) heq

end NumberedBelow

end Agenda

namespace World

open TriggerScript.Agenda

/-- So many tasks have been booked, and each timer has the number of another one of them. -/
structure Numbered (w : World) (n : Nat) : Prop where
  next : w.agenda.nextId = numberAt n
  timers : NumberedBelow n (w.realm.timers.map (·.2))

variable {w w' : World} {n : Nat}

theorem numbered_new (registry : Registry) (options : Options) (dice : Nat → Dice)
    (stepLimit : Nat) : (World.new registry options dice stepLimit).Numbered 0 where
  next := rfl
  timers := .nil 0

/-- **Timers can be told apart by their numbers** unless there are more tasks than numbers. -/
theorem Numbered.nodup (h : w.Numbered n) (hcount : n ≤ UInt64.size) :
    (w.realm.timers.map (·.2)).Nodup :=
  h.timers.nodup hcount

/-! ### While triggers run -/

/-- What is put onto the agenda is counted. -/
theorem Numbered.evolves (h : w.Numbered n) (hevolves : w.Evolves w') :
    w'.Numbered (n + (w'.agenda.tasks.length - w.agenda.tasks.length)) := by
  obtain ⟨tasks, -, hagenda⟩ := hevolves.agenda
  refine ⟨?_, hevolves.timers ▸ h.timers.mono (Nat.le_add_right ..)⟩
  simp only [hagenda, booking, List.length_append, Nat.add_sub_cancel_left, h.next, numberAt]
  rw [← UInt64.ofNat_add, Nat.add_right_comm]

/-- Nothing is put onto the agenda. -/
theorem Numbered.of_agenda_eq (h : w.Numbered n) (hagenda : w'.agenda = w.agenda)
    (htimers : w'.realm.timers = w.realm.timers) : w'.Numbered n :=
  ⟨hagenda ▸ h.next, htimers ▸ h.timers⟩

/-- **The tasks that walks book are counted.** -/
theorem counts_numbered : Walk.Counts Walk.bookings Numbered where
  after x _ h := h.evolves (x.world.evolves_runFrom ..)
  drawEvent _ _ h := ⟨h.next, h.timers⟩
  setCancelled w n e cancelled h := by
    unfold setCancelled
    split
    · exact ⟨h.next, h.timers⟩
    · exact h
  agenda _ _ _ _ hnext h := ⟨hnext.trans h.next, h.timers⟩

/-! ### Putting triggers to use and taking them out -/

theorem timers_stopTimer (w : World) (id : TriggerId) :
    ((w.stopTimer id).realm.timers.map (·.2)).Sublist (w.realm.timers.map (·.2)) := by
  unfold World.stopTimer
  split
  · exact .refl _
  · exact List.filter_sublist.map _

theorem nextId_stopTimer (w : World) (id : TriggerId) :
    (w.stopTimer id).agenda.nextId = w.agenda.nextId := by
  unfold World.stopTimer
  split
  · rfl
  · exact nextId_cancel ..

/-- A timer that is stopped leaves the others as they were. -/
theorem Numbered.stopTimer (h : w.Numbered n) (id : TriggerId) : (w.stopTimer id).Numbered n :=
  ⟨(w.nextId_stopTimer id).trans h.next, h.timers.sublist (w.timers_stopTimer id)⟩

theorem Numbered.retire (h : w.Numbered n) (t : Trigger) : (w.retire t).Numbered n := by
  have hretired : (w.onRealm fun r => { r with retired := t.id :: r.retired }).Numbered n :=
    ⟨h.next, h.timers⟩
  unfold World.retire
  cases t.header with
  | listens listener => exact ⟨h.next, h.timers⟩
  | onLoad => exact hretired
  | every period => exact hretired.stopTimer t.id

/-- A timer that is started has the number that is next. -/
theorem Numbered.startTimer (h : w.Numbered n) (t : Trigger) (period : UInt64) :
    (w.startTimer t period).Numbered (n + 1) := by
  let booked : World := { w with agenda := (w.agenda.every period period (.periodic t)).2 }
  have hnext : booked.agenda.nextId = numberAt (n + 1) :=
    (congrArg (· + 1) h.next).trans (numberAt_succ n).symm
  have hbooked : NumberedBelow n ((booked.stopTimer t.id).realm.timers.map (·.2)) :=
    h.timers.sublist (booked.timers_stopTimer t.id)
  refine ⟨(booked.nextId_stopTimer t.id).trans hnext, ?_⟩
  have hnumber : (w.agenda.every period period (.periodic t)).1 = numberAt n := h.next
  simpa [World.startTimer, onRealm, hnumber] using hbooked.cons

/-- A trigger that is put to use: its walk is counted, and the task of its timer. -/
theorem Numbered.activate (h : w.Numbered n) (t : Trigger) :
    (w.activate t).Numbered
      (n + (Walk.booked (w.activationWalk t) + ([t].filter (·.isPeriodic)).length)) := by
  unfold World.activate activationWalk
  cases hheader : t.header with
  | listens listener =>
    have hperiodic : [t].filter (·.isPeriodic) = [] := by simp [Trigger.isPeriodic, hheader]
    rw [hperiodic]
    exact ⟨h.next, h.timers⟩
  | onLoad =>
    have hperiodic : [t].filter (·.isPeriodic) = [] := by simp [Trigger.isPeriodic, hheader]
    rw [hperiodic]
    exact counts_numbered.ofKind h t Vocabulary.scriptLoad
  | every period =>
    have hperiodic : [t].filter (·.isPeriodic) = [t] := by simp [Trigger.isPeriodic, hheader]
    rw [hperiodic]
    exact h.startTimer t period

/-- **Triggers that are put to use one after the other.** -/
theorem Numbered.activateAll {ts : List Trigger} (h : w.Numbered n) :
    (ts.foldl World.activate w).Numbered
      (n + (Walk.booked (activationWalks ts w) + (ts.filter (·.isPeriodic)).length)) := by
  induction ts generalizing w n with
  | nil => exact h
  | cons t ts ih =>
    have hlater := ih (h.activate t)
    have hperiodic : ((t :: ts).filter (·.isPeriodic)).length =
        ([t].filter (·.isPeriodic)).length + (ts.filter (·.isPeriodic)).length := by
      rw [← List.length_append, ← List.filter_append, List.singleton_append]
    rw [activationWalks, Walk.booked, Walk.total_append, hperiodic, Nat.add_add_add_comm,
      ← Nat.add_assoc]
    exact hlater

end World

end TriggerScript

import TriggerScript.Proofs.Agenda.Punctual

/-!
# Tasks booked during a tick

A tick first runs what other threads have handed over; only then does it count, and the tasks that
are due have their turns. What is booked in a turn has to wait for a later tick. What a handed over
job books for the next tick has its turn in the tick that runs the job.

* `servedIn`, `turnsIn` : what happens in a tick before it counts, and afterwards.
* `account_of_booked` : what is known of a task since it was booked.
* `turns_of_booked_meanwhile` : the turns that a task has in the tick in which it was booked.
-/

namespace TriggerScript.Agenda

variable {J σ : Type}

/-! ### The two parts of a tick -/

/-- What happens in a tick while jobs run that were handed over. -/
def servedIn (w : Worker J σ) (s : Agenda J × σ) : List (Happening J) :=
  serveHistory w s.1.handedOver ({ s.1 with handedOver := [] }, s.2)

/-- What happens in a tick while tasks have their turns. -/
def turnsIn (w : Worker J σ) (s : Agenda J × σ) : List (Happening J) :=
  let served := serve w.run s
  let (due, a) := served.1.beginTick
  turnsHistory w a.now due (a, served.2)

theorem history_concat (w : Worker J σ) (commands : List (Command J)) (c : Command J)
    (s : Agenda J × σ) : history w (commands ++ [c]) s =
      history w commands s ++ c.history w (performAll w commands s) := by
  induction commands generalizing s with
  | nil => exact List.append_nil _
  | cons first rest ih =>
    rw [List.cons_append, history, ih, history, List.append_assoc]
    rfl

theorem tickHistory_eq (w : Worker J σ) (s : Agenda J × σ) :
    tickHistory w s = servedIn w s ++ .begun :: turnsIn w s :=
  rfl

theorem ticksIn_callHistory (calls : List (Call J)) (a : Agenda J) :
    ticksIn (callHistory calls a) = 0 := by
  induction calls generalizing a with
  | nil => rfl
  | cons c rest ih =>
    rw [callHistory, ← List.singleton_append, ticksIn_append, ih, ticksIn_singleton]
    cases c <;> (intro hbegun; cases hbegun)

theorem ticksIn_serveHistory (w : Worker J σ) (jobs : List J) (s : Agenda J × σ) :
    ticksIn (serveHistory w jobs s) = 0 := by
  induction jobs generalizing s with
  | nil => rfl
  | cons job rest ih => rw [serveHistory, ticksIn_append, ticksIn_callHistory, ih]

theorem ticksIn_requeueHistory (a : Agenda J) (task : QueuedJob J) :
    ticksIn (requeueHistory a task) = 0 := by
  unfold requeueHistory
  split
  · rfl
  · split <;> rfl

theorem ticksIn_turnHistory (w : Worker J σ) (task : QueuedJob J) (s : Agenda J × σ) :
    ticksIn (turnHistory w task s) = 0 := by
  unfold turnHistory
  split
  · rfl
  · rw [← List.singleton_append, ticksIn_append, ticksIn_append, ticksIn_callHistory,
      ticksIn_requeueHistory]
    rfl

theorem ticksIn_turnsHistory (w : Worker J σ) (now : UInt64) (tasks : List (QueuedJob J))
    (s : Agenda J × σ) : ticksIn (turnsHistory w now tasks s) = 0 := by
  induction tasks generalizing s with
  | nil => rfl
  | cons task rest ih => rw [turnsHistory, ticksIn_append, ticksIn_turnHistory, ih]

theorem ticksIn_servedIn (w : Worker J σ) (s : Agenda J × σ) : ticksIn (servedIn w s) = 0 :=
  ticksIn_serveHistory w _ _

theorem ticksIn_turnsIn (w : Worker J σ) (s : Agenda J × σ) : ticksIn (turnsIn w s) = 0 :=
  ticksIn_turnsHistory w _ _ _

/-! ### What is known since a booking -/

/-- What is known of a task since it was booked: the booking, and no cancellation before. -/
theorem account_of_booked (pre : List (Happening J)) {post : List (Happening J)}
    {id : UInt64} (delay : UInt64) (period : Option UInt64) (job : J) (honce : id ∉ bookedIds post) :
    let acc := account id (pre ++ .booked id delay period job :: post)
    acc.booking = some ⟨ticksIn pre, delay, period, job⟩ ∧
      ∀ m, acc.cancelled = some m → ticksIn pre ≤ m := by
  induction post using List.reverseRecOn with
  | nil =>
    rw [account_concat, Account.note, if_pos rfl, now_account]
    exact ⟨rfl, fun m hm => by cases hm⟩
  | append_singleton post e ih =>
    rw [bookedIds_concat, List.mem_append, not_or] at honce
    obtain ⟨hbooking, hlater⟩ := ih honce.1
    have hnow : ticksIn pre ≤ (account id (pre ++ .booked id delay period job :: post)).now := by
      rw [now_account, ticksIn_append]
      exact Nat.le_add_right _ _
    rw [← List.cons_append, ← List.append_assoc, account_concat]
    cases e with
    | booked i _ _ _ =>
      have hne : i ≠ id := fun heq => honce.2 (by simp [Happening.bookedId?, heq])
      rw [Account.note, if_neg hne]
      exact ⟨hbooking, hlater⟩
    | cancelled i =>
      rw [Account.note]
      split
      · refine ⟨hbooking, fun m hm => ?_⟩
        rcases Option.or_eq_some_iff.1 hm with hm | ⟨-, hm⟩
        · exact hlater m hm
        · exact Option.some.inj hm ▸ hnow
      · exact ⟨hbooking, hlater⟩
    | started i _ | passed i =>
      rw [Account.note]
      split <;> exact ⟨hbooking, hlater⟩
    | begun | requeued i _ => exact ⟨hbooking, hlater⟩

/-! ### Turns in the tick of the booking -/

theorem exists_booked_of_mem {h : List (Happening J)} {id : UInt64} (hmem : id ∈ bookedIds h) :
    ∃ delay period job, Happening.booked id delay period job ∈ h := by
  obtain ⟨e, he, hid⟩ := List.mem_filterMap.1 hmem
  cases e with
  | booked i delay period job =>
    obtain rfl := Option.some.inj hid
    exact ⟨delay, period, job, he⟩
  | _ => cases hid

/-- A task has its turn in the tick `n + 1` if it was booked right before for the next tick and has
not been cancelled at once. -/
theorem Account.Lawful.turns_eq {acc : Account J} {b : Booking J} {n : Nat} (h : acc.Lawful)
    (hb : acc.booking = some b) (hnow : acc.now = n + 1) (hbooked : n ≤ b.tick)
    (hlater : ∀ m, acc.cancelled = some m → b.tick ≤ m)
    (hnext : ∀ d, acc.next? = some d → acc.cancelled.getD acc.now < d) :
    acc.turns = if b.tick = n ∧ b.delay ≤ 1 ∧ acc.cancelled ≠ some n then [n + 1] else [] := by
  have hmem := h.mem_turns hb hnext
  have hdue (m : Nat) (hm : b.IsDue m) : b.first ≤ m := by
    obtain ⟨k, -, rfl⟩ := hm
    exact Nat.le_add_right _ _
  have hpast : acc.cancelled.getD acc.now ≤ n + 1 := by
    cases hc : acc.cancelled with
    | none => exact Nat.le_of_eq hnow
    | some m => exact hnow ▸ h.past m hc
  have hfirst : b.first = b.tick + max b.delay.toNat 1 := by rw [Booking.first, toNat_max_one]
  split
  · next hsoon =>
    obtain ⟨htick, hdelay, hstands⟩ := hsoon
    have hone : b.delay.toNat ≤ 1 := UInt64.le_iff_toNat_le.1 hdelay
    have hreaches : n + 1 ≤ acc.cancelled.getD acc.now := by
      cases hc : acc.cancelled with
      | none => exact Nat.le_of_eq hnow.symm
      | some m =>
        have hm := hlater m hc
        have hne : m ≠ n := fun heq => hstands (by rw [hc, heq])
        simp only [Option.getD_some]
        omega
    have honly (m : Nat) : m ∈ acc.turns ↔ m ∈ [n + 1] := by
      rw [hmem, List.mem_singleton]
      constructor
      · rintro ⟨hm, hle⟩
        have := hdue m hm
        omega
      · rintro rfl
        exact ⟨⟨0, fun _ => rfl, by omega⟩, hreaches⟩
    have hnodup : acc.turns.Nodup := (h.pairwise_turns hb).imp Nat.ne_of_lt
    exact List.perm_singleton.1 ((List.perm_ext_iff_of_nodup hnodup (List.nodup_singleton _)).2 honly)
  · next hlong =>
    refine List.eq_nil_iff_forall_not_mem.2 fun m hm => hlong ?_
    obtain ⟨hm, hle⟩ := (hmem m).1 hm
    have hge := hdue m hm
    refine ⟨by omega, UInt64.le_iff_toNat_le.2 ?_, fun hc => ?_⟩
    · change b.delay.toNat ≤ 1
      omega
    · rw [hc, Option.getD_some] at hle
      omega

/-- **The turns of a task in the tick in which it was booked.** What a due task books has to wait for
a later tick. What a job books that was handed over has its turn in this very tick if it is due in
one tick, unless it is cancelled while such jobs run. -/
theorem turns_of_booked_meanwhile (w : Worker J σ) (commands : List (Command J)) (x : σ)
    (hcount : (bookedIds (history w (commands ++ [.tick]) (.empty, x))).length ≤ UInt64.size)
    (hrange : InRange (ticksIn (history w (commands ++ [.tick]) (.empty, x))) 0
      (history w (commands ++ [.tick]) (.empty, x))) :
    let s := performAll w commands (.empty, x)
    let n := ticksIn (history w commands (.empty, x))
    let h := history w (commands ++ [.tick]) (.empty, x)
    (∀ id ∈ bookedIds (turnsIn w s), (account id h).turns = []) ∧
    ∀ id delay period job, .booked id delay period job ∈ servedIn w s →
      (account id h).turns =
        if delay ≤ 1 ∧ (account id h).cancelled ≠ some n then [n + 1] else [] := by
  intro s n h
  have hreach : Reaches h ⟨(performAll w (commands ++ [.tick]) (.empty, x)).1, false, [], none⟩ :=
    reaches_history w _ (h := []) (s := (.empty, x)) .empty
  have hnumbers : WellNumbered (ticksIn h) h := ⟨nodup_bookedIds hreach hcount, hrange⟩
  have hagrees := agrees_of_reaches hreach hnumbers
  have hparts : h = history w commands (.empty, x) ++ servedIn w s ++ .begun :: turnsIn w s := by
    rw [List.append_assoc, ← tickHistory_eq]
    exact history_concat w commands .tick (.empty, x)
  have hnow : ticksIn h = n + 1 := by
    rw [hparts, ticksIn_append, ticksIn_append, ← List.singleton_append, ticksIn_append,
      ticksIn_servedIn, ticksIn_turnsIn]
    rfl
  have hturns {pre post : List (Happening J)} {id delay : UInt64} {period : Option UInt64}
      {job : J} (hsplit : h = pre ++ .booked id delay period job :: post) (hlate : n ≤ ticksIn pre) :
      (account id h).turns =
        if ticksIn pre = n ∧ delay ≤ 1 ∧ (account id h).cancelled ≠ some n then [n + 1] else [] := by
    have honce : id ∉ bookedIds post := by
      have hdistinct := hnumbers.distinct
      rw [hsplit, ← List.singleton_append, ← List.append_assoc, bookedIds, List.filterMap_append,
        List.filterMap_append, List.append_assoc] at hdistinct
      exact (List.nodup_cons.1 hdistinct.of_append_right).1
    obtain ⟨hb, hlater⟩ := account_of_booked pre delay period job honce
    rw [← hsplit] at hb hlater
    exact (hagrees.lawful id).turns_eq hb (by rw [now_account, hnow]) hlate hlater
      fun d hd => hagrees.cancelled_lt_next hd
  constructor
  · intro id hid
    obtain ⟨delay, period, job, hbooked⟩ := exists_booked_of_mem hid
    obtain ⟨front, back, hsplit⟩ := List.append_of_mem hbooked
    have hcounted : ticksIn (history w commands (.empty, x) ++ servedIn w s ++ .begun :: front) =
        n + 1 + ticksIn front := by
      rw [ticksIn_append, ticksIn_append, ← List.singleton_append, ticksIn_append, ticksIn_servedIn,
        ticksIn_begun]
      omega
    rw [hsplit, ← List.cons_append, ← List.append_assoc] at hparts
    rw [hturns hparts (by omega), if_neg (by omega)]
  · intro id delay period job hbooked
    obtain ⟨front, back, hsplit⟩ := List.append_of_mem hbooked
    have hquiet := ticksIn_servedIn w s
    rw [hsplit, ticksIn_append] at hquiet
    have hcounted : ticksIn (history w commands (.empty, x) ++ front) = n := by
      rw [ticksIn_append]
      omega
    rw [hsplit, ← List.append_assoc, List.append_assoc, List.cons_append] at hparts
    rw [hturns hparts (Nat.le_of_eq hcounted.symm)]
    simp only [hcounted, true_and]

/-- Job 1 books a task for the next tick. -/
def planner : Worker Nat Unit :=
  .listed fun
    | 1 => [.once 1 0]
    | _ => []

/-- Job 1 is due in the tick, and it has been handed over too. -/
def planning : List (Command Nat) :=
  [.call (.once 1 1), .handOver 1]

/-- What the handed over job books starts at once, what the due task books does not. -/
theorem turns_of_booked_meanwhile_planning :
    let h := history planner (planning ++ [.tick]) (.empty, ())
    (bookedIds h).length ≤ UInt64.size ∧ InRange (ticksIn h) 0 h ∧
      bookedIds (servedIn planner (performAll planner planning (.empty, ()))) = [2] ∧
      bookedIds (turnsIn planner (performAll planner planning (.empty, ()))) = [3] ∧
      (account 2 h).turns = [1] ∧ (account 3 h).turns = [] := by
  intro h
  have hcount : (bookedIds h).length ≤ UInt64.size := by decide
  have hrange : InRange (ticksIn h) 0 h := by decide
  obtain ⟨hdue, hserved⟩ := turns_of_booked_meanwhile planner planning () hcount hrange
  have hbooked : bookedIds (turnsIn planner (performAll planner planning (.empty, ()))) = [3] := by
    decide
  have htwo := hserved 2 1 none 0 (by decide)
  have hstands : (account 2 h).cancelled = none := by decide
  rw [hstands, if_pos ⟨by decide, nofun⟩] at htwo
  exact ⟨hcount, hrange, by decide, hbooked, htwo, hdue 3 (by rw [hbooked]; decide)⟩

/-- What is booked during a tick may start in this tick. -/
theorem not_later_of_booked_meanwhile : ¬∀ (w : Worker Nat Unit) (commands : List (Command Nat)),
    let s := performAll w commands (.empty, ())
    ∀ id ∈ bookedIds (tickHistory w s), id ∉ startedIds (tickHistory w s) := by
  intro h
  exact h planner planning 2 (by decide) (by decide)

end TriggerScript.Agenda

import TriggerScript.Proofs.Agenda.Stages
import Mathlib.Data.List.Induction

/-!
# What a history says about one task

A task has its turns in regular ticks: the first a delay after the tick in which it was booked, the
others a period apart. The tick of the next turn follows from the account, and with it whether the
task is over.

* `account_concat_of_ne` : what happens to one task changes no other account.
* `WellNumbered` : tasks can be told apart, and no tick has too large a number.
* `Account.next?` : the tick of the next turn.
* `Account.Lawful` : the turns have been in the right ticks, and none after a cancellation.
* `Account.Over` : there are no turns to come.
* `Account.Lawful.mem_turns` : of a task that is over, or due later, the turns are known.
-/

namespace TriggerScript.Agenda

variable {J : Type}

/-! ### Histories with one more happening -/

@[simp] theorem ticksIn_append (h h' : List (Happening J)) :
    ticksIn (h ++ h') = ticksIn h + ticksIn h' :=
  List.countP_append

@[simp] theorem ticksIn_begun : ticksIn ([.begun] : List (Happening J)) = 1 := rfl

theorem ticksIn_singleton {e : Happening J} (he : e ≠ .begun) : ticksIn [e] = 0 := by
  cases e with
  | begun => exact absurd rfl he
  | _ => rfl

theorem ticksIn_concat (h : List (Happening J)) {e : Happening J} (he : e ≠ .begun) :
    ticksIn (h ++ [e]) = ticksIn h := by
  rw [ticksIn_append, ticksIn_singleton he, Nat.add_zero]

theorem inRange_append (last n : Nat) (h h' : List (Happening J)) :
    InRange last n (h ++ h') ↔ InRange last n h ∧ InRange last (n + ticksIn h) h' := by
  induction h generalizing n with
  | nil => simp [InRange, ticksIn]
  | cons e h ih =>
    have hcount : ticksIn (e :: h) = ticksIn [e] + ticksIn h := ticksIn_append [e] h
    rw [hcount, List.cons_append]
    cases e with
    | begun => simp [InRange, ih, Nat.add_assoc, and_assoc]
    | booked id delay period job => simp [InRange, ih, ticksIn_singleton, and_assoc]
    | cancelled id => simp [InRange, ih, ticksIn_singleton]
    | started id job => simp [InRange, ih, ticksIn_singleton]
    | passed id => simp [InRange, ih, ticksIn_singleton]
    | requeued id period => simp [InRange, ih, ticksIn_singleton, and_assoc]

theorem account_concat (id : UInt64) (h : List (Happening J)) (e : Happening J) :
    account id (h ++ [e]) = (account id h).note id e := by
  simp [account]

/-- The task that something happens to. -/
def Happening.id? : Happening J → Option UInt64
  | .booked id _ _ _ => some id
  | .cancelled id => some id
  | .begun => none
  | .started id _ => some id
  | .passed id => some id
  | .requeued id _ => some id

/-- What happens to one task changes no other account. -/
theorem account_concat_of_ne {id : UInt64} {e : Happening J} (h : List (Happening J))
    (hid : e.id? ≠ some id) (hbegun : e ≠ .begun) : account id (h ++ [e]) = account id h := by
  rw [account_concat]
  cases e with
  | begun => exact absurd rfl hbegun
  | booked i delay period job => exact if_neg fun heq => hid (congrArg some heq)
  | cancelled i => exact if_neg fun heq => hid (congrArg some heq.1)
  | started i job => exact if_neg fun heq => hid (congrArg some heq)
  | passed i => exact if_neg fun heq => hid (congrArg some heq)
  | requeued i period => rfl

theorem now_account (id : UInt64) (h : List (Happening J)) : (account id h).now = ticksIn h := by
  induction h using List.reverseRecOn with
  | nil => rfl
  | append_singleton h e ih =>
    rw [account_concat, ticksIn_append, ← ih]
    cases e with
    | begun => rfl
    | booked i delay period job => simp only [Account.note]; split <;> simp [ticksIn_singleton]
    | cancelled i => simp only [Account.note]; split <;> simp [ticksIn_singleton]
    | started i job => simp only [Account.note]; split <;> simp [ticksIn_singleton]
    | passed i => simp only [Account.note]; split <;> simp [ticksIn_singleton]
    | requeued i period => simp [Account.note, ticksIn_singleton]

theorem bookedIds_concat (h : List (Happening J)) (e : Happening J) :
    bookedIds (h ++ [e]) = bookedIds h ++ e.bookedId?.toList := by
  cases hid : e.bookedId? <;> simp [bookedIds, hid]

theorem queuedIds_concat (h : List (Happening J)) (e : Happening J) :
    queuedIds (h ++ [e]) = queuedIds h ++ e.queuedId?.toList := by
  cases hid : e.queuedId? <;> simp [queuedIds, hid]

theorem startedIds_concat (h : List (Happening J)) (e : Happening J) :
    startedIds (h ++ [e]) = startedIds h ++ e.startedId?.toList := by
  cases hid : e.startedId? <;> simp [startedIds, hid]

theorem Account.isSome_booking_note (id : UInt64) (acc : Account J) (e : Happening J) :
    (acc.note id e).booking.isSome ↔ acc.booking.isSome ∨ e.bookedId? = some id := by
  cases e with
  | booked i delay period job => by_cases hi : i = id <;> simp [note, Happening.bookedId?, hi]
  | cancelled i => simp only [note]; split <;> simp [Happening.bookedId?]
  | begun => simp [note, Happening.bookedId?]
  | started i job => simp only [note]; split <;> simp [Happening.bookedId?]
  | passed i => simp only [note]; split <;> simp [Happening.bookedId?]
  | requeued i period => simp [note, Happening.bookedId?]

/-- An account has a booking if the task was booked. -/
theorem isSome_booking_account {id : UInt64} {h : List (Happening J)} :
    (account id h).booking.isSome ↔ id ∈ bookedIds h := by
  induction h using List.reverseRecOn with
  | nil => simp [account, Account.empty, bookedIds]
  | append_singleton h e ih =>
    rw [account_concat, Account.isSome_booking_note, ih, bookedIds_concat, List.mem_append,
      Option.mem_toList]

/-- Tasks can be told apart by their numbers, and no tick has too large a number. -/
structure WellNumbered (last : Nat) (h : List (Happening J)) : Prop where
  distinct : (bookedIds h).Nodup
  inRange : InRange last 0 h

namespace WellNumbered

variable {last : Nat} {h : List (Happening J)} {e : Happening J}

theorem of_prefix {h' : List (Happening J)} (hnumbers : WellNumbered last h) (hpart : h' <+: h) :
    WellNumbered last h' := by
  obtain ⟨rest, rfl⟩ := hpart
  have hdistinct := hnumbers.distinct
  rw [bookedIds, List.filterMap_append] at hdistinct
  exact ⟨hdistinct.of_append_left, ((inRange_append last 0 h' rest).1 hnumbers.inRange).1⟩

theorem init (hnumbers : WellNumbered last (h ++ [e])) : WellNumbered last h :=
  hnumbers.of_prefix (List.prefix_append h [e])

theorem inRange_last (hnumbers : WellNumbered last (h ++ [e])) : InRange last (ticksIn h) [e] := by
  have hlast := ((inRange_append last 0 h [e]).1 hnumbers.inRange).2
  rwa [Nat.zero_add] at hlast

theorem not_mem_bookedIds {id : UInt64} (hnumbers : WellNumbered last (h ++ [e]))
    (he : e.bookedId? = some id) : id ∉ bookedIds h := by
  have hdistinct := hnumbers.distinct
  rw [bookedIds_concat, he] at hdistinct
  exact fun hmem => List.disjoint_of_nodup_append hdistinct hmem (List.mem_singleton_self id)

end WellNumbered

/-! ### The next turn -/

theorem toNat_max_one (n : UInt64) : (max n 1).toNat = max n.toNat 1 := by
  change (if n ≤ 1 then 1 else n).toNat = _
  split
  · next hle =>
    have hnat : n.toNat ≤ 1 := UInt64.le_iff_toNat_le.1 hle
    exact (Nat.max_eq_right hnat).symm
  · next hlt =>
    have hnat : 1 < n.toNat := UInt64.lt_iff_toNat_lt.1 (UInt64.not_le.1 hlt)
    exact (Nat.max_eq_left (Nat.le_of_lt hnat)).symm

namespace Booking

theorem lt_first (b : Booking J) : b.tick < b.first := by
  rw [first, toNat_max_one]
  omega

theorem stride_of_period {b : Booking J} {period : UInt64} (h : b.period = some period) :
    b.stride = (max period 1).toNat := by
  simp [stride, h]

theorem stride_pos {b : Booking J} (h : b.period ≠ none) : 0 < b.stride := by
  obtain ⟨period, hperiod⟩ := Option.ne_none_iff_exists'.1 h
  rw [stride_of_period hperiod, toNat_max_one]
  omega

end Booking

namespace Account

/-- The tick of the next turn, whether or not the task has been cancelled. A task that is to run
once has no further turn. -/
def next? (acc : Account J) : Option Nat :=
  acc.booking.bind fun b =>
    if b.period = none ∧ acc.turns ≠ [] then none
    else some (b.first + acc.turns.length * b.stride)

/-- The turns have been in the right ticks, and none after a cancellation. -/
structure Lawful (acc : Account J) : Prop where
  unbooked : acc.booking = none → acc.cancelled = none ∧ acc.turns = []
  regular : ∀ b, acc.booking = some b →
    acc.turns = (List.range acc.turns.length).map fun k => b.first + k * b.stride
  once : ∀ b, acc.booking = some b → b.period = none → acc.turns.length ≤ 1
  inTime : ∀ m ∈ acc.turns, m ≤ acc.cancelled.getD acc.now
  past : ∀ m, acc.cancelled = some m → m ≤ acc.now
  passes : ∀ m ∈ acc.passes, acc.cancelled = some m

/-- There are no turns to come: a next one would come after the cancellation. -/
def Over (acc : Account J) : Prop :=
  ∀ d, acc.next? = some d → ∃ m, acc.cancelled = some m ∧ m < d

theorem lawful_empty : (empty : Account J).Lawful where
  unbooked _ := ⟨rfl, rfl⟩
  regular _ h := nomatch h
  once _ h := nomatch h
  inTime _ h := nomatch h
  past _ h := nomatch h
  passes _ h := nomatch h

theorem lawful_booked (now : Nat) (b : Booking J) : Lawful ⟨now, some b, none, [], []⟩ where
  unbooked h := nomatch h
  regular _ _ := rfl
  once _ _ _ := Nat.zero_le 1
  inTime _ h := nomatch h
  past _ h := nomatch h
  passes _ h := nomatch h

theorem next?_booked (now : Nat) (b : Booking J) :
    next? ⟨now, some b, none, [], []⟩ = some b.first := by
  simp [next?, turns]

variable {acc : Account J}

theorem exists_booking_of_next? {d : Nat} (h : acc.next? = some d) :
    ∃ b, acc.booking = some b := by
  obtain ⟨b, hb, -⟩ := Option.bind_eq_some_iff.1 h
  exact ⟨b, hb⟩

/-! ### What happens to an account -/

theorem Lawful.begun (h : acc.Lawful) : Lawful { acc with now := acc.now + 1 } where
  unbooked := h.unbooked
  regular := h.regular
  once := h.once
  inTime m hm := by
    refine Nat.le_trans (h.inTime m hm) ?_
    cases acc.cancelled with
    | none => exact Nat.le_succ acc.now
    | some u => exact Nat.le_refl u
  past m hm := Nat.le_succ_of_le (h.past m hm)
  passes := h.passes

theorem Lawful.cancelled (h : acc.Lawful) (hb : acc.booking.isSome) :
    Lawful { acc with cancelled := acc.cancelled.or (some acc.now) } := by
  cases hc : acc.cancelled with
  | some u =>
    have hsame : { acc with cancelled := (some u).or (some acc.now) } = acc := by
      rw [Option.some_or, ← hc]
    exact hsame ▸ h
  | none =>
    refine ⟨fun hnone => ?_, h.regular, h.once, fun m hm => ?_, fun m hm => ?_, fun m hm => ?_⟩
    · rw [show acc.booking = none from hnone] at hb
      cases hb
    · simpa [hc] using h.inTime m hm
    · exact Nat.le_of_eq (Option.some.inj hm).symm
    · exact absurd (h.passes m hm) (by simp [hc])

/-- When it has been the turn of a task, the next turn of a repeating one is a period away. -/
theorem next?_of_turn {acc' : Account J} {b : Booking J} (hb : acc.booking = some b)
    (hb' : acc'.booking = some b) (hnext : acc.next? = some acc.now)
    (hturns : acc'.turns = acc.turns ++ [acc.now]) :
    acc'.next? = b.period.map fun _ => acc.now + b.stride := by
  cases hperiod : b.period with
  | none => simp [next?, hb', hturns, hperiod]
  | some period =>
    have hnow : b.first + acc.turns.length * b.stride = acc.now := by
      simpa [next?, hb, hperiod] using hnext
    simp [next?, hb', hturns, hperiod, ← hnow, Nat.add_mul, Nat.add_assoc]

theorem Lawful.turn {acc' : Account J} {b : Booking J} (h : acc.Lawful) (hb : acc.booking = some b)
    (hb' : acc'.booking = some b) (hnext : acc.next? = some acc.now)
    (hnow : acc'.now = acc.now) (hcancelled : acc'.cancelled = acc.cancelled)
    (hturns : acc'.turns = acc.turns ++ [acc.now])
    (hintime : ∀ u, acc.cancelled = some u → u = acc.now)
    (hpasses : ∀ m ∈ acc'.passes, acc'.cancelled = some m) : acc'.Lawful := by
  have hfirst : acc.now = b.first + acc.turns.length * b.stride ∧
      (b.period = none → acc.turns = []) := by
    have hbind := hnext
    simp only [next?, hb, Option.bind_some] at hbind
    split at hbind
    · cases hbind
    · next hmore => exact ⟨(Option.some.inj hbind).symm, fun hone => by simpa [hone] using hmore⟩
  refine ⟨fun hnone => ?_, fun b' hb'' => ?_, fun b' hb'' hone => ?_, fun m hm => ?_,
    fun m hm => ?_, hpasses⟩
  · rw [hb'] at hnone
    cases hnone
  · obtain rfl : b = b' := Option.some.inj (hb'.symm.trans hb'')
    rw [hturns, List.length_append, List.length_singleton, List.range_succ, List.map_append,
      List.map_singleton, ← hfirst.1, ← h.regular b hb]
  · obtain rfl : b = b' := Option.some.inj (hb'.symm.trans hb'')
    simp [hturns, hfirst.2 hone]
  · rw [hcancelled, hnow]
    obtain hm | hm := List.mem_append.1 (hturns ▸ hm)
    · exact h.inTime m hm
    · obtain rfl := List.mem_singleton.1 hm
      cases hc : acc.cancelled with
      | none => exact Nat.le_refl _
      | some u => exact Nat.le_of_eq (hintime u hc).symm
  · rw [hnow]
    exact h.past m (hcancelled ▸ hm)

theorem Lawful.started {b : Booking J} (h : acc.Lawful) (hb : acc.booking = some b)
    (hnext : acc.next? = some acc.now) (hcancelled : acc.cancelled = none) :
    Lawful { acc with starts := acc.starts ++ [acc.now] } ∧
      next? { acc with starts := acc.starts ++ [acc.now] } =
        b.period.map fun _ => acc.now + b.stride := by
  have hpasses : acc.passes = [] :=
    List.eq_nil_iff_forall_not_mem.2 fun m hm => by simp [h.passes m hm] at hcancelled
  have hturns : turns { acc with starts := acc.starts ++ [acc.now] } = acc.turns ++ [acc.now] := by
    simp [turns, hpasses]
  refine ⟨h.turn hb hb hnext rfl rfl hturns ?_ h.passes, next?_of_turn hb hb hnext hturns⟩
  simp [hcancelled]

theorem Lawful.passed {b : Booking J} (h : acc.Lawful) (hb : acc.booking = some b)
    (hnext : acc.next? = some acc.now) (hcancelled : acc.cancelled = some acc.now) :
    Lawful { acc with passes := acc.passes ++ [acc.now] } ∧
      next? { acc with passes := acc.passes ++ [acc.now] } =
        b.period.map fun _ => acc.now + b.stride := by
  have hturns : turns { acc with passes := acc.passes ++ [acc.now] } = acc.turns ++ [acc.now] := by
    simp [turns]
  refine ⟨h.turn hb hb hnext rfl rfl hturns ?_ fun m hm => ?_, next?_of_turn hb hb hnext hturns⟩
  · exact fun u hu => Option.some.inj (hu.symm.trans hcancelled)
  · obtain hm | hm := List.mem_append.1 hm
    · exact h.passes m hm
    · exact hcancelled.trans (congrArg some (List.mem_singleton.1 hm).symm)

/-! ### Which turns there have been -/

/-- The turns are in ticks one after the other, never two in one tick. -/
theorem Lawful.pairwise_turns {b : Booking J} (h : acc.Lawful) (hb : acc.booking = some b) :
    acc.turns.Pairwise (· < ·) := by
  by_cases hone : b.period = none
  · have hlen := h.once b hb hone
    match hturns : acc.turns, hlen with
    | [], _ => exact List.Pairwise.nil
    | [m], _ => exact List.pairwise_singleton ..
  · have hpos := Booking.stride_pos hone
    rw [h.regular b hb, List.pairwise_map]
    refine List.pairwise_lt_range.imp fun hlt => ?_
    exact Nat.add_lt_add_left (Nat.mul_lt_mul_of_pos_right hlt hpos) _

/-- If no turn is left up to now, or up to the cancellation, then the turns there have been are
those that were due. -/
theorem Lawful.mem_turns {b : Booking J} (h : acc.Lawful) (hb : acc.booking = some b)
    (hnext : ∀ d, acc.next? = some d → acc.cancelled.getD acc.now < d) (m : Nat) :
    m ∈ acc.turns ↔ b.IsDue m ∧ m ≤ acc.cancelled.getD acc.now := by
  have hmem : m ∈ acc.turns ↔ ∃ k < acc.turns.length, b.first + k * b.stride = m := by
    conv_lhs => rw [h.regular b hb]
    simp
  constructor
  · intro hm
    obtain ⟨k, hk, hkm⟩ := hmem.1 hm
    refine ⟨⟨k, fun hone => ?_, hkm.symm⟩, h.inTime m hm⟩
    have := h.once b hb hone
    omega
  · rintro ⟨⟨k, hk, rfl⟩, hle⟩
    refine hmem.2 ⟨k, ?_, rfl⟩
    by_cases hone : b.period = none
    · rw [hk hone] at hle ⊢
      refine List.length_pos_iff.2 fun hnil => ?_
      have hlt := hnext b.first (by simp [next?, hb, hnil])
      omega
    · have hlt := hnext (b.first + acc.turns.length * b.stride) (by simp [next?, hb, hone])
      exact Nat.lt_of_mul_lt_mul_right (a := b.stride) (Nat.lt_of_add_lt_add_left
        (Nat.lt_of_le_of_lt hle hlt))

end Account

end TriggerScript.Agenda

import TriggerScript.Agenda.Handoff
import Mathlib.Data.List.Nodup
import Mathlib.Logic.Relation

/-!
# Jobs run once or not at all

Whatever the order in which callers and the main thread take their steps, a job that was left for
the main thread runs at most once, and its caller is told the truth about it.

* `Exchange.whereabouts` : what the main thread has to do with a job.
* `Standing` : how far a job and its caller can have come, given its whereabouts.
* `Fits` : every job of an exchange stands so.
* `Fits.step` : each step of a caller or of the main thread keeps that.
* `handed_over_once_or_never` : what a caller is told is what has become of its job.
-/

namespace TriggerScript.Handoff

open Relation

variable {R : Type}

/-- The job that the main thread is busy with. -/
def MainPhase.ticket? : MainPhase R → Option Nat
  | .idle => none
  | .running i => some i
  | .sending i _ => some i

/-- What the main thread has to do with a job. -/
inductive Whereabouts (R : Type) where
  /-- It is in the queue, or the main thread has taken it. -/
  | held
  | running
  | sending (result : R)
  /-- The main thread has done with it. -/
  | gone

namespace Exchange

/-- The jobs in the queue, those taken, and the one that the main thread is busy with. -/
def inHand (x : Exchange R) : List Nat :=
  (x.queue ++ x.taken) ++ x.main.ticket?.toList

/-- What the main thread has to do with a job. -/
def whereabouts (x : Exchange R) (i : Nat) : Whereabouts R :=
  if i ∈ x.queue ++ x.taken then .held
  else match x.main with
    | .idle => .gone
    | .running j => if j = i then .running else .gone
    | .sending j r => if j = i then .sending r else .gone

end Exchange

/-- The caller has not been told anything yet. -/
def CallerPhase.Open : CallerPhase R → Prop
  | .waiting => True
  | .impatient => True
  | .insisting => True
  | .received _ => False
  | .timedOut => False

/-- How far a job and its caller can have come, given the whereabouts of the job. Only the main
thread claims a job whose caller is still waiting. -/
inductive Standing : Whereabouts R → Ticket R → Prop where
  | left {c : CallerPhase R} (hc : c = .waiting ∨ c = .impatient) :
    Standing .held ⟨c, false, [], none, true⟩
  | dropped {c : CallerPhase R} (hc : c = .waiting ∨ c = .impatient) :
    Standing .gone ⟨c, false, [], none, false⟩
  | givenUp (live : Bool) : Standing .held ⟨.timedOut, true, [], none, live⟩
  | passed (live : Bool) : Standing .gone ⟨.timedOut, true, [], none, live⟩
  | running {c : CallerPhase R} (hc : c.Open) : Standing .running ⟨c, true, [], none, true⟩
  | ran {c : CallerPhase R} (r : R) (hc : c.Open) :
    Standing (.sending r) ⟨c, true, [r], none, true⟩
  | sent {c : CallerPhase R} (r : R) (hc : c.Open) :
    Standing .gone ⟨c, true, [r], some r, false⟩
  | told (r : R) : Standing .gone ⟨.received r, true, [r], none, false⟩

/-- Every job stands as its whereabouts say, and the main thread has each of them once. -/
structure Fits (x : Exchange R) : Prop where
  nodup : x.inHand.Nodup
  below : ∀ i ∈ x.inHand, i < x.tickets.length
  standing : ∀ i t, x.tickets[i]? = some t → Standing (x.whereabouts i) t

theorem fits_empty : Fits (.empty : Exchange R) :=
  ⟨List.nodup_nil, nofun, nofun⟩

namespace Fits

variable {x y : Exchange R} {i : Nat} {t : Ticket R}

/-! ### Where jobs are -/

theorem not_mem_held (h : Fits x) (hi : x.main.ticket? = some i) : i ∉ x.queue ++ x.taken := by
  intro hmem
  exact (List.nodup_append.1 h.nodup).2.2 i hmem i (by simp [hi]) rfl

theorem whereabouts_running (h : Fits x) (hi : x.main = .running i) :
    x.whereabouts i = .running := by
  have hnot := h.not_mem_held (i := i) (by rw [hi]; rfl)
  simp [Exchange.whereabouts, hnot, hi]

theorem whereabouts_sending {r : R} (h : Fits x) (hi : x.main = .sending i r) :
    x.whereabouts i = .sending r := by
  have hnot := h.not_mem_held (i := i) (by rw [hi]; rfl)
  simp [Exchange.whereabouts, hnot, hi]

theorem whereabouts_taken {rest : List Nat} (hi : x.taken = i :: rest) :
    x.whereabouts i = .held := by
  simp [Exchange.whereabouts, hi]

/-- A job that the main thread has not in hand is gone. -/
theorem whereabouts_gone (hi : i ∉ x.inHand) : x.whereabouts i = .gone := by
  rw [Exchange.inHand, List.mem_append, not_or] at hi
  rw [Exchange.whereabouts, if_neg hi.1]
  cases hmain : x.main with
  | idle => rfl
  | running j => simpa [hmain, MainPhase.ticket?, eq_comm] using hi.2
  | sending j r => simpa [hmain, MainPhase.ticket?, eq_comm] using hi.2

/-- A new job is not in hand yet. -/
theorem new_not_mem (h : Fits x) : x.tickets.length ∉ x.inHand :=
  fun hmem => Nat.lt_irrefl _ (h.below _ hmem)

/-! ### Changes of one job -/

/-- If one ticket is changed and the whereabouts of the others stay, only that one has to be looked
at. -/
theorem update (h : Fits x) {f : Ticket R → Ticket R}
    (htickets : y.tickets = x.tickets.modify i f) (hnodup : y.inHand.Nodup)
    (hsub : ∀ j ∈ y.inHand, j ∈ x.inHand) (hothers : ∀ j, j ≠ i → y.whereabouts j = x.whereabouts j)
    (hi : ∀ t, Standing (x.whereabouts i) t → x.tickets[i]? = some t →
      Standing (y.whereabouts i) (f t)) : Fits y where
  nodup := hnodup
  below j hj := by simpa [htickets] using h.below j (hsub j hj)
  standing j t hj := by
    rw [htickets, List.getElem?_modify] at hj
    obtain ⟨t', ht', rfl⟩ := Option.map_eq_some_iff.1 hj
    have hstands := h.standing j t' ht'
    by_cases hji : i = j
    · subst hji
      simpa using hi t' hstands ht'
    · rw [hothers j (Ne.symm hji)]
      simpa [hji] using hstands

/-- A step of a caller changes its own ticket only. -/
theorem caller (h : Fits x) {f : Ticket R → Ticket R} (ht : x.tickets[i]? = some t)
    (hf : Standing (x.whereabouts i) t → Standing (x.whereabouts i) (f t)) :
    Fits (x.update i f) :=
  h.update rfl h.nodup (fun _ hj => hj) (fun _ _ => rfl) fun t' hstands ht' => by
    obtain rfl := Option.some.inj (ht'.symm.trans ht)
    exact hf hstands

/-- A job that is added is the last. -/
theorem concat (h : Fits x) (htickets : y.tickets = x.tickets ++ [t]) (hnodup : y.inHand.Nodup)
    (hsub : ∀ j ∈ y.inHand, j ∈ x.inHand ∨ j = x.tickets.length)
    (hothers : ∀ j, j < x.tickets.length → y.whereabouts j = x.whereabouts j)
    (hnew : Standing (y.whereabouts x.tickets.length) t) : Fits y where
  nodup := hnodup
  below j hj := by
    rw [htickets, List.length_append, List.length_singleton]
    rcases hsub j hj with hj | rfl
    · exact Nat.lt_succ_of_lt (h.below j hj)
    · exact Nat.lt_succ_self _
  standing j t' hj := by
    rw [htickets] at hj
    rcases Nat.lt_trichotomy j x.tickets.length with hlt | rfl | hgt
    · rw [List.getElem?_append_left hlt] at hj
      rw [hothers j hlt]
      exact h.standing j t' hj
    · obtain rfl : t = t' := by simpa using hj
      exact hnew
    · rw [List.getElem?_eq_none (by simpa using Nat.succ_le_of_lt hgt)] at hj
      cases hj

/-! ### Steps -/

theorem leave (h : Fits x) :
    Fits { x with
      tickets := x.tickets ++ [.fresh], queue := x.queue ++ [x.tickets.length] } := by
  have hnew := h.new_not_mem
  have hperm : (x.queue ++ [x.tickets.length] ++ x.taken ++ x.main.ticket?.toList).Perm
      (x.tickets.length :: x.inHand) := by
    simp only [Exchange.inHand, List.append_assoc, List.singleton_append]
    exact List.perm_middle
  refine h.concat rfl (hperm.nodup_iff.2 (List.nodup_cons.2 ⟨hnew, h.nodup⟩)) ?_ ?_ ?_
  · intro j hj
    rcases List.mem_cons.1 (hperm.mem_iff.1 hj) with rfl | hj
    · exact .inr rfl
    · exact .inl hj
  · intro j hj
    simp only [Exchange.whereabouts, List.mem_append, List.mem_singleton, Nat.ne_of_lt hj,
      or_false]
  · have hheld : Exchange.whereabouts
        { x with tickets := x.tickets ++ [.fresh], queue := x.queue ++ [x.tickets.length] }
          x.tickets.length = .held := by simp [Exchange.whereabouts]
    rw [hheld]
    exact .left (.inl rfl)

theorem direct (h : Fits x) (r : R) : Fits { x with tickets := x.tickets ++ [.direct r] } := by
  refine h.concat rfl h.nodup (fun j hj => .inl hj) (fun _ _ => rfl) ?_
  have hgone : Exchange.whereabouts { x with tickets := x.tickets ++ [.direct r] }
      x.tickets.length = .gone := whereabouts_gone h.new_not_mem
  rw [hgone]
  exact .told r

theorem take (h : Fits x) (done : x.taken = []) :
    Fits { x with queue := [], taken := x.queue } := by
  have heq : Exchange.inHand { x with queue := [], taken := x.queue } = x.inHand := by
    simp [Exchange.inHand, done]
  refine ⟨heq ▸ h.nodup, heq ▸ h.below, fun i t ht => ?_⟩
  have hwhere : Exchange.whereabouts { x with queue := [], taken := x.queue } i =
      x.whereabouts i := by simp [Exchange.whereabouts, done]
  rw [hwhere]
  exact h.standing i t ht

/-- Where a job that the main thread has taken next is found otherwise. -/
theorem not_mem_rest (h : Fits x) {rest : List Nat} (next : x.taken = i :: rest) :
    i ∉ x.queue ++ rest := by
  have hnodup := (List.nodup_append.1 h.nodup).1
  rw [next] at hnodup
  exact (List.nodup_cons.1 (List.perm_middle.nodup_iff.1 hnodup)).1

theorem claim (h : Fits x) {rest : List Nat} (idle : x.main = .idle) (next : x.taken = i :: rest)
    (found : x.tickets[i]? = some t) (free : t.claimed = false) :
    Fits { x.update i fun t => { t with claimed := true } with
      taken := rest, main := .running i } := by
  have hperm : (x.queue ++ rest ++ [i]).Perm x.inHand := by
    simp only [Exchange.inHand, idle, next, MainPhase.ticket?, Option.toList_none,
      List.append_nil]
    exact (List.perm_append_singleton i (x.queue ++ rest)).trans List.perm_middle.symm
  have hnot := h.not_mem_rest next
  refine h.update rfl (hperm.nodup_iff.2 h.nodup) (fun j hj => hperm.mem_iff.1 hj) ?_ ?_
  · intro j hj
    simp [Exchange.whereabouts, Exchange.update, idle, next, hj, Ne.symm hj]
  · intro t' hstands ht'
    obtain rfl := Option.some.inj (ht'.symm.trans found)
    have hrunning : Exchange.whereabouts { x.update i fun t => { t with claimed := true } with
        taken := rest, main := .running i } i = .running := by
      simp [Exchange.whereabouts, Exchange.update, hnot]
    rw [hrunning]
    rw [whereabouts_taken next] at hstands
    cases hstands with
    | left hc => exact .running (by rcases hc with rfl | rfl <;> trivial)
    | givenUp live => cases free

theorem pass (h : Fits x) {rest : List Nat} (idle : x.main = .idle) (next : x.taken = i :: rest)
    (found : x.tickets[i]? = some t) (given : t.claimed = true) :
    Fits { x.update i Ticket.close with taken := rest } := by
  have hperm : (i :: Exchange.inHand { x.update i Ticket.close with taken := rest }).Perm
      x.inHand := by
    simp only [Exchange.inHand, Exchange.update, idle, next, MainPhase.ticket?, Option.toList_none,
      List.append_nil]
    exact List.perm_middle.symm
  have hnodup := List.nodup_cons.1 (hperm.nodup_iff.2 h.nodup)
  refine h.update rfl hnodup.2 (fun j hj => hperm.mem_iff.1 (List.mem_cons_of_mem i hj)) ?_ ?_
  · intro j hj
    simp [Exchange.whereabouts, Exchange.update, next, hj]
  · intro t' hstands ht'
    obtain rfl := Option.some.inj (ht'.symm.trans found)
    rw [whereabouts_gone hnodup.1]
    rw [whereabouts_taken next] at hstands
    cases hstands with
    | left hc => cases given
    | givenUp live => exact .passed false

theorem run (h : Fits x) (r : R) (busy : x.main = .running i) :
    Fits { x.update i fun t => { t with runs := t.runs ++ [r] } with main := .sending i r } := by
  have heq : Exchange.inHand { x.update i fun t => { t with runs := t.runs ++ [r] } with
      main := .sending i r } = x.inHand := by
    simp [Exchange.inHand, Exchange.update, busy, MainPhase.ticket?]
  have hnot := h.not_mem_held (i := i) (by rw [busy]; rfl)
  refine h.update rfl (heq ▸ h.nodup) (fun j hj => heq ▸ hj) ?_ ?_
  · intro j hj
    simp [Exchange.whereabouts, Exchange.update, busy, Ne.symm hj]
  · intro t hstands _
    have hsending : Exchange.whereabouts { x.update i fun t => { t with runs := t.runs ++ [r] } with
        main := .sending i r } i = .sending r := by
      simp [Exchange.whereabouts, Exchange.update, hnot]
    rw [hsending]
    rw [h.whereabouts_running busy] at hstands
    cases hstands with
    | running hc => exact .ran r hc

theorem send (h : Fits x) (r : R) (busy : x.main = .sending i r) :
    Fits { x.update i fun t => { t with message := some r, live := false } with
      main := .idle } := by
  have hin : x.inHand = x.queue ++ x.taken ++ [i] := by
    simp [Exchange.inHand, busy, MainPhase.ticket?]
  have hheld : Exchange.inHand
      { x.update i fun t => { t with message := some r, live := false } with main := .idle } =
        x.queue ++ x.taken := by
    simp [Exchange.inHand, Exchange.update, MainPhase.ticket?]
  have hnot := h.not_mem_held (i := i) (by rw [busy]; rfl)
  refine h.update rfl ?_ ?_ ?_ ?_
  · rw [hheld]
    exact (List.nodup_append.1 (hin ▸ h.nodup)).1
  · intro j hj
    rw [hheld] at hj
    rw [hin]
    exact List.mem_append_left _ hj
  · intro j hj
    simp [Exchange.whereabouts, Exchange.update, busy, Ne.symm hj]
  · intro t hstands _
    rw [whereabouts_gone (by rw [hheld]; exact hnot)]
    rw [h.whereabouts_sending busy] at hstands
    cases hstands with
    | ran r hc => exact .sent r hc

theorem clear (h : Fits x) : Fits x.dropQueue := by
  have hsub : x.dropQueue.inHand.Sublist x.inHand := by
    simp only [Exchange.inHand, Exchange.dropQueue, List.append_assoc]
    exact List.sublist_append_right x.queue _
  refine ⟨h.nodup.sublist hsub, fun j hj => ?_, fun j t hj => ?_⟩
  · simpa [Exchange.dropQueue] using h.below j (hsub.subset hj)
  obtain ⟨t', ht', rfl⟩ : ∃ t', x.tickets[j]? = some t' ∧
      (if j ∈ x.queue then t'.close else t') = t := by
    simpa [Exchange.dropQueue, List.getElem?_mapIdx] using hj
  have hstands := h.standing j t' ht'
  by_cases hqueue : j ∈ x.queue
  -- A job that was in the queue is nowhere else.
  · have hnodup := h.nodup
    rw [Exchange.inHand, List.append_assoc] at hnodup
    have hgone : x.dropQueue.whereabouts j = .gone := whereabouts_gone fun hj =>
      (List.nodup_append.1 hnodup).2.2 j hqueue j hj rfl
    have hheld : x.whereabouts j = .held := by simp [Exchange.whereabouts, hqueue]
    rw [if_pos hqueue, hgone]
    rw [hheld] at hstands
    cases hstands with
    | left hc => exact .dropped hc
    | givenUp live => exact .passed false
  · have hsame : x.dropQueue.whereabouts j = x.whereabouts j := by
      by_cases htaken : j ∈ x.taken <;>
        simp only [Exchange.whereabouts, Exchange.dropQueue, List.mem_append, List.not_mem_nil,
          hqueue, htaken, or_false, false_or, if_true, if_false]
    rw [if_neg hqueue, hsame]
    exact hstands

/-- **Each step of a caller or of the main thread keeps every job as it has to stand.** -/
theorem step (h : Fits x) (hstep : Exchange.Step x y) : Fits y := by
  cases hstep with
  | leave => exact h.leave
  | direct r => exact h.direct r
  | take idle done => exact h.take done
  | claim i rest t idle next found free => exact h.claim idle next found free
  | pass i rest t idle next found given => exact h.pass idle next found given
  | run i r busy => exact h.run r busy
  | send i r busy => exact h.send r busy
  | receive i t r found waits sent =>
    refine h.caller found fun hstands => ?_
    generalize x.whereabouts i = w at hstands ⊢
    cases hstands with
    | sent r' hc =>
      obtain rfl := Option.some.inj sent
      exact .told r'
    | left | dropped | givenUp | passed | running | ran | told => cases sent
  | expire i t found waits =>
    refine h.caller found fun hstands => ?_
    generalize x.whereabouts i = w at hstands ⊢
    cases hstands with
    | left hc => exact .left (.inr rfl)
    | dropped hc => exact .dropped (.inr rfl)
    | running hc => exact .running trivial
    | ran r hc => exact .ran r trivial
    | sent r hc => exact .sent r trivial
    | givenUp | passed | told => cases waits
  | giveUp i t found tired free =>
    refine h.caller found fun hstands => ?_
    generalize x.whereabouts i = w at hstands ⊢
    cases hstands with
    | left hc => exact .givenUp true
    | dropped hc => exact .passed false
    | givenUp | passed | running | ran | sent | told => cases free
  | insist i t found tired given =>
    refine h.caller found fun hstands => ?_
    generalize x.whereabouts i = w at hstands ⊢
    cases hstands with
    | running hc => exact .running trivial
    | ran r hc => exact .ran r trivial
    | sent r hc => exact .sent r trivial
    | givenUp | passed | told => cases tired
    | left | dropped => cases given
  | despair i t found waits unsent shut =>
    -- The main thread has claimed the job of a caller that insists, so a result is on its way.
    refine h.caller found fun hstands => ?_
    generalize x.whereabouts i = w at hstands ⊢
    cases hstands with
    | left hc | dropped hc => rcases hc with rfl | rfl <;> cases waits
    | givenUp | passed | told => cases waits
    | running | ran => cases shut
    | sent => cases unsent
  | clear => exact h.clear

end Fits

theorem fits_of_reachable {x : Exchange R} (h : ReflTransGen Exchange.Step .empty x) : Fits x := by
  induction h with
  | refl => exact fits_empty
  | tail _ hstep ih => exact ih.step hstep

/-! ### What a caller is told -/

section Told

variable {x y : Exchange R} {i : Nat} {t : Ticket R}

/-- No job is lost, and a caller that has been told something is told nothing else. -/
theorem caller_of_step (hstep : Exchange.Step x y) (ht : x.tickets[i]? = some t) :
    ∃ t', y.tickets[i]? = some t' ∧ (t.caller.Open ∨ t'.caller = t.caller) := by
  -- All steps that change a ticket leave the caller as it is, or find it still open.
  have hmodify : ∀ {j : Nat} {f : Ticket R → Ticket R},
      (j = i → t.caller.Open ∨ (f t).caller = t.caller) →
      ∃ t', (x.tickets.modify j f)[i]? = some t' ∧ (t.caller.Open ∨ t'.caller = t.caller) := by
    intro j f hf
    rw [List.getElem?_modify, ht]
    by_cases hji : j = i
    · exact ⟨f t, by simp [hji], hf hji⟩
    · exact ⟨t, by simp [hji], .inr rfl⟩
  have hconcat : ∀ new : Ticket R,
      ∃ t', (x.tickets ++ [new])[i]? = some t' ∧ (t.caller.Open ∨ t'.caller = t.caller) := by
    intro new
    obtain ⟨hlt, -⟩ := List.getElem?_eq_some_iff.1 ht
    exact ⟨t, by rw [List.getElem?_append_left hlt, ht], .inr rfl⟩
  have hown : ∀ {j : Nat} {t' : Ticket R}, x.tickets[j]? = some t' → j = i → t' = t := by
    rintro j t' hj rfl
    exact Option.some.inj (hj.symm.trans ht)
  cases hstep with
  | leave => exact hconcat _
  | direct r => exact hconcat _
  | take => exact ⟨t, ht, .inr rfl⟩
  | claim | pass | run | send => exact hmodify fun _ => .inr rfl
  | receive j t' r found waits sent =>
    refine hmodify fun hji => .inl ?_
    rw [← hown found hji]
    rcases waits with hw | hw <;> rw [hw] <;> trivial
  | expire j t' found waits =>
    refine hmodify fun hji => .inl ?_
    rw [← hown found hji, waits]
    trivial
  | giveUp j t' found tired free =>
    refine hmodify fun hji => .inl ?_
    rw [← hown found hji, tired]
    trivial
  | insist j t' found tired given =>
    refine hmodify fun hji => .inl ?_
    rw [← hown found hji, tired]
    trivial
  | despair j t' found waits unsent shut =>
    refine hmodify fun hji => .inl ?_
    rw [← hown found hji, waits]
    trivial
  | clear =>
    refine ⟨if i ∈ x.queue then t.close else t, ?_, .inr ?_⟩
    · simp [Exchange.dropQueue, List.getElem?_mapIdx, ht]
    · split <;> rfl

/-- What a caller has been told stays so. -/
theorem caller_of_steps (hsteps : ReflTransGen Exchange.Step x y) (ht : x.tickets[i]? = some t)
    (htold : ¬ t.caller.Open) : ∃ t', y.tickets[i]? = some t' ∧ t'.caller = t.caller := by
  induction hsteps with
  | refl => exact ⟨t, ht, rfl⟩
  | tail _ hstep ih =>
    obtain ⟨t₁, ht₁, hcaller⟩ := ih
    obtain ⟨t₂, ht₂, hopen | hsame⟩ := caller_of_step hstep ht₁
    · rw [hcaller] at hopen
      exact absurd hopen htold
    · exact ⟨t₂, ht₂, hsame.trans hcaller⟩

theorem Standing.length_runs_le {w : Whereabouts R} (h : Standing w t) : t.runs.length ≤ 1 := by
  cases h <;> simp

theorem Standing.runs_eq_nil {w : Whereabouts R} (h : Standing w t) (ht : t.caller = .timedOut) :
    t.runs = [] := by
  cases h with
  | left | dropped | givenUp | passed | running => rfl
  | ran _ hc | sent _ hc =>
    obtain rfl : _ = CallerPhase.timedOut := ht
    exact hc.elim
  | told r => cases ht

theorem Standing.runs_eq_singleton {w : Whereabouts R} {r : R} (h : Standing w t)
    (ht : t.caller = .received r) : t.runs = [r] := by
  cases h with
  | left hc | dropped hc => rcases hc with rfl | rfl <;> cases ht
  | givenUp | passed => cases ht
  | running hc | ran _ hc | sent _ hc =>
    obtain rfl : _ = CallerPhase.received r := ht
    exact hc.elim
  | told r' =>
    obtain rfl := CallerPhase.received.inj ht
    rfl

/-- **A job is handed over once or never, and its caller knows which.** In whatever order callers
and the main thread take their steps, a job runs at most once. If its caller was told that its
time ran out, the job has not run and will never run. If its caller received a result, the job has
run exactly once, with that result, and will not run again. -/
theorem handed_over_once_or_never (hreach : ReflTransGen Exchange.Step .empty x)
    (ht : x.tickets[i]? = some t) :
    t.runs.length ≤ 1 ∧
    (t.caller = .timedOut → ∀ y, ReflTransGen Exchange.Step x y →
      ∃ t', y.tickets[i]? = some t' ∧ t'.caller = .timedOut ∧ t'.runs = []) ∧
    ∀ r, t.caller = .received r → ∀ y, ReflTransGen Exchange.Step x y →
      ∃ t', y.tickets[i]? = some t' ∧ t'.caller = .received r ∧ t'.runs = [r] := by
  have hlater : ∀ y, ReflTransGen Exchange.Step x y → ∀ t', y.tickets[i]? = some t' →
      Standing (y.whereabouts i) t' :=
    fun y hy t' ht' => (fits_of_reachable (hreach.trans hy)).standing i t' ht'
  refine ⟨(hlater x .refl t ht).length_runs_le, fun hout y hy => ?_, fun r hr y hy => ?_⟩
  · obtain ⟨t', ht', hcaller⟩ := caller_of_steps hy ht (by rw [hout]; exact id)
    rw [hout] at hcaller
    exact ⟨t', ht', hcaller, (hlater y hy t' ht').runs_eq_nil hcaller⟩
  · obtain ⟨t', ht', hcaller⟩ := caller_of_steps hy ht (by rw [hr]; exact id)
    rw [hr] at hcaller
    exact ⟨t', ht', hcaller, (hlater y hy t' ht').runs_eq_singleton hcaller⟩

/-! ### A race -/

/-- Two callers lose their patience while the main thread is about to claim their jobs: it comes
before the first of them and behind the second. -/
def race : Exchange Nat :=
  ⟨[⟨.received 42, true, [42], none, false⟩, ⟨.timedOut, true, [], none, false⟩], [], [], .idle⟩

theorem reachable_race : ReflTransGen Exchange.Step .empty race := by
  have hleft : ReflTransGen Exchange.Step (.empty : Exchange Nat)
      ⟨[.fresh, .fresh], [0, 1], [], .idle⟩ :=
    (ReflTransGen.single (.leave .empty)).tail (.leave ⟨[.fresh], [0], [], .idle⟩)
  have htaken := hleft.tail (.take _ rfl rfl)
  have hfirst := htaken.tail (.expire _ 0 _ rfl rfl)
  have hsecond := hfirst.tail (.expire _ 1 _ rfl rfl)
  have hclaimed := hsecond.tail (.claim _ 0 [1] _ rfl rfl rfl rfl)
  have hgivenUp := hclaimed.tail (.giveUp _ 1 _ rfl rfl rfl)
  have hinsists := hgivenUp.tail (.insist _ 0 _ rfl rfl rfl)
  have hran := hinsists.tail (.run _ 0 42 rfl)
  have hsent := hran.tail (.send _ 0 42 rfl)
  have hpassed := hsent.tail (.pass _ 1 [] _ rfl rfl rfl rfl)
  exact hpassed.tail (.receive _ 0 _ 42 rfl (.inr rfl) rfl)

theorem handed_over_once_or_never_race :
    ReflTransGen Exchange.Step .empty race ∧
    (∀ y, ReflTransGen Exchange.Step race y →
      ∃ t', y.tickets[0]? = some t' ∧ t'.caller = .received 42 ∧ t'.runs = [42]) ∧
    ∀ y, ReflTransGen Exchange.Step race y →
      ∃ t', y.tickets[1]? = some t' ∧ t'.caller = .timedOut ∧ t'.runs = [] :=
  ⟨reachable_race, (handed_over_once_or_never (i := 0) reachable_race rfl).2.2 42 rfl,
    (handed_over_once_or_never (i := 1) reachable_race rfl).2.1 rfl⟩

end Told

end TriggerScript.Handoff

import TriggerScript.Proofs.Diagnostics.Frames

/-!
# Frames inside frames

A frame that is closed with its best error leaves one error where the frame was. The best error of
all is the same whether the errors of the inner frames were gathered one by one or each frame first
gave up its best, since of two errors that are as specific the earlier one is always kept.

* `Operation`, `Log.perform` : what can be done with a log, with any handle at any time.
* `EarliestBest` : the first of the most specific errors.
* `bestError_append` : the best of two lists is the better of their best errors.
* `Bracketed` : a well-bracketed sequence, and the errors in it that no frame drops.
* `Bracketed.performAll` : what such a sequence leaves in the frame around it.
* `Log.Tallied` : the counts are those of the emitted entries.
* `best_error_whatever_the_frames` : what the outermost frame emits, and the counts.
-/

namespace TriggerScript

/-! ### The better of two errors -/

/-- An entry of a list is more specific than those before it and no less so than those behind it. -/
def EarliestBest (entries : List Entry) (e : Entry) : Prop :=
  ∃ before after, entries = before ++ e :: after ∧
    (∀ x ∈ before, x.quality.rank < e.quality.rank) ∧ ∀ x ∈ after, x.quality.rank ≤ e.quality.rank

/-- The better of two errors that may be missing; the first if they are as specific. -/
def better (a b : Option Entry) : Option Entry :=
  b.elim a (betterError a)

@[simp] theorem better_none (a : Option Entry) : better a none = a := rfl

@[simp] theorem none_better (a : Option Entry) : better none a = a := by
  cases a <;> rfl

theorem betterError_some (a b : Entry) :
    betterError (some a) b = some (if b.quality.rank ≤ a.quality.rank then a else b) := by
  rw [betterError]
  split <;> rfl

theorem better_assoc (a b c : Option Entry) : better (better a b) c = better a (better b c) := by
  cases a with
  | none => rw [none_better, none_better]
  | some a =>
    cases b with
    | none => rw [better_none, none_better]
    | some b =>
      cases c with
      | none => rfl
      | some c =>
        simp only [better, Option.elim_some, betterError_some]
        grind

theorem foldl_betterError (best : Option Entry) (entries : List Entry) :
    entries.foldl betterError best = better best (entries.foldl betterError none) := by
  induction entries generalizing best with
  | nil => rfl
  | cons e rest ih =>
    rw [List.foldl_cons, List.foldl_cons, ih, ih (betterError none e), ← better_assoc]
    rfl

/-- **The best of two lists is the better of their best errors.** -/
theorem bestError_append (entries more : List Entry) :
    bestError (entries ++ more) = better (bestError entries) (bestError more) := by
  rw [bestError, List.filter_append, List.foldl_append, foldl_betterError]
  rfl

theorem bestError_singleton {e : Entry} (h : e.isError) : bestError [e] = some e := by
  simp [bestError, h, betterError]

theorem bestError_cons {e : Entry} (h : e.isError) (rest : List Entry) :
    bestError (e :: rest) = better (some e) (bestError rest) := by
  rw [← bestError_singleton h, ← bestError_append, List.singleton_append]

/-- Warnings do not count. -/
theorem bestError_of_errorsOf_eq_nil {entries : List Entry} (h : errorsOf entries = []) :
    bestError entries = none := by
  rw [← bestError_errorsOf, h]
  rfl

/-- A best error says as much as the entries that it is the best of. -/
theorem bestError_toList (entries : List Entry) :
    bestError (bestError entries).toList = bestError entries := by
  cases hbest : bestError entries with
  | none => rfl
  | some e => exact bestError_singleton (isError_of_bestError hbest)

/-- **The best error is the first of the most specific ones.** -/
theorem earliestBest_of_bestError {entries : List Entry} (hall : ∀ e ∈ entries, e.isError = true)
    {e : Entry} (h : bestError entries = some e) : EarliestBest entries e := by
  induction entries generalizing e with
  | nil => cases h
  | cons first rest ih =>
    obtain ⟨hfirst, hrest⟩ := List.forall_mem_cons.1 hall
    rw [bestError_cons hfirst] at h
    cases hlater : bestError rest with
    | none =>
      have hnone : rest = [] := by
        refine Classical.byContradiction fun hne => ?_
        have herrors : errorsOf rest ≠ [] := by
          rwa [show errorsOf rest = rest from List.filter_eq_self.2 hrest]
        have hsome := bestError_isSome herrors
        rw [hlater] at hsome
        cases hsome
      rw [hlater, better_none] at h
      obtain rfl := Option.some.inj h
      exact ⟨[], rest, rfl, List.forall_mem_nil _, by simp [hnone]⟩
    | some x =>
      obtain ⟨before, after, rfl, hbefore, hafter⟩ := ih hrest hlater
      rw [hlater, better, Option.elim_some, betterError_some] at h
      split at h
      · next hle =>
        -- The first error stays, since no later one is more specific than `x`.
        obtain rfl := Option.some.inj h
        refine ⟨[], _, rfl, List.forall_mem_nil _, fun y hy => ?_⟩
        rcases List.mem_append.1 hy with hy | hy
        · exact Nat.le_of_lt (Nat.lt_of_lt_of_le (hbefore y hy) hle)
        · rcases List.mem_cons.1 hy with rfl | hy
          · exact hle
          · exact Nat.le_trans (hafter y hy) hle
      · next hlt =>
        obtain rfl := Option.some.inj h
        exact ⟨first :: before, after, rfl,
          List.forall_mem_cons.2 ⟨Nat.lt_of_not_le hlt, hbefore⟩, hafter⟩

/-! ### Operations -/

/-- Something that is done with a log. Frames are closed by their handles. -/
inductive Operation where
  | locate (location : Option Location)
  | error (message : String) (quality : Quality)
  | warning (message : String)
  | enter
  | closeSuccess (handle : Log.Handle)
  | closeBest (handle : Log.Handle) (default : Option (String × Quality))
  | closeDiscard (handle : Log.Handle)
  | take
  deriving DecidableEq

/-- Does something with a log. -/
def Log.perform (log : Log) : Operation → Log
  | .locate location => log.setLocation location
  | .error message quality => log.error message quality
  | .warning message => log.warning message
  | .enter => log.enter.2
  | .closeSuccess handle => log.closeSuccess handle
  | .closeBest handle default => log.closeBest handle default
  | .closeDiscard handle => log.closeDiscard handle
  | .take => log.take.2

/-- Does several things with a log, one after the other. -/
def Log.performAll (log : Log) (operations : List Operation) : Log :=
  operations.foldl perform log

namespace Log

theorem performAll_cons (log : Log) (operation : Operation) (rest : List Operation) :
    log.performAll (operation :: rest) = (log.perform operation).performAll rest := rfl

/-- A frame that leaves some entries when it is closed, and what comes behind it. -/
theorem exists_addAll_bracket {log : Log} {inside rest : List Operation} {close : Operation}
    {entries out : List Entry} {best : Option Entry}
    (hinside : log.enter.2.performAll inside = log.enter.2.addAll entries)
    (hclose : (log.enter.2.addAll entries).perform close = log.addAll out)
    (hrest : ∃ more, (log.addAll out).performAll rest = (log.addAll out).addAll more ∧
      bestError more = best) :
    ∃ all, log.performAll (.enter :: (inside ++ close :: rest)) = log.addAll all ∧
      bestError all = better (bestError out) best := by
  obtain ⟨more, hmore, rfl⟩ := hrest
  refine ⟨out ++ more, ?_, bestError_append out more⟩
  rw [addAll_append, ← hmore, ← hclose, ← hinside]
  simp [performAll, perform]

end Log

/-- A well-bracketed sequence of entries and frames where some frames are open already, and the
errors in it that are inside no frame that drops them. A frame is closed by the handle that opening
it gave. -/
inductive Bracketed (location : Option Location) :
    Nat → List Operation → List Entry → Prop where
  | nil {depth : Nat} : Bracketed location depth [] []
  | error {depth : Nat} {rest : List Operation} {kept : List Entry} (message : String)
    (quality : Quality) (h : Bracketed location depth rest kept) :
    Bracketed location depth (.error message quality :: rest)
      (.error location message quality :: kept)
  | warning {depth : Nat} {rest : List Operation} {kept : List Entry} (message : String)
    (h : Bracketed location depth rest kept) :
    Bracketed location depth (.warning message :: rest) kept
  | best {depth : Nat} {inside rest : List Operation} {kept later : List Entry}
    (hinside : Bracketed location (depth + 1) inside kept)
    (h : Bracketed location depth rest later) :
    Bracketed location depth (.enter :: (inside ++ .closeBest (depth + 1) none :: rest))
      (kept ++ later)
  | success {depth : Nat} {inside rest : List Operation} {dropped kept : List Entry}
    (hinside : Bracketed location (depth + 1) inside dropped)
    (h : Bracketed location depth rest kept) :
    Bracketed location depth (.enter :: (inside ++ .closeSuccess (depth + 1) :: rest)) kept
  | discard {depth : Nat} {inside rest : List Operation} {dropped kept : List Entry}
    (hinside : Bracketed location (depth + 1) inside dropped)
    (h : Bracketed location depth rest kept) :
    Bracketed location depth (.enter :: (inside ++ .closeDiscard (depth + 1) :: rest)) kept

namespace Bracketed

variable {location : Option Location} {depth : Nat} {operations : List Operation}
  {kept : List Entry}

theorem isError_of_mem (h : Bracketed location depth operations kept) :
    ∀ e ∈ kept, e.isError = true := by
  induction h with
  | nil => exact List.forall_mem_nil _
  | error message quality _ ih => exact List.forall_mem_cons.2 ⟨rfl, ih⟩
  | warning _ _ ih => exact ih
  | best _ _ ihinside ih => exact List.forall_mem_append.2 ⟨ihinside, ih⟩
  | success _ _ _ ih => exact ih
  | discard _ _ _ ih => exact ih

/-- **A well-bracketed sequence leaves entries around it whose best error is that of the errors in
it,** however they are bracketed. -/
theorem performAll (h : Bracketed location depth operations kept) {log : Log}
    (hlocation : log.location = location) (hdepth : log.frames.length = depth) :
    ∃ entries, log.performAll operations = log.addAll entries ∧
      bestError entries = bestError kept := by
  induction h generalizing log with
  | nil => exact ⟨[], rfl, rfl⟩
  | error message quality h ih =>
    obtain ⟨entries, hperform, hbest⟩ := ih ((log.location_add _).trans hlocation)
      ((log.length_frames_add (.error location message quality)).trans hdepth)
    refine ⟨.error location message quality :: entries, ?_, ?_⟩
    · rw [Log.performAll_cons, Log.addAll_cons, ← hperform, ← hlocation]
      rfl
    · rw [bestError_cons rfl, bestError_cons rfl, hbest]
  | warning message h ih =>
    obtain ⟨entries, hperform, hbest⟩ := ih ((log.location_add _).trans hlocation)
      ((log.length_frames_add (.warning location message)).trans hdepth)
    refine ⟨.warning location message :: entries, ?_, ?_⟩
    · rw [Log.performAll_cons, Log.addAll_cons, ← hperform, ← hlocation]
      rfl
    · rw [← hbest]
      rfl
  | best hinside h ihinside ih =>
    subst hdepth
    obtain ⟨entries, hperform, hbest⟩ := @ihinside log.enter.2 hlocation rfl
    have hclose : (log.enter.2.addAll entries).perform (.closeBest (log.frames.length + 1) none) =
        log.addAll (bestError entries).toList := by
      have hbest := log.closeBest_addAll_enter entries none
      rwa [Option.map_none, Option.or_none] at hbest
    rw [bestError_append, ← hbest, ← bestError_toList]
    exact Log.exists_addAll_bracket hperform hclose
      (ih ((log.location_addAll _).trans hlocation) (log.length_frames_addAll _))
  | success hinside h ihinside ih =>
    subst hdepth
    obtain ⟨entries, hperform, -⟩ := @ihinside log.enter.2 hlocation rfl
    have hclose : (log.enter.2.addAll entries).perform (.closeSuccess (log.frames.length + 1)) =
        log.addAll (warningsOf entries) := log.closeSuccess_addAll_enter entries
    rw [← none_better (bestError _),
      ← bestError_of_errorsOf_eq_nil (errorsOf_warningsOf entries)]
    exact Log.exists_addAll_bracket hperform hclose
      (ih ((log.location_addAll _).trans hlocation) (log.length_frames_addAll _))
  | discard hinside h ihinside ih =>
    subst hdepth
    obtain ⟨entries, hperform, -⟩ := @ihinside log.enter.2 hlocation rfl
    have hclose : (log.enter.2.addAll entries).perform (.closeDiscard (log.frames.length + 1)) =
        log.addAll [] := log.closeDiscard_addAll_enter entries
    rw [← none_better (bestError _)]
    exact Log.exists_addAll_bracket hperform hclose (ih hlocation rfl)

end Bracketed

/-! ### The counts -/

namespace Log

/-- The counts are those of the errors and of the warnings that were emitted. -/
def Tallied (log : Log) : Prop :=
  log.counts = ((errorsOf log.emitted).length, (warningsOf log.emitted).length)

namespace Tallied

variable {log : Log}

theorem of_same {log' : Log} (h : log.Tallied) (hcounts : log'.counts = log.counts)
    (hemitted : log'.emitted = log.emitted) : log'.Tallied := by
  rw [Tallied, hcounts, hemitted]
  exact h

theorem add (h : log.Tallied) (e : Entry) : (log.add e).Tallied := by
  have hcounts := Prod.mk.inj h
  cases hframes : log.frames with
  | nil => cases hseverity : e.severity <;>
      simp [Tallied, counts, Log.add, emit, hframes, hseverity, errorsOf, warningsOf,
        Entry.isError, Entry.isWarning] <;>
      simpa [errorsOf, warningsOf, Entry.isError, Entry.isWarning] using hcounts
  | cons frame outer =>
    exact h.of_same (by simp [counts, Log.add, hframes]) (by simp [Log.add, hframes])

theorem addAll (h : log.Tallied) (entries : List Entry) : (log.addAll entries).Tallied := by
  induction entries generalizing log with
  | nil => exact h
  | cons e rest ih => exact ih (h.add e)

theorem pop (h : log.Tallied) (handle : Handle) : (log.pop handle).2.Tallied := by
  unfold Log.pop
  split
  · exact h
  · split
    · exact h
    · exact h.of_same rfl rfl

theorem closeSuccess (h : log.Tallied) (handle : Handle) : (log.closeSuccess handle).Tallied := by
  have hpopped := h.pop handle
  unfold Log.closeSuccess
  split
  · next heq => rw [heq] at hpopped; exact hpopped.addAll _
  · next heq => rwa [heq] at hpopped

theorem closeBest (h : log.Tallied) (handle : Handle) (default : Option (String × Quality)) :
    (log.closeBest handle default).Tallied := by
  have hpopped := h.pop handle
  unfold Log.closeBest
  split
  · next heq => rwa [heq] at hpopped
  · next heq =>
    rw [heq] at hpopped
    split
    · exact hpopped.add _
    · split
      · exact hpopped.add _
      · exact hpopped

/-- **Whatever is done with a log, it counts what it emits.** -/
theorem perform (h : log.Tallied) (operation : Operation) : (log.perform operation).Tallied := by
  cases operation with
  | locate location => exact h.of_same rfl rfl
  | error message quality => exact h.add _
  | warning message => exact h.add _
  | enter => exact h.of_same rfl rfl
  | closeSuccess handle => exact h.closeSuccess handle
  | closeBest handle default => exact h.closeBest handle default
  | closeDiscard handle => exact h.pop handle
  | take => rfl

theorem performAll (h : log.Tallied) (operations : List Operation) :
    (log.performAll operations).Tallied :=
  List.foldlRecOn operations Log.perform h fun _ h operation _ => h.perform operation

end Tallied

end Log

/-- **The best error does not depend on the frames.** Around a well-bracketed sequence, the
outermost frame emits the earliest of the most specific errors that no inner frame drops, and if
there is none the error that closing it was given. Whatever else is done with a log, with handles of
closed frames too, its counts are those of the entries emitted since they were last handed out. -/
theorem best_error_whatever_the_frames :
    (∀ (log : Log) (operations : List Operation) (kept : List Entry)
        (default : Option (String × Quality)), log.frames = [] →
      Bracketed log.location 1 operations kept →
        let after := log.performAll (.enter :: (operations ++ [.closeBest 1 default]))
        after.frames = [] ∧
        (kept = [] → after.emitted =
          log.emitted ++ (default.map fun d => .error log.location d.1 d.2).toList) ∧
        (kept ≠ [] → ∃ e, EarliestBest kept e ∧ after.emitted = log.emitted ++ [e])) ∧
    ∀ operations : List Operation,
      let after := Log.empty.performAll operations
      after.counts = ((errorsOf after.emitted).length, (warningsOf after.emitted).length) := by
  constructor
  · intro log operations kept default hframes hbracketed after
    have hdepth : log.enter.2.frames.length = 1 := by simp [Log.enter, hframes]
    have hhandle : log.enter.1 = 1 := by simp [Log.enter, hframes]
    obtain ⟨entries, hperform, hbest⟩ :=
      @Bracketed.performAll _ _ _ _ hbracketed log.enter.2 rfl hdepth
    have hclose := log.closeBest_addAll_enter entries default
    rw [hhandle, hbest] at hclose
    have hafter : after = log.addAll ((bestError kept).or
        (default.map fun d => .error log.location d.1 d.2)).toList := by
      rw [← hclose, ← hperform]
      simp [after, Log.performAll, Log.perform]
    have hemitted := Log.emitted_addAll hframes ((bestError kept).or
      (default.map fun d => .error log.location d.1 d.2)).toList
    rw [hafter]
    refine ⟨?_, ?_, ?_⟩
    · rw [← List.length_eq_zero_iff, Log.length_frames_addAll, hframes, List.length_nil]
    · rintro rfl
      exact hemitted
    · intro hne
      have herrors : errorsOf kept ≠ [] := by
        rwa [show errorsOf kept = kept from List.filter_eq_self.2 hbracketed.isError_of_mem]
      obtain ⟨e, he⟩ := Option.isSome_iff_exists.1 (bestError_isSome herrors)
      rw [he] at hemitted
      exact ⟨e, earliestBest_of_bestError hbracketed.isError_of_mem he, he ▸ hemitted⟩
  · intro operations
    have hempty : Log.empty.Tallied := rfl
    exact hempty.performAll operations

/-- Attempts inside one that fails: one fails with a more specific error, and one succeeds. -/
def nestedAttempts : List Operation :=
  [.error "not a number" .notExpression, .enter, .warning "no and", .error "too many" .semantic,
    .closeBest 2 none, .enter, .error "no such loop" .semantic, .closeSuccess 2,
    .error "not here" .semantic]

/-- The errors of these attempts that count. -/
def nestedErrors : List Entry :=
  [.error none "not a number" .notExpression, .error none "too many" .semantic,
    .error none "not here" .semantic]

theorem bracketed_nestedAttempts : Bracketed none 1 nestedAttempts nestedErrors := by
  have hfailed : Bracketed none 2 [.warning "no and", .error "too many" .semantic]
      [.error none "too many" .semantic] := .warning _ (.error _ _ .nil)
  have hdropped : Bracketed none 2 [.error "no such loop" .semantic]
      [.error none "no such loop" .semantic] := .error _ _ .nil
  exact .error _ _ (.best hfailed (.success hdropped (.error _ _ .nil)))

theorem best_error_whatever_the_frames_nestedAttempts :
    Log.empty.frames = [] ∧ Bracketed Log.empty.location 1 nestedAttempts nestedErrors ∧
      nestedErrors ≠ [] ∧ ∃ e, EarliestBest nestedErrors e ∧
        (Log.empty.performAll (.enter :: (nestedAttempts ++ [.closeBest 1 none]))).emitted =
          [e] := by
  have hne : nestedErrors ≠ [] := List.cons_ne_nil _ _
  exact ⟨rfl, bracketed_nestedAttempts, hne,
    (best_error_whatever_the_frames.1 .empty _ _ none rfl bracketed_nestedAttempts).2.2 hne⟩

end TriggerScript

import TriggerScript.Diagnostics.Log

/-!
# Frames of the log

An attempt is logged in a frame of its own. While it goes on, entries collect in the frame; when
the frame is closed, some of them go one level out.

* `errorsOf` : the errors among some entries.
* `mem_of_bestError`, `bestError_isSome` : the best error is one of the errors, if there are any.
* `Log.errorsHere` : how many errors the innermost frame holds, or the root if no frame is open.
* `addAll_frames` : where entries collect while a frame is open.
* `closeSuccess_addAll_enter`, `closeBest_addAll_enter`, `closeDiscard_addAll_enter` : what a frame
  leaves when it is closed.
-/

namespace TriggerScript

/-- The errors among the entries. -/
def errorsOf (entries : List Entry) : List Entry :=
  entries.filter Entry.isError

@[simp] theorem errorsOf_nil : errorsOf [] = [] := rfl

@[simp] theorem errorsOf_append (a b : List Entry) : errorsOf (a ++ b) = errorsOf a ++ errorsOf b :=
  List.filter_append a b

theorem errorsOf_cons (e : Entry) (rest : List Entry) :
    errorsOf (e :: rest) = errorsOf [e] ++ errorsOf rest :=
  errorsOf_append [e] rest

theorem bestError_errorsOf (entries : List Entry) :
    bestError (errorsOf entries) = bestError entries := by
  simp only [bestError, errorsOf, List.filter_filter, Bool.and_self]

theorem errorsOf_warningsOf (entries : List Entry) : errorsOf (warningsOf entries) = [] := by
  simp only [errorsOf, warningsOf, List.filter_filter, List.filter_eq_nil_iff, Entry.isError,
    Entry.isWarning]
  intro e _
  cases e.severity <;> decide

/-! ### The best error -/

theorem mem_of_foldl_betterError {entries : List Entry} {best : Option Entry} {e : Entry}
    (h : entries.foldl betterError best = some e) : best = some e ∨ e ∈ entries := by
  induction entries generalizing best with
  | nil => exact .inl h
  | cons first rest ih =>
    rw [List.foldl_cons] at h
    rcases ih h with hbetter | hrest
    · unfold betterError at hbetter
      split at hbetter
      · split at hbetter
        · exact .inl hbetter
        · exact .inr (by simp [Option.some.inj hbetter])
      · exact .inr (by simp [Option.some.inj hbetter])
    · exact .inr (List.mem_cons_of_mem _ hrest)

theorem foldl_betterError_isSome {entries : List Entry} {best : Option Entry}
    (h : best.isSome ∨ entries ≠ []) : (entries.foldl betterError best).isSome := by
  induction entries generalizing best with
  | nil => simpa using h
  | cons first rest ih =>
    refine ih (.inl ?_)
    cases best with
    | none => rfl
    | some b =>
      unfold betterError
      dsimp only
      split <;> rfl

theorem bestError_isSome {entries : List Entry} (h : errorsOf entries ≠ []) :
    (bestError entries).isSome :=
  foldl_betterError_isSome (.inr h)

theorem isError_of_bestError {entries : List Entry} {e : Entry} (h : bestError entries = some e) :
    e.isError := by
  rcases mem_of_foldl_betterError h with hnone | hmem
  · cases hnone
  · exact (List.mem_filter.1 hmem).2

theorem mem_of_bestError {entries : List Entry} {e : Entry} (h : bestError entries = some e) :
    e ∈ entries := by
  rcases mem_of_foldl_betterError h with hnone | hmem
  · cases hnone
  · exact (List.mem_filter.1 hmem).1

/-! ### Adding entries -/

namespace Log

variable (log : Log) (entries : List Entry)

@[simp] theorem addAll_nil : log.addAll [] = log := rfl

@[simp] theorem addAll_cons (e : Entry) :
    log.addAll (e :: entries) = (log.add e).addAll entries := rfl

theorem addAll_append (more : List Entry) :
    log.addAll (entries ++ more) = (log.addAll entries).addAll more :=
  List.foldl_append

@[simp] theorem location_add (e : Entry) : (log.add e).location = log.location := by
  unfold add emit
  split
  · split <;> rfl
  · rfl

@[simp] theorem location_addAll : (log.addAll entries).location = log.location := by
  induction entries generalizing log with
  | nil => rfl
  | cons e rest ih => rw [addAll_cons, ih, location_add]

theorem length_frames_add (e : Entry) : (log.add e).frames.length = log.frames.length := by
  unfold add emit
  split
  · split <;> rfl
  · next h => simp [h]

@[simp] theorem length_frames_addAll : (log.addAll entries).frames.length = log.frames.length := by
  induction entries generalizing log with
  | nil => rfl
  | cons e rest ih => rw [addAll_cons, ih, length_frames_add]

/-- How many errors the innermost frame holds, or the root if no frame is open. -/
def errorsHere : Nat :=
  match log.frames with
  | [] => log.errors
  | frame :: _ => frame.errors.length

theorem errorsHere_add (e : Entry) :
    (log.add e).errorsHere = log.errorsHere + (errorsOf [e]).length := by
  cases hframes : log.frames with
  | nil => cases hseverity : e.severity <;>
      simp [add, emit, errorsHere, errorsOf, Entry.isError, hframes, hseverity]
  | cons frame outer => cases hseverity : e.severity <;>
      simp [add, errorsHere, errorsOf, Entry.isError, hframes, hseverity]

theorem errorsHere_addAll :
    (log.addAll entries).errorsHere = log.errorsHere + (errorsOf entries).length := by
  induction entries generalizing log with
  | nil => rfl
  | cons e rest ih =>
    rw [addAll_cons, ih, errorsHere_add, errorsOf_cons e rest, List.length_append, Nat.add_assoc]

/-- At the root, entries are emitted at once. -/
theorem emitted_addAll {log : Log} (h : log.frames = []) (entries : List Entry) :
    (log.addAll entries).emitted = log.emitted ++ entries := by
  induction entries generalizing log with
  | nil => simp
  | cons e rest ih =>
    have hadd : (log.add e).frames = [] ∧ (log.add e).emitted = log.emitted ++ [e] := by
      cases hseverity : e.severity <;> simp [add, emit, h, hseverity]
    rw [addAll_cons, ih hadd.1, hadd.2, List.append_assoc, List.singleton_append]

/-! ### An open frame -/

/-- While a frame is open, all entries collect in it. -/
theorem addAll_frames (frame : LogFrame) (outer : List LogFrame) :
    { log with frames := frame :: outer }.addAll entries =
      { log with frames := ⟨frame.errors ++ errorsOf entries,
        frame.warnings ++ warningsOf entries⟩ :: outer } := by
  induction entries generalizing frame with
  | nil => simp
  | cons e rest ih =>
    rw [addAll_cons]
    cases hseverity : e.severity <;>
      simp [add, hseverity, ih, errorsOf, warningsOf, Entry.isError, Entry.isWarning]

theorem pop_addAll_enter :
    (log.enter.2.addAll entries).pop log.enter.1 =
      (some ⟨errorsOf entries, warningsOf entries⟩, log) := by
  have hframes := addAll_frames log entries ⟨[], []⟩ log.frames
  rw [show log.enter.2 = { log with frames := ⟨[], []⟩ :: log.frames } from rfl, hframes]
  simp [enter, pop]

/-- The frame of an attempt that succeeded leaves its warnings. -/
theorem closeSuccess_addAll_enter :
    (log.enter.2.addAll entries).closeSuccess log.enter.1 = log.addAll (warningsOf entries) := by
  rw [closeSuccess, pop_addAll_enter]

/-- A frame that is dropped leaves nothing. -/
theorem closeDiscard_addAll_enter : (log.enter.2.addAll entries).closeDiscard log.enter.1 = log := by
  rw [closeDiscard, pop_addAll_enter]

/-- The frame of an attempt that failed leaves its best error, or else the given one. -/
theorem closeBest_addAll_enter (default : Option (String × Quality)) :
    (log.enter.2.addAll entries).closeBest log.enter.1 default =
      log.addAll ((bestError entries).or
        (default.map fun d => .error log.location d.1 d.2)).toList := by
  rw [closeBest, pop_addAll_enter]
  simp only [bestError_errorsOf]
  cases bestError entries with
  | some e => rfl
  | none => cases default <;> rfl

end Log

end TriggerScript

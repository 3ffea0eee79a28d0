import TriggerScript.Proofs.Parsing.Takes

/-!
# What a reading leaves behind

A reading that fails says so once, and one that succeeds says nothing wrong. All else on the desk is
afterwards as it was before.

* `Attempt.Tidy` : one error is left if the attempt failed, and none if it succeeded.
* `Attempt.Complains`, `Setup.Complains` : what fails has left an error.
* `complains_parseSingle` : every way to fail to read one value leaves an error.
* `tidy_parseWithin` : nested expressions, by induction on the levels.
* `Desk.Reported` : what a reading may change on a desk.
* `readings_reported` : expressions, statements, conditions and headers.
-/

namespace TriggerScript

namespace Attempt

variable {α β : Type}

/-- One error is left if the attempt failed, and none if it succeeded. -/
def Tidy (a : Attempt α) : Prop :=
  (errorsOf a.entries).length = if a.result.isSome then 0 else 1

/-- If the attempt failed, it has left an error. -/
def Complains (a : Attempt α) : Prop :=
  a.result = none → errorsOf a.entries ≠ []

theorem Tidy.complains {a : Attempt α} (h : a.Tidy) : a.Complains := by
  intro hnone hnil
  simp [Tidy, hnone, hnil] at h

theorem tidy_ok (x : α) : (ok x).Tidy := rfl

theorem tidy_refuse (location : Option Location) (message : String) (quality : Quality) :
    (refuse location message quality : Attempt α).Tidy := rfl

theorem complains_refuse (location : Option Location) (message : String) (quality : Quality) :
    (refuse location message quality : Attempt α).Complains :=
  (tidy_refuse ..).complains

theorem complains_ok (x : α) : (ok x).Complains :=
  (tidy_ok x).complains

/-- An error may have been left before. -/
theorem complains_after {entries : List Entry} {a : Attempt α}
    (h : errorsOf entries ≠ [] ∨ a.Complains) : (a.after entries).Complains := by
  intro hnone
  change errorsOf (entries ++ a.entries) ≠ []
  rw [errorsOf_append]
  rcases h with h | h
  · exact List.append_ne_nil_of_left_ne_nil h _
  · exact List.append_ne_nil_of_right_ne_nil _ (h hnone)

theorem Tidy.bind {a : Attempt α} {f : α → Attempt β} (ha : a.Tidy)
    (hf : ∀ x, a.result = some x → (f x).Tidy) : (a.bind f).Tidy := by
  unfold Tidy at ha
  unfold Attempt.bind
  cases hresult : a.result with
  | none => simpa [Tidy, hresult] using ha
  | some x =>
    have hnil : errorsOf a.entries = [] := by simpa [hresult] using ha
    change (errorsOf (a.entries ++ (f x).entries)).length = _
    rw [errorsOf_append, hnil]
    exact hf x hresult

theorem Complains.bind {a : Attempt α} {f : α → Attempt β} (ha : a.Complains)
    (hf : ∀ x, (f x).Complains) : (a.bind f).Complains := by
  unfold Attempt.bind
  cases hresult : a.result with
  | none => exact fun _ => ha hresult
  | some x => exact complains_after (.inr (hf x))

/-- One complaint is enough: that of the first attempt or that of the second. -/
theorem complains_orElse {a : Attempt α} {b : Unit → Attempt α}
    (h : a.Complains ∨ (b ()).Complains) : (a.orElse b).Complains := by
  unfold Attempt.orElse
  cases hresult : a.result with
  | some x => exact fun hnone => absurd (hresult.symm.trans hnone) (by simp)
  | none => exact complains_after (h.imp_left fun ha => ha hresult)

/-- A frame lets out one error of an attempt that failed, if it is sure to get one. -/
theorem tidy_framed {a : Attempt α} {default : Option Entry}
    (hdefault : ∀ e ∈ default, e.isError) (h : default.isSome ∨ a.Complains) :
    (a.framed default).Tidy := by
  unfold framed
  cases hresult : a.result with
  | some x => simp [Tidy, errorsOf_warningsOf]
  | none =>
    have hsome : ((bestError a.entries).or default).isSome := by
      rcases h with h | h
      · simp [h]
      · simp [bestError_isSome (h hresult)]
    obtain ⟨e, he⟩ := Option.isSome_iff_exists.1 hsome
    have herror : e.isError := by
      rcases Option.or_eq_some_iff.1 he with hbest | ⟨_, hdef⟩
      · exact isError_of_bestError hbest
      · exact hdefault e hdef
    simp [Tidy, bestOf, he, errorsOf, herror]

end Attempt

/-! ### Setting up -/

namespace Setup

variable {α β : Type}

/-- Rejects only after an error, its own or that of a text that could not be read. -/
def Complains : Setup α → Prop
  | .done result => result.isSome
  | .error _ _ _ => True
  | .warning _ next => next.Complains
  | .parse _ _ next => ∀ e, (next (some e)).Complains

theorem Complains.map {m : Setup α} (h : m.Complains) (f : α → β) : (m.map f).Complains := by
  induction m with
  | done result =>
    cases result with
    | none => cases h
    | some a => rfl
  | error => trivial
  | warning message next ih => exact ih h
  | parse text slot next ih => exact fun e => ih (some e) (h e)

theorem complains_readPieces (whole : String) (pieces : List Piece) :
    (readPieces whole pieces).Complains := by
  induction pieces with
  | nil => rfl
  | cons piece rest ih =>
    cases piece with
    | text cs => exact ih.map _
    | segment cs => exact fun e => ih.map _
    | unclosed => trivial

theorem complains_readTemplate (quoted : Bool) (content : String) :
    (readTemplate quoted content).Complains :=
  (complains_readPieces _ _).map _

end Setup

namespace Parsing

open Attempt

section Expressions

variable {α : Type} {registry : Registry} {read : Reader} {scope : Scope}

theorem complains_runSetup (hread : ∀ text slot, (read text slot).Complains)
    {location : Option Location} {setup : Setup α} (h : setup.Complains) :
    (runSetup read location setup).Complains := by
  induction setup with
  | done result =>
    cases result with
    | none => cases h
    | some a => exact complains_ok a
  | error message quality next => exact complains_after (.inl (List.cons_ne_nil _ _))
  | warning message next ih => exact complains_after (.inr (ih h))
  | parse text slot next ih =>
    refine complains_after ?_
    cases hresult : (read text slot).result with
    | none => exact .inl (hread text slot hresult)
    | some e => exact .inr (ih (some e) (h e))

theorem complains_parseLiteral (text : String) (slot : Slot) :
    (parseLiteral scope text slot).Complains := by
  unfold parseLiteral
  split
  · exact complains_ok _
  · exact complains_refuse _ _ _

theorem complains_acceptFor (text : String) (slot : Slot) (e : Expression) :
    (acceptFor scope text slot e).Complains := by
  unfold acceptFor
  split
  · exact complains_ok _
  · exact complains_refuse _ _ _

/-- Every way to fail to read one value leaves an error: that of a text inside the quotes, that the
value does not fit, or that the text is no literal. -/
theorem complains_parseSingle (hread : ∀ text slot, (read text slot).Complains) (text : String)
    (slot : Slot) : (parseSingle registry read scope text slot).Complains := by
  unfold parseSingle
  split
  · exact (complains_runSetup hread (Setup.complains_readTemplate ..)).bind
      fun parts => complains_acceptFor text slot _
  · split
    · exact complains_parseLiteral text slot
    · split
      · exact complains_acceptFor text slot _
      · exact complains_orElse (.inr (complains_parseLiteral text slot))

theorem tidy_demandSingle (text : String) (slot : Slot) (e : Expression) :
    (demandSingle scope text slot e).Tidy := by
  unfold demandSingle
  split
  · exact tidy_refuse ..
  · exact tidy_ok _

theorem tidy_parseOnce (hread : ∀ text slot, (read text slot).Tidy) (text : String) (slot : Slot) :
    (parseOnce registry read scope text slot).Tidy := by
  unfold parseOnce
  split
  · exact hread _ slot
  · refine tidy_framed (by simp) (.inr (complains_orElse (.inl ?_)))
    exact complains_parseSingle (fun text slot => (hread text slot).complains) text slot

theorem tidy_parseWithin (levels : Nat) (text : String) (slot : Slot) :
    (parseWithin registry scope levels text slot).Tidy := by
  induction levels generalizing text slot with
  | zero =>
    rw [parseWithin]
    split <;> exact tidy_refuse ..
  | succ levels ih =>
    rw [parseWithin]
    split
    · exact tidy_refuse ..
    · exact (tidy_parseOnce ih _ slot).bind fun e _ => tidy_demandSingle _ slot e

end Expressions

/-! ### Lines and headers -/

section Lines

variable (p : Spot) (text : String)

theorem tidy_read (slot : Slot) : (p.read text slot).Tidy :=
  tidy_parseWithin ..

theorem tidy_parseAmong (entries : List (StatementEntry Pattern)) (complaint : String) :
    (p.parseAmong text entries complaint).Tidy :=
  tidy_framed (by simp [Entry.error, Entry.isError]) (.inl rfl)

theorem tidy_parseStatement : (p.parseStatement text).Tidy :=
  tidy_parseAmong ..

/-- Only conditions are tried, so there is no statement that would then be turned down. -/
theorem tidy_parseCondition : (p.parseCondition text).Tidy := by
  refine (tidy_parseAmong p text _ _).bind fun s hs => ?_
  rw [Spot.parseAmong, result_framed, result_firstOf] at hs
  obtain ⟨entry, hmem, hentry⟩ := List.exists_of_findSome?_eq_some hs
  rw [result_matchElement] at hentry
  obtain ⟨pattern, -, htake⟩ := List.exists_of_findSome?_eq_some hentry
  have hsome : s.condition?.isSome := by
    rw [isSome_condition?_of_matchAt _ htake]
    exact (List.mem_filter.1 hmem).2
  obtain ⟨condition, hcondition⟩ := Option.isSome_iff_exists.1 hsome
  rw [hcondition]
  exact tidy_ok condition

theorem tidy_parseHeader : (p.parseHeader text).Tidy :=
  tidy_framed (by simp [Entry.error, Entry.isError]) (.inl rfl)

end Lines

/-! ### The desk -/

section Desk

variable {α : Type}

/-- What a reading may change on a desk: it may add entries to the innermost frame, or to the root
if no frame is open, among them one error if it fails and none if it succeeds. -/
structure Desk.Reported (d : Desk) (r : Option α × Desk) : Prop where
  registry : r.2.state.registry = d.state.registry
  depth : r.2.depth = d.depth
  events : r.2.state.events = d.state.events
  loops : r.2.state.loops = d.state.loops
  delay : r.2.state.delay = d.state.delay
  warnMissingAnd : r.2.state.warnMissingAnd = d.state.warnMissingAnd
  location : r.2.state.log.location = d.state.log.location
  frames : r.2.state.log.frames.length = d.state.log.frames.length
  errors : r.2.state.log.errorsHere = d.state.log.errorsHere + if r.1.isSome then 0 else 1

theorem reported_attempt (d : Desk) {a : Attempt α} (h : a.Tidy) : d.Reported (d.attempt a) where
  registry := rfl
  depth := rfl
  events := rfl
  loops := rfl
  delay := rfl
  warnMissingAnd := rfl
  location := Log.location_addAll ..
  frames := Log.length_frames_addAll ..
  errors := (Log.errorsHere_addAll ..).trans (congrArg _ h)

theorem reported_of_performs {d : Desk} {m : Procedure α} {a : Attempt α}
    (hm : Performs d.spot m a) (ha : a.Tidy) : d.Reported (m d) := by
  rw [hm d rfl]
  exact reported_attempt d ha

/-- **Readings report their failure once and leave all else as it was.** On every desk, whatever its
log, depth, events, loops and delay, and for every registry: reading an expression, a line, a
condition or a header changes nothing but the entries of the innermost frame. One error is added if
it fails, and none if it succeeds. So do the attempts that are made at lines. -/
theorem readings_reported (text : String) :
    (∀ d : Desk, (∀ slot, d.Reported (Procedure.parseExpression text slot d)) ∧
      d.Reported (Procedure.parseStatement text d) ∧
      d.Reported (Procedure.parseCondition text d) ∧
      d.Reported (Procedure.parseHeader text d)) ∧
    ∀ s : State, (∀ slot, s.desk.Reported (s.attemptOn (parseExpression · · text slot))) ∧
      s.desk.Reported (s.attemptOn (parseStatement · · text)) ∧
      s.desk.Reported (s.attemptOn (parseCondition · · text)) ∧
      s.desk.Reported (s.attemptOn (parseHeader · · text)) := by
  have hdesk (d : Desk) : (∀ slot, d.Reported (Procedure.parseExpression text slot d)) ∧
      d.Reported (Procedure.parseStatement text d) ∧
      d.Reported (Procedure.parseCondition text d) ∧
      d.Reported (Procedure.parseHeader text d) :=
    ⟨fun slot => reported_of_performs (performs_parseExpression text slot) (tidy_read _ text slot),
      reported_of_performs (performs_parseStatement _ text) (tidy_parseStatement _ text),
      reported_of_performs (performs_parseCondition _ text) (tidy_parseCondition _ text),
      reported_of_performs (performs_parseHeader _ text) (tidy_parseHeader _ text)⟩
  refine ⟨hdesk, fun s => ?_⟩
  obtain ⟨hexpression, hstatement, hcondition, hheader⟩ := attemptOn_eq s text
  simp only [hexpression, hstatement, hcondition, hheader]
  exact hdesk s.desk

end Desk

end Parsing

end TriggerScript

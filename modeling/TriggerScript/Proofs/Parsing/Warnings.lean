import TriggerScript.Proofs.Parsing.Reports
import TriggerScript.Proofs.Parsing.Selection

/-!
# Which warnings a reading forwards

An expression or a line is read in one frame of the log. What is tried in the frame leaves its
entries there, whether it is taken or not, and when the reading has succeeded all warnings in the
frame go one level out.

* `Attempt.gather` : several tries, the first of which that succeeds is taken.
* `patternTries`, `elementTries`, `groupTries`, `singleTries` : the splits that are tried to read a
  text by a pattern, by an element, by the expressions of a group and as one value.
* `Try`, `expressionTries`, `Desk.lineTries` : the tries in a frame, with those marked that are
  taken.
* `allWarnings_eq_own_iff` : exactly if no rejected try has left a warning, the warnings are those of
  the tries that were taken.
* `forwarded_warnings` : the warnings of expressions and of lines.
-/

namespace TriggerScript

/-- The elements up to the first that has a property. -/
def upTo {α : Type} (has : α → Bool) : List α → List α
  | [] => []
  | a :: rest => if has a then [a] else a :: upTo has rest

namespace Attempt

variable {α β γ : Type}

/-- Several tries. The first that succeeds has the result, and all leave their entries. -/
def gather (tries : List (Attempt α)) : Attempt α :=
  ⟨tries.findSome? (·.result), tries.flatMap (·.entries)⟩

theorem gather_cons (a : Attempt α) (rest : List (Attempt α)) :
    gather (a :: rest) = ⟨a.result.or (gather rest).result, a.entries ++ (gather rest).entries⟩ := by
  rw [gather, gather, List.findSome?_cons, List.flatMap_cons]
  cases a.result <;> rfl

theorem gather_append (xs ys : List (Attempt α)) :
    gather (xs ++ ys) =
      ⟨(gather xs).result.or (gather ys).result, (gather xs).entries ++ (gather ys).entries⟩ := by
  rw [gather, List.findSome?_append, List.flatMap_append]
  rfl

@[simp] theorem gather_singleton (a : Attempt α) : gather [a] = a := by
  rw [gather_cons, gather, List.findSome?_nil, List.flatMap_nil, Option.or_none, List.append_nil]

theorem orElse_eq_gather (a : Attempt α) (b : Unit → Attempt α) :
    a.orElse b = gather (if a.result.isSome then [a] else [a, b ()]) := by
  unfold orElse
  cases h : a.result with
  | some x => simp
  | none => simp [gather, after, h]

/-- Tries are made until one succeeds. -/
theorem firstOf_bind (f : α → Attempt β) (next : β → Attempt γ) (xs : List α) :
    (firstOf f xs).bind next =
      gather ((upTo (fun x => (f x).result.isSome) xs).map fun x => (f x).bind next) := by
  induction xs with
  | nil => rfl
  | cons x rest ih =>
    rw [firstOf, upTo]
    cases h : (f x).result with
    | some b =>
      rw [Option.isSome_some, if_pos rfl, List.map_singleton, gather_singleton, orElse]
      simp only [h]
    | none =>
      have hnone : (f x).bind next = ⟨none, (f x).entries⟩ := by simp only [bind, h]
      rw [Option.isSome_none, if_neg Bool.false_ne_true, List.map_cons, gather_cons, ← ih, hnone,
        Option.none_or, orElse]
      simp only [h, bind, after]
      cases (firstOf f rest).result with
      | some b => simp [List.append_assoc]
      | none => rfl

theorem bind_ok (a : Attempt α) : a.bind ok = a := by
  unfold bind
  split
  · next h => simp [after, ok, ← h]
  · next h => rw [← h]

/-- The tries within several candidates, which are tried until one succeeds. -/
theorem firstOf_eq_gather {f : α → Attempt β} {tries : α → List (Attempt β)}
    (h : ∀ x, f x = gather (tries x)) (xs : List α) :
    firstOf f xs = gather ((upTo (fun x => (f x).result.isSome) xs).flatMap tries) := by
  rw [← bind_ok (firstOf f xs), firstOf_bind]
  induction upTo (fun x => (f x).result.isSome) xs with
  | nil => rfl
  | cons x rest ih =>
    rw [List.map_cons, List.flatMap_cons, gather_cons, gather_append, ih, bind_ok, h]

end Attempt

namespace Parsing

open Attempt

section Tries

variable (registry : Registry) (read : Reader) (scope : Scope) (text : String) {α β : Type}

/-- The splits that are tried to match a pattern, up to the first that can be read, each with what is
made of it. -/
def patternTries (index : Nat) (p : Pattern) (next : Capture → Attempt α) : List (Attempt α) :=
  (upTo (fun split => (parseSlots read scope p.slots split.spans).result.isSome)
    (p.splits text.toList)).map fun split =>
      (parseSlots read scope p.slots split.spans).bind fun parts =>
        next (capture index split parts)

/-- The splits that an element tries, up to the first with which it accepts. -/
def elementTries (setup : Scope → Capture → Setup α) (patterns : List Pattern)
    (next : α → Attempt β) : List (Attempt β) :=
  (upTo (fun (index, p) => ((matchPattern read scope index p text).bind fun c =>
    runSetup read scope.location (setup scope c)).result.isSome) (numbered patterns)).flatMap
      fun (index, p) => patternTries read scope text index p fun c =>
        (runSetup read scope.location (setup scope c)).bind next

/-- The splits that the expressions of a group try. All expressions are tried. -/
def groupTries (slot : Slot) (entries : List (ExpressionEntry Pattern)) :
    List (Attempt Expression) :=
  entries.flatMap fun entry =>
    if (scope.system.acceptance? entry.returns slot.types).isNone then []
    else elementTries read scope text entry.setup entry.patterns fun e =>
      .ofOption (convertExpression? scope.system slot.types e)

/-- What is tried to read one value. -/
def singleTries (slot : Slot) : List (Attempt Expression) :=
  match Text.unquote text.toList with
  | some content =>
    [(runSetup read scope.location (readTemplate true (String.ofList content))).bind fun parts =>
      acceptFor scope text slot (.quoted parts)]
  | none =>
    if slot.literalOnly then [parseLiteral scope text slot]
    else match plainNumber? scope.system text slot with
      | some value => [acceptFor scope text slot (.literal [value] numberType true)]
      | none =>
        let group (p : Priority) := tryGroup read scope text slot (registry.inGroup p)
        (upTo (fun p => (group p).result.isSome) Priority.inOrder).flatMap
            (fun p => groupTries read scope text slot (registry.inGroup p)) ++
          if (firstOf group Priority.inOrder).result.isSome then []
          else [parseLiteral scope text slot]

/-- The splits that statements try, up to the first statement that accepts. -/
def lineTries (entries : List (StatementEntry Pattern)) : List (Attempt Statement) :=
  (upTo (fun entry => (matchElement read scope entry.setup.run entry.patterns text).result.isSome)
    entries).flatMap fun entry => elementTries read scope text entry.setup.run entry.patterns .ok

end Tries

/-! ### Tries in a frame -/

/-- A try in a frame: whether it is taken, and the entries that it leaves. -/
structure Try where
  taken : Bool
  entries : List Entry

/-- The first try that succeeds is taken. -/
def marked {α : Type} : List (Attempt α) → List Try
  | [] => []
  | a :: rest =>
    if a.result.isSome then ⟨true, a.entries⟩ :: rest.map fun b => ⟨false, b.entries⟩
    else ⟨false, a.entries⟩ :: marked rest

/-- The warnings of all tries. -/
def allWarnings (tries : List Try) : List Entry :=
  warningsOf (tries.flatMap (·.entries))

/-- The warnings of the tries that were taken. -/
def ownWarnings (tries : List Try) : List Entry :=
  allWarnings (tries.filter (·.taken))

section Frames

variable (registry : Registry) (read : Reader) (scope : Scope) (text : String) (slot : Slot)

/-- What is tried to read an item of a list. -/
def itemTries (item : List Char) : List Try :=
  match Text.stripParens item with
  | some inner => [⟨true, (read (String.ofList inner) slot).entries⟩]
  | none => marked (singleTries registry read scope (String.ofList item) slot)

/-- What is tried to read a list: its items, and then the missing conjunction is warned of. -/
def listTries : List Try :=
  match Text.splitList text.toList with
  | none => []
  | some e =>
    e.items.flatMap (itemTries registry read scope { slot with single := false }) ++
      if e.isCommaOnly && scope.warnMissingAnd then
        [⟨true, [.warning scope.location
          ("List is missing 'and' or 'or', defaulting to 'and': " ++ text)]⟩]
      else []

/-- What is tried to read an expression that is not empty: what its outer parentheses hold, one
value, and if there is none a list. -/
def expressionTries : List Try :=
  match Text.stripParens text.toList with
  | some inner => [⟨true, (read (String.ofList inner) slot).entries⟩]
  | none =>
    let single := singleTries registry read scope text slot
    marked single ++
      if (gather single).result.isSome then [] else listTries registry read scope text slot

end Frames

/-! ### Readings are gathered tries -/

section Gathered

variable {registry : Registry} {read : Reader} {scope : Scope} {text : String} {slot : Slot}
  {α β : Type}

theorem map_bind (a : Attempt α) {γ : Type} (f : α → β) (next : β → Attempt γ) :
    (a.map f).bind next = a.bind fun x => next (f x) := by
  unfold Attempt.map Attempt.bind
  cases a.result <;> rfl

theorem bind_bind (a : Attempt α) {γ : Type} (f : α → Attempt β) (next : β → Attempt γ) :
    (a.bind f).bind next = a.bind fun x => (f x).bind next := by
  unfold Attempt.bind
  cases h : a.result with
  | none => rfl
  | some x =>
    simp only [Attempt.after]
    cases h' : (f x).result with
    | none => rfl
    | some y => simp [List.append_assoc]

theorem tryEach_eq_firstOf {σ : Type} (f : σ → Attempt α) (made : σ → α → β) (splits : List σ)
    (entries : List Entry) :
    (tryEach (fun split (sofar : Attempt β) =>
      ((f split).result.isSome, ((f split).map (made split)).after sofar.entries)) splits
        ⟨none, entries⟩).2 =
      (firstOf (fun split => (f split).map (made split)) splits).after entries := by
  induction splits generalizing entries with
  | nil => simp [tryEach, firstOf, Attempt.no, Attempt.after]
  | cons split rest ih =>
    rw [tryEach, firstOf, orElse]
    cases h : (f split).result with
    | some x => simp [Attempt.map, h]
    | none =>
      have hfailed : ((f split).map (made split)).after entries =
          ⟨none, entries ++ (f split).entries⟩ := by simp [Attempt.map, Attempt.after, h]
      simp only [Option.isSome_none, hfailed, ih]
      simp [Attempt.map, Attempt.after, h]

theorem matchPattern_bind (index : Nat) (p : Pattern) (next : Capture → Attempt α) :
    (matchPattern read scope index p text).bind next =
      gather (patternTries read scope text index p next) := by
  have hsplits : matchPattern read scope index p text =
      firstOf (fun split => (parseSlots read scope p.slots split.spans).map (capture index split))
        (p.splits text.toList) := by
    rw [matchPattern, Pattern.offer_eq_tryEach]
    exact tryEach_eq_firstOf _ _ _ []
  rw [hsplits, firstOf_bind, patternTries]
  simp only [result_map, Option.isSome_map, map_bind]

theorem matchElement_bind (setup : Scope → Capture → Setup α) (patterns : List Pattern)
    (next : α → Attempt β) :
    (matchElement read scope setup patterns text).bind next =
      gather (elementTries read scope text setup patterns next) := by
  rw [matchElement, firstOf_bind, elementTries]
  induction upTo (fun x : Nat × Pattern => ((matchPattern read scope x.1 x.2 text).bind fun c =>
    runSetup read scope.location (setup scope c)).result.isSome) (numbered patterns) with
  | nil => rfl
  | cons x rest ih =>
    rw [List.map_cons, List.flatMap_cons, gather_cons, gather_append, ih, bind_bind,
      matchPattern_bind]

theorem tryEntry_eq_gather (entry : ExpressionEntry Pattern) :
    tryEntry read scope text slot entry =
      gather (groupTries read scope text slot [entry]) := by
  rw [tryEntry, groupTries, List.flatMap_singleton]
  split
  · rfl
  · exact matchElement_bind _ _ _

theorem tryGroup_eq_gather (entries : List (ExpressionEntry Pattern)) :
    tryGroup read scope text slot entries = gather (groupTries read scope text slot entries) := by
  have hfold (sofar : Attempt Expression) : (entries.foldl (fun sofar entry =>
      let next := tryEntry read scope text slot entry
      ⟨sofar.result.or next.result, sofar.entries ++ next.entries⟩) sofar) =
        ⟨sofar.result.or (gather (groupTries read scope text slot entries)).result,
          sofar.entries ++ (gather (groupTries read scope text slot entries)).entries⟩ := by
    induction entries generalizing sofar with
    | nil => simp [groupTries, gather]
    | cons entry rest ih =>
      rw [List.foldl_cons, ih, tryEntry_eq_gather,
        show groupTries read scope text slot (entry :: rest) =
          groupTries read scope text slot [entry] ++ groupTries read scope text slot rest by
            simp [groupTries], gather_append]
      simp only [Option.or_assoc, List.append_assoc]
  rw [tryGroup, hfold]
  simp [Attempt.no]

/-- **One value is read by the tries that are made for it.** -/
theorem parseSingle_eq_gather :
    parseSingle registry read scope text slot =
      gather (singleTries registry read scope text slot) := by
  rw [parseSingle, singleTries]
  cases Text.unquote text.toList with
  | some content => exact (gather_singleton _).symm
  | none =>
    cases slot.literalOnly with
    | true => exact (gather_singleton _).symm
    | false =>
      cases plainNumber? scope.system text slot with
      | some value => exact (gather_singleton _).symm
      | none =>
        simp only [Bool.false_eq_true, if_false]
        rw [gather_append, ← firstOf_eq_gather fun p => tryGroup_eq_gather _, orElse_eq_gather]
        generalize firstOf (fun p => tryGroup read scope text slot (registry.inGroup p))
          Priority.inOrder = groups
        cases h : groups.result <;> simp [gather, h]

/-- A line is read by the tries that the registered elements make for it. -/
theorem firstOf_statements_eq_gather (entries : List (StatementEntry Pattern)) :
    firstOf (fun entry => matchElement read scope entry.setup.run entry.patterns text) entries =
      gather (lineTries read scope text entries) :=
  firstOf_eq_gather (fun entry => by rw [← matchElement_bind, bind_ok]) entries

end Gathered

/-! ### What a frame forwards -/

theorem allWarnings_cons (t : Try) (rest : List Try) :
    allWarnings (t :: rest) = warningsOf t.entries ++ allWarnings rest := by
  rw [allWarnings, List.flatMap_cons, warningsOf_append]
  rfl

theorem ownWarnings_cons (t : Try) (rest : List Try) :
    ownWarnings (t :: rest) = (if t.taken then warningsOf t.entries else []) ++ ownWarnings rest := by
  rw [ownWarnings, List.filter_cons]
  split
  · rw [allWarnings_cons]
    rfl
  · rfl

/-- The warnings of the tries that were taken are among those of all tries, in the same order. -/
theorem ownWarnings_sublist (tries : List Try) :
    (ownWarnings tries).Sublist (allWarnings tries) := by
  induction tries with
  | nil => exact .slnil
  | cons t rest ih =>
    rw [allWarnings_cons, ownWarnings_cons]
    split
    · exact ih.append_left _
    · exact ih.trans (List.sublist_append_right _ _)

/-- **The warnings of all tries are those of the tries that were taken exactly if no other try has
left a warning.** -/
theorem allWarnings_eq_own_iff {tries : List Try} :
    allWarnings tries = ownWarnings tries ↔
      ∀ t ∈ tries, t.taken = false → warningsOf t.entries = [] := by
  induction tries with
  | nil => simp [allWarnings, ownWarnings]
  | cons t rest ih =>
    rw [allWarnings_cons, ownWarnings_cons, List.forall_mem_cons, ← ih]
    cases htaken : t.taken with
    | true => simp
    | false =>
      simp only [Bool.false_eq_true, if_false, List.nil_append, forall_true_left]
      constructor
      · intro h
        -- The own warnings of the rest are no more than all of its warnings.
        have hlength := congrArg List.length h
        have hle := (ownWarnings_sublist rest).length_le
        rw [List.length_append] at hlength
        have hnone : warningsOf t.entries = [] := List.eq_nil_of_length_eq_zero (by omega)
        rw [hnone, List.nil_append] at h
        exact ⟨hnone, h⟩
      · rintro ⟨hnone, h⟩
        rw [hnone, h, List.nil_append]

section Forwarded

variable {registry : Registry} {read : Reader} {scope : Scope} {text : String} {slot : Slot}
  {α : Type}

theorem flatMap_marked (tries : List (Attempt α)) :
    (marked tries).flatMap (·.entries) = (gather tries).entries := by
  induction tries with
  | nil => rfl
  | cons a rest ih =>
    rw [marked, gather_cons]
    split
    · rw [List.flatMap_cons, List.flatMap_map]
      rfl
    · rw [List.flatMap_cons, ih]

/-- Of gathered tries that succeed one is taken, and the result is its own. -/
theorem marked_eq_of_gather {tries : List (Attempt α)} {a : α}
    (h : (gather tries).result = some a) :
    ∃ before own behind, tries = before ++ own :: behind ∧ (∀ b ∈ before, b.result = none) ∧
      own.result = some a ∧ marked tries = before.map (fun b => ⟨false, b.entries⟩) ++
        ⟨true, own.entries⟩ :: behind.map fun b => ⟨false, b.entries⟩ := by
  induction tries with
  | nil => cases h
  | cons first rest ih =>
    rw [gather_cons] at h
    cases hfirst : first.result with
    | some b =>
      rw [hfirst] at h
      exact ⟨[], first, rest, rfl, List.forall_mem_nil _, hfirst.trans h, by
        simp [marked, hfirst]⟩
    | none =>
      rw [hfirst, Option.none_or] at h
      obtain ⟨before, own, behind, rfl, hbefore, hown, hmarked⟩ := ih h
      exact ⟨first :: before, own, behind, rfl, List.forall_mem_cons.2 ⟨hfirst, hbefore⟩, hown, by
        simp [marked, hfirst, hmarked]⟩

theorem entries_item (item : List Char) :
    (itemTries registry read scope slot item).flatMap (·.entries) =
      (match Text.stripParens item with
        | some inner => read (String.ofList inner) slot
        | none => parseSingle registry read scope (String.ofList item) slot).entries := by
  unfold itemTries
  split
  · exact List.flatMap_singleton _ _
  · rw [flatMap_marked, parseSingle_eq_gather]

theorem entries_parseItems {items : List (List Char)} {es : List Expression}
    (h : (parseItems registry read scope slot items).result = some es) :
    (parseItems registry read scope slot items).entries =
      (items.flatMap (itemTries registry read scope slot)).flatMap (·.entries) := by
  induction items generalizing es with
  | nil => rfl
  | cons item rest ih =>
    rw [parseItems, result_bind] at h
    obtain ⟨first, hfirst, h⟩ := Option.bind_eq_some_iff.1 h
    obtain ⟨more, hmore, -⟩ := Option.map_eq_some_iff.1 h
    rw [List.flatMap_cons, List.flatMap_append, entries_item, ← ih hmore, parseItems, Attempt.bind]
    simp only [hfirst]
    rfl

theorem entries_parseList {e : Expression}
    (h : (parseList registry read scope text slot).result = some e) :
    (parseList registry read scope text slot).entries =
      (listTries registry read scope text slot).flatMap (·.entries) := by
  rw [parseList] at h
  rw [parseList, listTries]
  cases hsequence : Text.splitList text.toList with
  | none =>
    rw [hsequence] at h
    cases h
  | some sequence =>
    simp only [hsequence] at h ⊢
    split at h
    · cases h
    next hmany =>
    split at h
    · cases h
    next hmixed =>
    rw [result_bind] at h
    obtain ⟨items, hitems, -⟩ := Option.bind_eq_some_iff.1 h
    rw [if_neg hmany, if_neg hmixed, List.flatMap_append, ← entries_parseItems hitems, Attempt.bind]
    simp only [hitems]
    split <;> rfl

/-- What succeeds leaves warnings only. -/
theorem warningsOf_of_tidy {a : Attempt α} (h : a.Tidy) (hsome : a.result.isSome) :
    warningsOf a.entries = a.entries := by
  rw [Attempt.Tidy, if_pos hsome, List.length_eq_zero_iff] at h
  refine List.filter_eq_self.2 fun e he => ?_
  have hnot := List.filter_eq_nil_iff.1 h e he
  unfold Entry.isError at hnot
  unfold Entry.isWarning
  cases hseverity : e.severity with
  | warning => rfl
  | error => simp [hseverity] at hnot

theorem entries_parseOnce (hread : ∀ text slot, (read text slot).Tidy) {e : Expression}
    (h : (parseOnce registry read scope text slot).result = some e) :
    (parseOnce registry read scope text slot).entries =
      allWarnings (expressionTries registry read scope text slot) := by
  rw [parseOnce] at h
  rw [parseOnce, expressionTries]
  cases hparens : Text.stripParens text.toList with
  | some inner =>
    simp only [hparens] at h ⊢
    rw [allWarnings_cons, allWarnings, List.flatMap_nil, warningsOf_nil, List.append_nil]
    exact (warningsOf_of_tidy (hread _ _) (by rw [h]; rfl)).symm
  | none =>
    simp only [hparens, result_framed] at h ⊢
    rw [Attempt.framed]
    simp only [h]
    rw [allWarnings, List.flatMap_append, flatMap_marked, ← parseSingle_eq_gather, orElse]
    rw [result_orElse] at h
    cases hsingle : (parseSingle registry read scope text slot).result with
    | some single => simp
    | none =>
      rw [hsingle, Option.none_or] at h
      simp [Attempt.after, entries_parseList h]

/-- An expression forwards the warnings of all its tries. -/
theorem entries_parseWithin {depth : Nat} {e : Expression}
    (h : (parseWithin registry scope (depth + 1) text slot).result = some e) :
    (parseWithin registry scope (depth + 1) text slot).entries =
      allWarnings (expressionTries registry (parseWithin registry scope depth) scope
        (Text.trimString text) slot) := by
  rw [parseWithin] at h
  rw [parseWithin]
  cases hempty : (Text.trimString text).isEmpty with
  | true =>
    simp only [hempty, if_true] at h
    cases h
  | false =>
    simp only [hempty, Bool.false_eq_true, if_false] at h ⊢
    rw [result_bind] at h
    obtain ⟨once, honce, h⟩ := Option.bind_eq_some_iff.1 h
    rw [← entries_parseOnce (tidy_parseWithin depth) honce, Attempt.bind]
    simp only [honce]
    unfold demandSingle at h ⊢
    split at h
    · cases h
    · next hsingle => simp [hsingle, Attempt.ok, Attempt.after]

end Forwarded

/-! ### The desk -/

/-- The warnings in the innermost frame, or those that have been let out if no frame is open. -/
def Desk.warningsHere (d : Desk) : List Entry :=
  match d.state.log.frames with
  | [] => warningsOf d.state.log.emitted
  | frame :: _ => frame.warnings

theorem warningsHere_note (d : Desk) (entries : List Entry) :
    (d.note entries).warningsHere = d.warningsHere ++ warningsOf entries := by
  cases hframes : d.state.log.frames with
  | nil =>
    have hlater : (d.state.log.addAll entries).frames = [] := by
      rw [← List.length_eq_zero_iff, Log.length_frames_addAll, hframes, List.length_nil]
    simp only [Desk.warningsHere, Desk.note, Desk.withLog, hlater, hframes,
      Log.emitted_addAll hframes, warningsOf_append]
  | cons frame outer =>
    have hlog : d.state.log = { d.state.log with frames := frame :: outer } := by rw [← hframes]
    have hlater := Log.addAll_frames d.state.log entries frame outer
    rw [← hlog] at hlater
    simp only [Desk.warningsHere, Desk.note, Desk.withLog, hlater, hframes]

/-- What the tries in a frame leave on the desk when the frame is closed behind a success. -/
structure Forwards (d d' : Desk) (tries : List Try) : Prop where
  all : d' = d.note (allWarnings tries)
  among : (ownWarnings tries).Sublist (allWarnings tries)
  exact : d'.warningsHere = d.warningsHere ++ ownWarnings tries ↔
    ∀ t ∈ tries, t.taken = false → warningsOf t.entries = []

theorem warningsOf_allWarnings (tries : List Try) :
    warningsOf (allWarnings tries) = allWarnings tries := by
  simp only [allWarnings, warningsOf, List.filter_filter, Bool.and_self]

theorem forwards_note (d : Desk) (tries : List Try) :
    Forwards d (d.note (allWarnings tries)) tries where
  all := rfl
  among := ownWarnings_sublist tries
  exact := by
    rw [warningsHere_note, warningsOf_allWarnings, List.append_cancel_left_eq,
      allWarnings_eq_own_iff]

/-- The tries in the frame of an expression, in which nested texts are read one level deeper. -/
def Desk.expressionTries (d : Desk) (text : String) (slot : Slot) : List Try :=
  Parsing.expressionTries d.state.registry
    (parseWithin d.state.registry d.scope (maxDepth - (d.depth + 1))) d.scope
    (Text.trimString text) slot

/-- The splits that are tried to read a line. -/
def Desk.lineTries (d : Desk) (text : String) : List (Attempt Statement) :=
  Parsing.lineTries d.spot.read d.scope (Text.trimString text) d.state.registry.statements

/-- **A reading that succeeds forwards the warnings of everything that was tried in its frame.** Those
of the split that was taken are among them, and they are all exactly if no candidate, pattern or split
that was tried and not taken has left a warning. This holds on every desk, for expressions and for
lines, and of the warnings in every frame of a nested expression too. -/
theorem forwarded_warnings (d : Desk) (text : String) :
    (∀ slot e d', Procedure.parseExpression text slot d = (some e, d') →
      Forwards d d' (d.expressionTries text slot)) ∧
    ∀ s d', Procedure.parseStatement text d = (some s, d') →
      Forwards d d' (marked (d.lineTries text)) ∧
      ∃ own ∈ d.lineTries text, own.result = some s ∧
        ⟨true, own.entries⟩ ∈ marked (d.lineTries text) := by
  constructor
  · intro slot e d' h
    rw [performs_parseExpression text slot d rfl, Desk.attempt, Prod.mk.injEq] at h
    obtain ⟨hresult, rfl⟩ := h
    -- A reading that succeeds stands not yet inside as many expressions as there may be.
    obtain ⟨depth, hdepth⟩ : ∃ depth, maxDepth - d.depth = depth + 1 := by
      refine Nat.exists_eq_succ_of_ne_zero fun hzero => ?_
      rw [Spot.read, show d.spot.depth = d.depth from rfl, hzero, parseWithin] at hresult
      split at hresult <;> cases hresult
    have hread : d.spot.read = parseWithin d.state.registry d.scope (depth + 1) := by
      rw [Spot.read, ← hdepth]
      rfl
    rw [hread] at hresult ⊢
    rw [entries_parseWithin hresult, Desk.expressionTries,
      show maxDepth - (d.depth + 1) = depth by omega]
    exact forwards_note d _
  · intro s d' h
    rw [performs_parseStatement d.spot text d rfl, Desk.attempt, Prod.mk.injEq] at h
    obtain ⟨hresult, rfl⟩ := h
    rw [Spot.parseStatement, Spot.parseAmong, result_framed] at hresult
    have hentries : (d.spot.parseStatement text).entries =
        allWarnings (marked (d.lineTries text)) := by
      rw [Spot.parseStatement, Spot.parseAmong, Attempt.framed]
      simp only [hresult]
      rw [firstOf_statements_eq_gather, allWarnings, flatMap_marked]
      rfl
    rw [firstOf_statements_eq_gather] at hresult
    obtain ⟨before, own, behind, htries, -, hown, hmarked⟩ := marked_eq_of_gather hresult
    have hmem : own ∈ d.lineTries text := by
      rw [Desk.lineTries]
      exact htries ▸ List.mem_append_right _ List.mem_cons_self
    have htaken : (⟨true, own.entries⟩ : Try) ∈ marked (d.lineTries text) := by
      rw [Desk.lineTries]
      exact hmarked ▸ List.mem_append_right _ List.mem_cons_self
    rw [hentries]
    exact ⟨forwards_note d _, own, hmem, hown, htaken⟩

/-! ### A warning of an expression that is not taken -/

/-- An expression that stands for a text, and that warns before it accepts. -/
def sayingLate (name text message : String) (priority : Priority) (patterns : List String) :
    ExpressionEntry String :=
  { saying name text priority patterns with
    setup := fun _ _ => .warning message (.accept (.literal [.text text] textType true)) }

/-- The later one of two expressions in one group warns. -/
def echoes : Registration :=
  { greetings with
    expressions := [saying "greeting" "first" .simple ["hi"],
      sayingLate "echo" "second" "too late" .simple ["hi"]] }

/-- The registry that they are closed into. -/
def echoesClosed : Registry where
  system := ⟨echoes.types, .empty, .empty⟩
  expressions :=
    let hi : Pattern := ⟨"hi", [.literal ['h', 'i']], [], []⟩
    [{ saying "greeting" "first" .simple [] with patterns := [hi] },
      { sayingLate "echo" "second" "too late" .simple [] with patterns := [hi] }]
  statements := []
  headers := []

/-- A desk with nothing on it. -/
def echoDesk : Desk := (State.new echoesClosed true).desk

theorem parseExpression_echoDesk : ∃ e, Procedure.parseExpression "hi" (.one [textType]) echoDesk =
    (some e, echoDesk.note [.warning none "too late"]) := by
  have hread : parseWithin echoesClosed echoDesk.scope 64 "hi" (.one [textType]) =
      ⟨some (.literal [.text "first"] textType true), [.warning none "too late"]⟩ := by
    cbv
  refine ⟨.literal [.text "first"] textType true, ?_⟩
  rw [performs_parseExpression "hi" (.one [textType]) echoDesk rfl]
  have hspot : echoDesk.spot.read "hi" (.one [textType]) =
      parseWithin echoesClosed echoDesk.scope 64 "hi" (.one [textType]) := rfl
  rw [hspot, hread]
  rfl

theorem expressionTries_echoDesk : echoDesk.expressionTries "hi" (.one [textType]) =
    [⟨true, []⟩, ⟨false, [.warning none "too late"]⟩] := by
  cbv

/-- The warning of the expression that is not taken is forwarded. -/
theorem forwarded_warnings_echoes : echoes.close = .ok echoDesk.state.registry ∧
    ∃ e d', Procedure.parseExpression "hi" (.one [textType]) echoDesk = (some e, d') ∧
      Forwards echoDesk d' [⟨true, []⟩, ⟨false, [.warning none "too late"]⟩] := by
  obtain ⟨e, hread⟩ := parseExpression_echoDesk
  have hforwards := (forwarded_warnings echoDesk "hi").1 (.one [textType]) e _ hread
  rw [expressionTries_echoDesk] at hforwards
  exact ⟨by cbv, e, _, hread, hforwards⟩

/-- What is forwarded is not always what the taken tries have left. -/
theorem not_forwarded_own : ¬∀ (d : Desk) (text : String) (slot : Slot) (e : Expression) (d' : Desk),
    Procedure.parseExpression text slot d = (some e, d') →
      d'.warningsHere = d.warningsHere ++ ownWarnings (d.expressionTries text slot) := by
  intro h
  obtain ⟨e, hread⟩ := parseExpression_echoDesk
  have hwarnings := h echoDesk "hi" (.one [textType]) e _ hread
  rw [expressionTries_echoDesk] at hwarnings
  cases hwarnings

end Parsing

end TriggerScript

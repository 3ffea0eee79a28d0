import TriggerScript.Proofs.Parsing.Takes
import TriggerScript.Proofs.Registry.Closing

/-!
# Which expression a text is read as

Among the registered expressions that fit a slot, the first one by priority and order of
registration has the text. All of a group are tried; what the others leave in the log plays no part.

* `Desk.OwnResult` : what an expression reads a text as by itself.
* `Desk.Fits` : its result, converted for a slot.
* `fits_iff` : an expression that fits alone fits among others.
* `Desk.FitsAt` : a place by priority and order of registration.
* `parseSingle_selects` : one value is that of the first place, or else a literal.
-/

namespace TriggerScript.Parsing

namespace Desk

/-- What an expression reads a text as by itself: by its first pattern that takes the text. -/
def OwnResult (d : Desk) (entry : ExpressionEntry Pattern) (text : String) (e : Expression) :
    Prop :=
  ∃ j p, entry.patterns[j]? = some p ∧ d.Takes entry.setup j p text e ∧
    ∀ j' p' e', entry.patterns[j']? = some p' → d.Takes entry.setup j' p' text e' → j ≤ j'

/-- The declared type of an expression is acceptable to a slot, and its own result is converted to
this one. -/
def Fits (d : Desk) (entry : ExpressionEntry Pattern) (text : String) (slot : Slot)
    (e : Expression) : Prop :=
  (d.scope.system.acceptance? entry.returns slot.types).isSome ∧
    ∃ own, d.OwnResult entry text own ∧ convertExpression? d.scope.system slot.types own = some e

/-- The expression registered with number `i` is in the group with number `rank` and fits. -/
def FitsAt (d : Desk) (entries : List (ExpressionEntry Pattern)) (text : String) (slot : Slot)
    (rank i : Nat) (e : Expression) : Prop :=
  ∃ entry, Priority.inOrder[rank]? = some entry.priority ∧ entries[i]? = some entry ∧
    d.Fits entry text slot e

end Desk

section Entries

variable {d : Desk} {text : String} {slot : Slot}

theorem ownResult_iff {p : Spot} (hd : d.spot = p) {entry : ExpressionEntry Pattern}
    {e : Expression} :
    d.OwnResult entry text e ↔
      (matchElement p.read p.scope entry.setup entry.patterns text).result = some e := by
  rw [result_matchElement, findSome?_zipIdx_eq_some_iff fun j pattern =>
    (p.matchAt entry.setup j pattern text).result]
  simp only [Desk.OwnResult, takes_iff hd]

/-- An expression that fits alone fits among others. -/
theorem fits_iff {p : Spot} (hd : d.spot = p) {entry : ExpressionEntry Pattern} {e : Expression} :
    d.Fits entry text slot e ↔ (tryEntry p.read p.scope text slot entry).result = some e := by
  rw [Desk.Fits, show d.scope = p.scope from congrArg Spot.scope hd, tryEntry]
  simp only [ownResult_iff hd]
  cases p.scope.system.acceptance? entry.returns slot.types with
  | none => simp [Attempt.no]
  | some acceptance =>
    simp only [Option.isSome_some, true_and, Option.isNone_some, Bool.false_eq_true, if_false]
    rw [result_bind, Option.bind_eq_some_iff]
    rfl

/-- Trying the groups in order selects the first expression that fits, by priority and order of
registration. -/
theorem selects_groups (entries : List (ExpressionEntry Pattern)) :
    Selects (d.FitsAt entries text slot)
      (Priority.inOrder.findSome? fun group =>
        (tryGroup d.spot.read d.spot.scope text slot
          (entries.filter (·.priority == group))).result) := by
  have hselects := selects_findSome? Priority.inOrder (fun _ => entries) fun group _ entry =>
    if entry.priority == group then
      (tryEntry d.spot.read d.spot.scope text slot entry).result else none
  have hgroup (group : Priority) : (tryGroup d.spot.read d.spot.scope text slot
      (entries.filter (·.priority == group))).result =
        entries.zipIdx.findSome? fun c => if c.1.priority == group then
          (tryEntry d.spot.read d.spot.scope text slot c.1).result else none := by
    rw [result_tryGroup, findSome?_filter]
    conv_lhs => rw [← List.zipIdx_map_fst 0 entries, List.findSome?_map]
    rfl
  simp only [hgroup]
  refine hselects.congr fun rank i e => ?_
  simp only [Desk.FitsAt, fits_iff (d := d) rfl]
  constructor
  · rintro ⟨group, entry, hgroup, hentry, he⟩
    by_cases hpriority : entry.priority = group
    · subst hpriority
      rw [beq_self_eq_true, if_pos rfl] at he
      exact ⟨entry, hgroup, hentry, he⟩
    · rw [if_neg (by simpa using hpriority)] at he
      cases he
  · rintro ⟨entry, hgroup, hentry, he⟩
    exact ⟨_, entry, hgroup, hentry, by rw [beq_self_eq_true, if_pos rfl]; exact he⟩

end Entries

theorem fitsAt_congr {d d' : Desk} (h : d.spot = d'.spot)
    {entries : List (ExpressionEntry Pattern)} {text : String} {slot : Slot} {rank i : Nat}
    {e : Expression} :
    d.FitsAt entries text slot rank i e ↔ d'.FitsAt entries text slot rank i e := by
  simp only [Desk.FitsAt, fits_iff h, fits_iff (d := d') rfl]

section Selection

variable {r : Registration} {d : Desk} {text : String} {slot : Slot}

/-- **The first expression that fits has the text.** With a closed registration, and for a text that
is neither quoted nor a number that the slot takes, nor one that has to be a literal: reading one
value gives what the first registered expression by group and order of registration makes of it,
and without one that fits the literal of the first type of the slot that has it. Whether an
expression fits is told on the desk as it would be had any other things been logged, and does not
depend on the expressions that were tried before. -/
theorem parseSingle_selects (hclose : r.close = .ok d.state.registry)
    (hquoted : Text.unquote text.toList = none) (hliteral : slot.literalOnly = false)
    (hnumber : plainNumber? d.scope.system text slot = none) (past : Log) :
    (∃ entries, List.Forall₂ (fun e entry => Registration.closeExpression r.types e = .ok entry)
        r.expressions entries ∧
      ∃ chosen, Selects ((d.withPast past).FitsAt entries text slot) chosen ∧
        (Procedure.parseSingle Procedure.parseExpression text slot d).1 =
          chosen.or ((slot.types.findSome? fun type =>
            d.scope.system.types.readLiteral? type text).map fun value =>
              .literal [value] value.typeName true)) ∧
    (∀ before entry e, (Procedure.tryEntry Procedure.parseExpression text slot entry
        (Procedure.tryGroup Procedure.parseExpression text slot none before d).2).1 = some e ↔
      (d.withPast past).Fits entry text slot e) ∧
    Procedure.parseSingle Procedure.parseExpression text slot d =
      d.attempt (parseSingle d.state.registry
        (parseWithin d.state.registry d.scope (maxDepth - d.depth)) d.scope text slot) := by
  have hperforms := Performs.parseSingle (p := d.spot) text slot performs_parseExpression
  refine ⟨?_, fun before entry e => ?_, hperforms d rfl⟩
  · obtain ⟨entries, hclosed⟩ := Registration.closed_of_close hclose
    refine ⟨entries, hclosed.compiled, _, (selects_groups entries).congr fun _ _ _ =>
      fitsAt_congr (d.spot_withPast past).symm, ?_⟩
    rw [fst_of_performs rfl hperforms, parseSingle, hquoted]
    simp only [hliteral, Bool.false_eq_true, if_false, Desk.scope_spot, hnumber]
    simp only [result_orElse, result_firstOf, result_parseLiteral,
      ← Registration.inGroup_of_closed hclosed]
    rfl
  · have hafter : (Procedure.tryGroup Procedure.parseExpression text slot none before d).2.spot =
        d.spot := by
      rw [Performs.tryGroup text slot performs_parseExpression before d rfl]
      exact d.spot_note _
    rw [fst_of_performs hafter (.tryEntry text slot performs_parseExpression entry)]
    exact (fits_iff (d.spot_withPast past)).symm

end Selection

/-! ### Two expressions for one text -/

/-- An expression that stands for a text. -/
def saying (name text : String) (priority : Priority) (patterns : List String) :
    ExpressionEntry String where
  name := name
  returns := textType
  priority := priority
  patterns := patterns
  setup := fun _ _ => .accept (.literal [.text text] textType true)

/-- The later one of two expressions is in an earlier group. -/
def greetings : Registration :=
  { Registration.empty with
    types := ⟨[.named textType "text¦s"]⟩
    expressions := [saying "anything" "late" .everything ["hi"],
      saying "greeting" "early" .simple ["hi"]] }

/-- The registry that they are closed into. -/
def greetingsClosed : Registry where
  system := ⟨greetings.types, .empty, .empty⟩
  expressions :=
    let hi : Pattern := ⟨"hi", [.literal ['h', 'i']], [], []⟩
    [{ saying "greeting" "early" .simple [] with patterns := [hi] },
      { saying "anything" "late" .everything [] with patterns := [hi] }]
  statements := []
  headers := []

/-- A desk on which something has gone wrong before. -/
def busyDesk : Desk :=
  (State.new greetingsClosed true).desk.note [.error none "no such thing" .semantic]

/-- The expression of the earlier group is chosen, although it is registered later. -/
theorem parseSingle_selects_greetings :
    greetings.close = .ok busyDesk.state.registry ∧ Text.unquote "hi".toList = none ∧
      (Slot.one [textType]).literalOnly = false ∧
      plainNumber? busyDesk.scope.system "hi" (.one [textType]) = none ∧
      ∃ entries, Selects ((busyDesk.withPast .empty).FitsAt entries "hi" (.one [textType]))
        (some (.literal [.text "early"] textType true)) := by
  have hclose : greetings.close = .ok busyDesk.state.registry := by cbv
  have hquoted : Text.unquote "hi".toList = none := by cbv
  have hnumber : plainNumber? busyDesk.scope.system "hi" (.one [textType]) = none := by cbv
  obtain ⟨⟨entries, -, chosen, hselects, hresult⟩, -⟩ :=
    parseSingle_selects hclose hquoted rfl hnumber .empty
  have hearly : (Procedure.parseSingle Procedure.parseExpression "hi" (.one [textType])
      busyDesk).1 = some (.literal [.text "early"] textType true) := by cbv
  have hchosen : chosen = some (.literal [.text "early"] textType true) := by
    rw [hearly] at hresult
    cases chosen with
    | none => cases hresult
    | some e => exact hresult.symm
  exact ⟨hclose, hquoted, rfl, hnumber, entries, hchosen ▸ hselects⟩

end TriggerScript.Parsing

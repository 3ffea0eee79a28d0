import TriggerScript.Proofs.Parsing.Typing
import TriggerScript.Proofs.Syntax.Checks

/-!
# Checks of what is read

Lists are read with their items, so that an expression that is read has no list without items. A
check of it fails if there are no values, unless it is denied: then it holds of lists, and of values
none of which can be converted.

* `Vocabulary.filled_of_builtIn` : built-in expressions by themselves are no lists.
* `spreads_filled` : no list that is read is without items.
* `check_of_reading` : the check of an expression that has no values.
-/

namespace TriggerScript

namespace Vocabulary

open Parsing Expression

variable {scope : Scope} {read : Parsing.Reader} {location : Option Location} {c : Capture}
  {e : Expression}

/-- What a built-in expression accepts is no list. -/
theorem filled_of_builtIn {setup : Scope → Capture → Setup Expression} (hsetup : BuiltIn setup)
    (h : (runSetup read location (setup scope c)).result = some e) : e.Filled := by
  rcases builtIn_iff.1 hsetup with rfl | rfl | rfl | rfl
  · obtain ⟨name, rfl⟩ := exists_of_namedVariable h
    trivial
  · obtain ⟨name, wanted, index, l, -, rfl⟩ := exists_of_loopValue h
    trivial
  · obtain ⟨type, rfl⟩ := exists_of_eventValue h
    trivial
  · obtain ⟨low, high, rfl⟩ := exists_of_range h
    trivial

end Vocabulary

namespace Parsing

open Expression

variable {registry : Registry} {scope : Scope} {read : Reader} {text : String} {slot : Slot}
  {e e' : Expression}

theorem filled_of_convertExpression? {system : TypeSystem} {required : List String}
    (he : e.Filled) (h : convertExpression? system required e = some e') : e'.Filled := by
  unfold convertExpression? at h
  split at h
  · cases h
  · cases h
    exact he
  · split at h
    · obtain ⟨values, -, rfl⟩ := Option.map_eq_some_iff.1 h
      trivial
    · cases h
      exact he

theorem filled_parseLiteral (h : (parseLiteral scope text slot).result = some e) : e.Filled := by
  rw [result_parseLiteral] at h
  obtain ⟨value, -, rfl⟩ := Option.map_eq_some_iff.1 h
  trivial

/-- No list that is read is without items. -/
theorem spreads_filled
    (hbuiltIn : ∀ p, ∀ entry ∈ registry.inGroup p, Vocabulary.BuiltIn entry.setup) :
    Spreads registry scope fun _ _ e => e.Filled where
  single _ h := by
    rcases exists_own_of_parseSingle h with h | ⟨own, hown, hconvert⟩
    · exact filled_parseLiteral h
    · refine filled_of_convertExpression? ?_ hconvert
      cases hown with
      | quoted _ _ | number _ _ => trivial
      | registered _ hentry haccepts =>
        exact Vocabulary.filled_of_builtIn (hbuiltIn _ _ hentry) haccepts
  list _ hne h := ⟨hne, allFilled_iff.2 h⟩
  widen _ h := h

/-- **An expression without values passes no check,** but a denied check holds if what stands inside
all conversions is a list, or has values that cannot be converted. -/
theorem check_of_reading {r : Registration}
    (hbuiltIn : ∀ e ∈ r.expressions, Vocabulary.BuiltIn e.setup) (hclose : r.close = .ok registry)
    {depth : Nat} (hread : (parseWithin registry scope depth text slot).result = some e)
    {sight : Sight} (hnone : (e.all sight).Always (· = [])) (test : Value → Bool) (negated : Bool)
    (dice : Dice) : ∃ vs behind after, e.core.all sight dice = .ok (vs, behind) ∧
      e.check sight test negated dice =
        .ok (negated && (e.core.isList || !vs.isEmpty), after) := by
  obtain ⟨entries, hclosed⟩ := Registration.closed_of_close hclose
  have hbuiltIn : ∀ p, ∀ entry ∈ registry.inGroup p, Vocabulary.BuiltIn entry.setup := by
    intro p entry hentry
    obtain ⟨e, he, hsetup⟩ := Registration.exists_setup_of_closed hclosed hentry
    rw [hsetup]
    exact hbuiltIn e he
  have hfilled := (spreads_filled hbuiltIn).parseWithin depth _ _ _ hread
  exact check_of_no_values hfilled hnone test negated dice

/-- A list of all of two variables. -/
def isBothVariables : Expression → Bool
  | .list [.variable [.text _], .variable [.text _]] true _ => true
  | _ => false

/-- Two variables joined by `and` are read as a list of them. -/
theorem exists_reading_both : ∃ registry a b type, namesInTexts.close = .ok registry ∧
    (parseWithin registry (bareScope registry) maxDepth "\x7ba\x7d and \x7bb\x7d"
      (.many [objectType])).result =
        some (.list [.variable [.text a], .variable [.text b]] true type) := by
  have hread : (namesInTexts.close.toOption.bind fun registry =>
      (parseWithin registry (bareScope registry) maxDepth "\x7ba\x7d and \x7bb\x7d"
        (.many [objectType])).result.map isBothVariables) = some true := by
    decide +kernel
  obtain ⟨registry, hclose, hread⟩ := Option.bind_eq_some_iff.1 hread
  obtain ⟨e, hresult, hshape⟩ := Option.map_eq_some_iff.1 hread
  rw [isBothVariables.eq_def] at hshape
  split at hshape
  · exact ⟨registry, _, _, _, Registration.eq_ok_of_toOption hclose, hresult⟩
  · cases hshape

theorem builtIn_namesInTexts : ∀ e ∈ namesInTexts.expressions, Vocabulary.BuiltIn e.setup :=
  List.forall_mem_singleton.2 (Vocabulary.builtIn_iff.2 (.inl rfl))

/-- Two variables that are not set pass every denied check. -/
theorem check_of_reading_both : ∃ registry e, namesInTexts.close = .ok registry ∧
    (parseWithin registry (bareScope registry) maxDepth "\x7ba\x7d and \x7bb\x7d"
      (.many [objectType])).result = some e ∧
    (e.all (bareSight registry)).Always (· = []) ∧
    ∀ test dice, ∃ after, e.check (bareSight registry) test true dice = .ok (true, after) := by
  obtain ⟨registry, a, b, type, hclose, hread⟩ := exists_reading_both
  have hnone : ((list [.variable [.text a], .variable [.text b]] true type).all
      (bareSight registry)).Always (· = []) := fun dice => ⟨[], dice, rfl, rfl⟩
  refine ⟨registry, _, hclose, hread, hnone, fun test dice => ?_⟩
  obtain ⟨vs, behind, after, -, hchecked⟩ :=
    check_of_reading builtIn_namesInTexts hclose hread hnone test true dice
  exact ⟨after, hchecked⟩

/-- A denied check may hold of an expression without values. -/
theorem not_check_false_of_no_values : ¬∀ (r : Registration) (registry : Registry) (scope : Scope)
    (text : String) (slot : Slot) (e : Expression) (sight : Sight) (test : Value → Bool)
    (negated : Bool), (∀ e ∈ r.expressions, Vocabulary.BuiltIn e.setup) →
    r.close = .ok registry → (parseExpression registry scope text slot).result = some e →
    (e.all sight).Always (· = []) → (e.check sight test negated).Always (· = false) := by
  intro h
  obtain ⟨registry, a, b, type, hclose, hread⟩ := exists_reading_both
  have hfails := h namesInTexts registry (bareScope registry) _ _ _ (bareSight registry)
    (fun _ => true) true builtIn_namesInTexts hclose hread fun dice => ⟨[], dice, rfl, rfl⟩
  obtain ⟨_, _, hchecked, rfl⟩ := hfails default
  cases hchecked

end Parsing

end TriggerScript

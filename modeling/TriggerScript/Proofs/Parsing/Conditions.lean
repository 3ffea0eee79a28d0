import TriggerScript.Proofs.Vocabulary.Comparisons
import TriggerScript.Proofs.Parsing.Listed

/-!
# Conditions are read again

A condition is written down with its two sides and the words between them. If both sides are legible
and the words of comparisons do not stand free in them, it is read again as the same comparison of
expressions that are written alike.

* `Condition.legible` : what is read again as it is written down.
* `Compared` : what the built-in conditions are made of.
* `AlikeCondition` : comparisons that are written alike.
* `exists_parseCondition_describe` : conditions are read again.
-/

namespace TriggerScript

open Text Vocabulary

/-- Whether a condition is read again as it is written down. -/
def Condition.legible (scope : Scope) : Condition → Bool
  | .comparison first second _ _ =>
    first.legible scope && second.legible scope && first.standsBefore verbs &&
      second.standsBefore verbs
  | .declared _ _ _ => false

/-- Comparisons that are written alike and ask for the same relation. -/
inductive AlikeCondition : Condition → Condition → Prop
  | comparison {first first' second second' : Expression} (relation : Relation) (negated : Bool)
    (hfirst : Alike first first') (hsecond : Alike second second') :
    AlikeCondition (.comparison first second relation negated)
      (.comparison first' second' relation negated)

theorem AlikeCondition.describe {c c' : Condition} (h : AlikeCondition c c') :
    c'.describe false = c.describe false := by
  cases h with
  | comparison relation negated hfirst hsecond =>
    simp only [Condition.describe, hfirst.describe, hsecond.describe]

namespace Parsing

open Pattern

variable {registry : Registry} {word : Regex} {scope : Scope} {read : Reader} {text : String}
  {slot : Slot} {first second : Expression} {c : Condition}

/-! ### What is read as a condition -/

/-- A condition whose sides were read by some reader: an order of numbers, or the equality of any
values. -/
inductive Compared (read : Reader) : Condition → Prop
  | order {first second : Expression} {text text' : String} (less orEqual : Bool)
    (hfirst : (read text numberSlot).result = some first)
    (hsecond : (read text' numberSlot).result = some second) :
    Compared read (.comparison first second (relationOf (orderMark less orEqual)) false)
  | equality {first second : Expression} {text text' : String} (negated : Bool)
    (hfirst : (read text objectsSlot).result = some first)
    (hsecond : (read text' objectsSlot).result = some second) :
    Compared read (.comparison first second .equal negated)

theorem relationOf_denialMark (negated : Bool) : relationOf (denialMark negated) = .equal := by
  cases negated <;> decide

/-- Orders are never denied. -/
theorem not_denied_order (less orEqual : Bool) (index : Nat) :
    ((orderMark less orEqual &&& 8 == 8) ||
      (relationOf (orderMark less orEqual) == .equal && index == 1)) = false := by
  have hmark : (orderMark less orEqual &&& 8 == 8) = false := by
    cases less <;> cases orEqual <;> decide
  have hrelation : (relationOf (orderMark less orEqual) == .equal) = false := by
    cases less <;> cases orEqual <;> decide
  rw [hmark, hrelation, Bool.false_and, Bool.or_false]

/-- The condition that a match with two sides is set up as. -/
theorem result_comparison {index : Nat} {mark : Int32} {low high : Span} :
    (runSetup read scope.location (comparison scope (capture index
      ⟨mark, [some low, some high], []⟩ [some first, some second]))).result =
      some (.comparison first second (relationOf mark)
        ((mark &&& 8 == 8) || (relationOf mark == .equal && index == 1))) :=
  rfl

/-- The patterns of conditions leave the marks of an order or of an equality. -/
theorem compared_of_matchElement {patterns : List Pattern}
    (hpatterns : patterns ∈ [[comparisonPattern], [isPattern, isntPattern]])
    (h : (matchElement read scope comparison patterns text).result = some c) :
    Compared read c := by
  obtain ⟨capture, ⟨index, p, hp, hmatch⟩, hsetup⟩ := exists_of_matchElement h
  rw [result_matchPattern_eq] at hmatch
  obtain ⟨split, hsplit, hmatch⟩ := List.exists_of_findSome?_eq_some hmatch
  obtain ⟨parts, hparts, rfl⟩ := Option.map_eq_some_iff.1 hmatch
  have hequal {low high : Span} {negated : Bool} (hslots : p.slots = [objectsSlot, objectsSlot])
      (heq : split = ⟨denialMark negated, [some low, some high], []⟩) : Compared read c := by
    subst heq
    rw [hslots] at hparts
    obtain ⟨first, second, rfl, hfirst, hsecond⟩ := exists_of_parseSlots_pair hparts
    rw [result_comparison, relationOf_denialMark] at hsetup
    cases hsetup
    exact .equality _ hfirst hsecond
  simp only [List.mem_cons, List.not_mem_nil, or_false] at hpatterns
  rcases hpatterns with rfl | rfl
  · obtain rfl := List.mem_singleton.1 hp
    obtain ⟨low, high, less, orEqual, rfl⟩ := mark_of_mem_splits_comparison hsplit
    obtain ⟨first, second, rfl, hfirst, hsecond⟩ := exists_of_parseSlots_pair hparts
    rw [result_comparison, not_denied_order] at hsetup
    cases hsetup
    exact .order less orEqual hfirst hsecond
  · simp only [List.mem_cons, List.not_mem_nil, or_false] at hp
    rcases hp with rfl | rfl
    · obtain ⟨low, high, negated, hsplit⟩ := mark_of_mem_splits_is hsplit
      exact hequal rfl hsplit
    · obtain ⟨low, high, negated, hsplit⟩ := mark_of_mem_splits_isnt hsplit
      exact hequal rfl hsplit

theorem result_matchElement_map {α β : Type} (setup : Scope → Capture → Setup α) (f : α → β)
    (patterns : List Pattern) :
    (matchElement read scope (fun scope c => (setup scope c).map f) patterns text).result =
      (matchElement read scope setup patterns text).result.map f := by
  rw [matchElement, matchElement, result_firstOf, result_firstOf, List.map_findSome?]
  congr 1
  funext entry
  simp only [Function.comp_apply, result_bind, result_runSetup_map, Option.map_bind]

/-- Conditions are tried in order. -/
theorem result_parseCondition (hregistry : builtIn = .ok registry) (text : String) :
    (parseCondition registry scope text).result =
      (matchElement (parseExpression registry scope) scope comparison [comparisonPattern]
        (trimString text)).result.or
      (matchElement (parseExpression registry scope) scope comparison [isPattern, isntPattern]
        (trimString text)).result := by
  rw [parseCondition, result_bind, parseAmong, conditions_of_builtIn hregistry,
    Attempt.result_framed, result_firstOf]
  simp only [List.findSome?_cons, List.findSome?_nil, tryStatement, comparisonEntry, isEntry]
  have hrun (patterns : List Pattern) : (matchElement (parseExpression registry scope) scope
      (StatementSetup.condition comparison).run patterns (trimString text)).result = _ :=
    result_matchElement_map comparison Statement.condition patterns
  rw [hrun, hrun]
  cases (matchElement (parseExpression registry scope) scope comparison [comparisonPattern]
      (trimString text)).result <;>
    cases (matchElement (parseExpression registry scope) scope comparison [isPattern, isntPattern]
      (trimString text)).result <;> rfl

/-- **What is read as a condition is a comparison.** -/
theorem compared_of_parseCondition (hregistry : builtIn = .ok registry)
    (h : (parseCondition registry scope text).result = some c) :
    Compared (parseExpression registry scope) c := by
  rw [result_parseCondition hregistry, Option.or_eq_some_iff] at h
  rcases h with h | ⟨-, h⟩
  · exact compared_of_matchElement (by simp) h
  · exact compared_of_matchElement (by simp) h

/-! ### How it is written down -/

theorem toList_describe_order (less orEqual : Bool) :
    ((Condition.comparison first second (relationOf (orderMark less orEqual)) false).describe
      false).toList = comparedText first.spelling
        (waysText (orderWays less ++ orEqualWays orEqual second.spelling)) := by
  have hwords : (Condition.relationWords (relationOf (orderMark less orEqual)) false).toList =
      ['i', 's', ' '] ++ ((orderWord less).2.2 ++ ([' ', 't', 'h', 'a', 'n'] ++
        if orEqual then " or equal to".toList else [])) := by
    cases less <;> cases orEqual <;> decide
  rw [Condition.describe, waysText_orderWays, comparedText]
  simp only [String.toList_append, hwords, Expression.spelling]
  cases orEqual <;> simp [orEqualWays, waysText, Way.text]

theorem exists_front_order (less orEqual : Bool) (high : List Char) :
    ∃ front, waysText (orderWays less ++ orEqualWays orEqual high) = front ++ high := by
  rw [waysText_orderWays]
  refine ⟨(orderWord less).2.2 ++ ' ' :: (['t', 'h', 'a', 'n'] ++ ' ' ::
    if orEqual then "or equal to ".toList else []), ?_⟩
  cases orEqual <;> simp [orEqualWays, waysText, Way.text]

theorem toList_describe_equality (negated : Bool) :
    ((Condition.comparison first second .equal negated).describe false).toList =
      comparedText first.spelling (waysText (notWays negated second.spelling)) := by
  rw [Condition.describe, waysText_notWays, comparedText]
  cases negated <;>
    simp [Condition.relationWords, denial, String.toList_append, Expression.spelling]

/-! ### How it is read again -/

/-- A side of a comparison as it is written down. -/
structure Side (read : Reader) (slot : Slot) (e e' : Expression) : Prop where
  alike : Alike e e'
  again : (read (e.describe false) slot).result = some e'
  free : Free verbs e.spelling
  leads : leads e.spelling = true
  trimmed : Trimmed e.spelling

theorem Side.admissible {e e' : Expression} (h : Side read slot e e') : Admissible e.spelling :=
  admissible_of_free h.free h.trimmed (ne_nil_of_leads h.leads)

theorem exists_side (hread : Renews scope read read) {e : Expression}
    (h : (read text slot).result = some e) (hlegible : e.legible scope = true)
    (hfree : e.standsBefore verbs = true) : ∃ e', Side read slot e e' := by
  have hrenewed := hread h hlegible
  obtain ⟨e', hagain, halike⟩ := hrenewed.again
  exact ⟨e', halike, hagain, of_decide_eq_true hfree, hrenewed.written.leads,
    hrenewed.written.trimmed⟩

section Again

variable {first' second' : Expression}

theorem Side.result_parseSlots {slots : List Slot} {a b : Span} (hslots : slots = [slot, slot])
    (hfirst : Side read slot first first') (hsecond : Side read slot second second')
    (ha : a.text = first.spelling) (hb : b.text = second.spelling) :
    (parseSlots read scope slots [some a, some b]).result = some [some first', some second'] := by
  refine result_parseSlots_pair hslots ?_ ?_
  · rw [ha, Expression.spelling, String.ofList_toList]
    exact hfirst.again
  · rw [hb, Expression.spelling, String.ofList_toList]
    exact hsecond.again

/-- A comparison begins with its first side and ends with its second one. -/
theorem Side.trimmed_compared {rest : List Char} (hfirst : Side read slot first first')
    (hsecond : Side read slot second second') (hrest : ∃ front, rest = front ++ second.spelling) :
    Text.leads (comparedText first.spelling rest) = true ∧
      Trimmed (comparedText first.spelling rest) := by
  obtain ⟨front, rfl⟩ := hrest
  have hleads : Text.leads (comparedText first.spelling (front ++ second.spelling)) = true :=
    leads_append hfirst.leads
  refine ⟨hleads, not_isBlank_of_leads hleads, ?_⟩
  have hsplit : comparedText first.spelling (front ++ second.spelling) =
      (first.spelling ++ (' ' :: (['i', 's'] ++ ' ' :: front))) ++ second.spelling := by
    simp [comparedText]
  rw [hsplit, List.getLast?_append_of_ne_nil _ (ne_nil_of_leads hsecond.leads)]
  exact hsecond.trimmed.last

theorem result_order (less orEqual : Bool) (hfirst : Side read numberSlot first first')
    (hsecond : Side read numberSlot second second') (htext : text.toList = comparedText first.spelling
      (waysText (orderWays less ++ orEqualWays orEqual second.spelling))) :
    (matchElement read scope comparison [comparisonPattern] text).result =
      some (.comparison first' second' (relationOf (orderMark less orEqual)) false) := by
  obtain ⟨a, b, hsplit, ha, hb⟩ := head?_splits_comparison less orEqual hfirst.free hfirst.trimmed
    (ne_nil_of_leads hfirst.leads) hsecond.admissible hsecond.leads
  rw [← htext] at hsplit
  refine result_matchElement_of_first hsplit (hfirst.result_parseSlots rfl hsecond ha hb) ?_
  rw [result_comparison, not_denied_order]

theorem result_equality (negated : Bool) (hfirst : Side read objectsSlot first first')
    (hsecond : Side read objectsSlot second second') (htext : text.toList =
      comparedText first.spelling (waysText (notWays negated second.spelling))) :
    (matchElement read scope comparison [comparisonPattern] text).result = none ∧
      (matchElement read scope comparison [isPattern, isntPattern] text).result =
        some (.comparison first' second' .equal negated) := by
  constructor
  · -- The pattern of orders comes first, and its words are not there.
    refine result_matchElement_eq_none fun p hp index split hsplit => ?_
    obtain rfl := List.mem_singleton.1 hp
    rw [htext, splits_comparison_eq_nil negated hfirst.free hfirst.trimmed hsecond.free
      hsecond.leads hsecond.trimmed] at hsplit
    cases hsplit
  · -- It is written with `is`, also where it was read with `isn't`.
    obtain ⟨a, b, hsplit, ha, hb⟩ := head?_splits_is negated hfirst.free hfirst.trimmed
      (ne_nil_of_leads hfirst.leads) hsecond.admissible hsecond.leads
    rw [← htext] at hsplit
    refine result_matchElement_of_first hsplit (hfirst.result_parseSlots rfl hsecond ha hb) ?_
    rw [result_comparison, relationOf_denialMark]
    cases negated <;> rfl

end Again

/-- **Conditions are read again as they are written down.** -/
theorem exists_parseCondition_describe (hregistry : builtIn = .ok registry)
    (hsystem : scope.system = registry.system)
    (h : (parseCondition registry scope text).result = some c)
    (hlegible : c.legible scope = true) :
    (∃ c', (parseCondition registry scope (c.describe false)).result = some c' ∧
        AlikeCondition c c') ∧
      leads (c.describe false).toList = true ∧ Trimmed (c.describe false).toList := by
  have hread := @renews_parseExpression registry scope hregistry hsystem
  cases compared_of_parseCondition hregistry h with
  | @order first second _ _ less orEqual hfirst hsecond =>
    simp only [Condition.legible, Bool.and_eq_true] at hlegible
    obtain ⟨⟨⟨hlegible, hlegible'⟩, hfree⟩, hfree'⟩ := hlegible
    obtain ⟨first', hfirst⟩ := exists_side hread hfirst hlegible hfree
    obtain ⟨second', hsecond⟩ := exists_side hread hsecond hlegible' hfree'
    have htext := @toList_describe_order first second less orEqual
    have hends := hfirst.trimmed_compared hsecond
      (exists_front_order less orEqual second.spelling)
    rw [← htext] at hends
    refine ⟨⟨_, ?_, .comparison _ _ hfirst.alike hsecond.alike⟩, hends⟩
    rw [result_parseCondition hregistry, trimString_of_trimmed hends.2,
      result_order less orEqual hfirst hsecond htext, Option.some_or]
  | @equality first second _ _ negated hfirst hsecond =>
    simp only [Condition.legible, Bool.and_eq_true] at hlegible
    obtain ⟨⟨⟨hlegible, hlegible'⟩, hfree⟩, hfree'⟩ := hlegible
    obtain ⟨first', hfirst⟩ := exists_side hread hfirst hlegible hfree
    obtain ⟨second', hsecond⟩ := exists_side hread hsecond hlegible' hfree'
    have htext := @toList_describe_equality first second negated
    have hends := hfirst.trimmed_compared hsecond ⟨_, waysText_notWays negated second.spelling⟩
    rw [← htext] at hends
    obtain ⟨hnone, hagain⟩ := result_equality negated hfirst hsecond htext
    refine ⟨⟨_, ?_, .comparison _ _ hfirst.alike hsecond.alike⟩, hends⟩
    rw [result_parseCondition hregistry, trimString_of_trimmed hends.2, hnone, hagain,
      Option.none_or]

end Parsing

end TriggerScript

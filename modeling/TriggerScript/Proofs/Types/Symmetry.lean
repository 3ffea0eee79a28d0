import TriggerScript.Proofs.Registry.Closing
import TriggerScript.Proofs.Vocabulary.Patterns
import TriggerScript.Vocabulary.Declared

/-!
# Comparing the other way round

Two values are compared by the first comparator that is found for their types, in this order or the
other; if there is none, the second value is converted, and then the first. Seen from the other side
the same answers come up in the opposite order. So a comparison is the same from both sides exactly
if the first answer is also the last one.

* `Comparator.Consistent` : a comparator says the same from both sides.
* `TypeSystem.judgements` : what the comparators found for two values say of them, as they are.
* `TypeSystem.answers` : the same for the values as they are or else with one of them converted.
* `TypeSystem.compare_eq_answers` : the first answer decides.
* `TypeSystem.answers_swap` : from the other side, the answers come up in the opposite order.
* `compare_switched_iff` : when a comparison is the same from both sides.
* `Vocabulary.compare_builtIn_switched` : with the built-in types it always is.
-/

namespace TriggerScript

/-! ### The same from both sides -/

namespace Relation

@[simp] theorem switched_switched (r : Relation) : r.switched.switched = r := by
  cases r <;> rfl

theorem switched_inj {r s : Relation} : r.switched = s.switched ↔ r = s :=
  ⟨fun h => by rw [← switched_switched r, h, switched_switched], congrArg _⟩

/-- One relation holds of what another says exactly if this is so from the other side. -/
theorem impliedBy_switched (r actual : Relation) :
    r.switched.impliedBy actual.switched = r.impliedBy actual := by
  cases r <;> cases actual <;> rfl

theorem switched_ofOrdering (o : Ordering) : (ofOrdering o).switched = ofOrdering o.swap := by
  cases o <;> rfl

end Relation

/-- Values given the other way round compare as the relation says from the other side. -/
def Comparator.Consistent (c : Comparator) : Prop :=
  ∀ a b, c.run b a = (c.run a b).switched

/-- What is found is registered and accepts both types. -/
theorem Comparators.find?_eq_some {cs : Comparators} {types : TypeTable} {a b : String}
    {c : Comparator} (h : cs.find? types a b = some c) : c ∈ cs.list ∧
      types.isAssignable a c.first = true ∧ types.isAssignable b c.second = true := by
  rcases Option.or_eq_some_iff.1 h with h | ⟨-, h⟩
  · have hends := List.find?_some h
    simp only [Bool.and_eq_true, beq_iff_eq] at hends
    obtain ⟨rfl, rfl⟩ := hends
    exact ⟨List.mem_of_find?_eq_some h, types.isAssignable_refl _, types.isAssignable_refl _⟩
  · exact ⟨List.mem_of_find?_eq_some h, by simpa only [Bool.and_eq_true] using List.find?_some h⟩

theorem Decimal.compare?_swap (x y : Number) :
    Decimal.compare? y x = (Decimal.compare? x y).map Ordering.swap := by
  simp only [Decimal.compare?]
  rw [Bool.or_comm]
  split
  · rfl
  · rw [Option.map_some, Int.compare_swap]

theorem Decimal.same_comm (x y : Number) : Decimal.same x y = Decimal.same y x := by
  rw [Decimal.same, Decimal.same, Decimal.compare?_swap x y]
  cases Decimal.compare? x y with
  | none => rfl
  | some o => cases o <;> rfl

theorem Value.same_comm (a b : Value) : a.same b = b.same a := by
  cases a <;> cases b <;> simp only [same, Decimal.same_comm, Bool.beq_comm]

theorem Text.compareChars_swap (as bs : List Char) :
    Text.compareChars bs as = (Text.compareChars as bs).swap := by
  induction as generalizing bs with
  | nil => cases bs <;> rfl
  | cons a as ih =>
    cases bs with
    | nil => rfl
    | cons b bs =>
      rw [Text.compareChars, Text.compareChars, ih, Ordering.swap_then, Nat.compare_swap]

namespace TypeSystem

variable {s : TypeSystem} {a b : Value}

/-! ### The answers that a comparison can get -/

/-- The comparators for the types of two values, found in this order and in the other. -/
def judges (s : TypeSystem) (a b : Value) : List Comparator :=
  (s.comparators.find? s.types a.typeName b.typeName).toList ++
    (s.comparators.find? s.types b.typeName a.typeName).toList

/-- What they say of the values. -/
def judgements (s : TypeSystem) (a b : Value) : List Relation :=
  (s.judges a b).map fun c => c.run a b

/-- What comparators say of the values, as they are or else with one of them converted to the type
of the other, the second one first. -/
def answers (s : TypeSystem) (a b : Value) : List Relation :=
  if (s.judgements a b).isEmpty then
    (s.convert b a.typeName).toList.flatMap (s.judgements a) ++
      (s.convert a b.typeName).toList.flatMap fun a' => s.judgements a' b
  else s.judgements a b

/-- What is said of two values that nothing is known to compare. -/
def equality (a b : Value) : Relation :=
  if a.same b then .equal else .notEqual

theorem mem_of_mem_judges {c : Comparator} (h : c ∈ s.judges a b) : c ∈ s.comparators.list := by
  rcases List.mem_append.1 h with h | h <;>
    exact (Comparators.find?_eq_some (Option.mem_toList.1 h)).1

theorem judges_swap (s : TypeSystem) (a b : Value) : s.judges b a = (s.judges a b).reverse := by
  rw [judges, judges, List.reverse_append]
  cases s.comparators.find? s.types a.typeName b.typeName <;>
    cases s.comparators.find? s.types b.typeName a.typeName <;> rfl

section Consistent

variable (hconsistent : ∀ c ∈ s.comparators.list, c.Consistent)

include hconsistent

/-- The first judgement is what comparing the values as they are comes to. -/
theorem compareDirect?_eq_head? (a b : Value) :
    s.comparators.compareDirect? s.types a b = (s.judgements a b).head? := by
  unfold Comparators.compareDirect? judgements judges
  split
  · next c hc => rw [hc]; rfl
  · next hnone =>
    rw [hnone]
    cases hback : s.comparators.find? s.types b.typeName a.typeName with
    | none => rfl
    | some c =>
      have hmem : c ∈ s.judges a b := List.mem_append_right _ (by rw [hback]; exact .head _)
      have hrun := hconsistent c (mem_of_mem_judges hmem) b a
      exact congrArg some hrun.symm

theorem judgements_swap (a b : Value) :
    s.judgements b a = (s.judgements a b).reverse.map Relation.switched := by
  rw [judgements, judgements, judges_swap, ← List.map_reverse, List.map_map]
  refine List.map_congr_left fun c hc => ?_
  exact hconsistent c (mem_of_mem_judges (List.mem_reverse.1 hc)) a b

/-- **From the other side, the answers come up in the opposite order.** -/
theorem answers_swap (a b : Value) :
    s.answers b a = (s.answers a b).reverse.map Relation.switched := by
  have hempty : (s.judgements b a).isEmpty = (s.judgements a b).isEmpty := by
    rw [judgements_swap hconsistent a b, List.isEmpty_map, List.isEmpty_reverse]
  rw [answers, answers, hempty]
  split
  · -- What the one side converts second, the other side converts first.
    rw [List.reverse_append, List.map_append]
    congr 1
    · cases s.convert a b.typeName with
      | none => rfl
      | some a' => simpa using judgements_swap hconsistent a' b
    · cases s.convert b a.typeName with
      | none => rfl
      | some b' => simpa using judgements_swap hconsistent a b'
  · exact judgements_swap hconsistent a b

/-- **The first answer decides;** without any, equality does. -/
theorem compare_eq_answers (a b : Value) :
    s.compare a b = (s.answers a b).head?.getD (equality a b) := by
  have hconverted (v : Option Value) (f : Value → List Relation) :
      (v.toList.flatMap f).head? = v.bind fun w => (f w).head? := by
    cases v <;> simp
  have hdirect := compareDirect?_eq_head? hconsistent
  have hanswers : (s.answers a b).head? = (((s.judgements a b).head?.or
      ((s.convert b a.typeName).bind fun b' => (s.judgements a b').head?)).or
      ((s.convert a b.typeName).bind fun a' => (s.judgements a' b).head?)) := by
    rw [answers]
    cases s.judgements a b with
    | nil =>
      rw [List.isEmpty_nil, if_pos rfl, List.head?_append, hconverted, hconverted]
      rfl
    | cons r rest => rfl
  rw [hanswers, TypeSystem.compare, Comparators.compare]
  simp only [hdirect, convert]
  split
  · next h => rw [h]; rfl
  · next h => rw [h]; rfl

/-- **A comparison is the same from both sides exactly if the first answer is the last one too.** -/
theorem compare_eq_switched_iff (a b : Value) :
    s.compare b a = (s.compare a b).switched ↔
      (s.answers a b).head? = (s.answers a b).getLast? := by
  rw [compare_eq_answers hconsistent, compare_eq_answers hconsistent,
    answers_swap hconsistent a b, List.head?_map, List.head?_reverse]
  cases hfirst : (s.answers a b).head? with
  | none =>
    rw [List.head?_eq_none_iff.1 hfirst]
    refine iff_of_true ?_ rfl
    simp only [List.getLast?_nil, Option.map_none, Option.getD_none, equality,
      Value.same_comm b a]
    split <;> rfl
  | some first =>
    obtain ⟨rest, hanswers⟩ := List.head?_eq_some_iff.1 hfirst
    rw [hanswers, List.getLast?_cons, Option.map_some, Option.getD_some, Option.getD_some,
      Relation.switched_inj, Option.some_inj, eq_comm]

end Consistent

/-- Values of one type are compared by one comparator, if there is any. -/
theorem head?_judgements_of_typeName (h : a.typeName = b.typeName) :
    (s.judgements a b).head? = (s.judgements a b).getLast? := by
  rw [judgements, judges, h]
  cases s.comparators.find? s.types b.typeName b.typeName <;> rfl

theorem answers_of_typeName (h : a.typeName = b.typeName) : s.answers a b = s.judgements a b := by
  have hkept (v : Value) : s.convert v v.typeName = some v :=
    if_pos (s.types.isAssignable_refl v.typeName)
  have hsecond : s.convert b a.typeName = some b := h ▸ hkept b
  have hfirst : s.convert a b.typeName = some a := h ▸ hkept a
  rw [answers]
  split
  · next hempty => rw [hsecond, hfirst]; simp [List.isEmpty_iff.1 hempty]
  · rfl

theorem head?_answers_of_typeName (h : a.typeName = b.typeName) :
    (s.answers a b).head? = (s.answers a b).getLast? := by
  rw [answers_of_typeName h, head?_judgements_of_typeName h]

end TypeSystem

/-- **Comparing the other way round.** If all comparators say the same from both sides, a comparison
is the same from both sides exactly if the first answer to it is also the last one; this is so of
values of one type. Then a relation holds from one side exactly if the switched one holds from the
other. -/
theorem compare_switched_iff {r : Registration} {registry : Registry}
    (hclose : r.close = .ok registry) (hconsistent : ∀ c ∈ r.comparators.list, c.Consistent)
    (a b : Value) :
    let s := registry.system
    (s.compare b a = (s.compare a b).switched ↔
      (s.answers a b).head? = (s.answers a b).getLast?) ∧
    (a.typeName = b.typeName → s.compare b a = (s.compare a b).switched) ∧
    (s.compare b a = (s.compare a b).switched →
      ∀ relation : Relation, s.holds b relation.switched a = s.holds a relation b) := by
  intro s
  obtain ⟨entries, hclosed⟩ := Registration.closed_of_close hclose
  have hcomparators : ∀ c ∈ s.comparators.list, c.Consistent := by
    rwa [show s.comparators = r.comparators from hclosed.comparators]
  have hiff := TypeSystem.compare_eq_switched_iff hcomparators a b
  refine ⟨hiff, fun htype => hiff.2 (TypeSystem.head?_answers_of_typeName htype),
    fun hswitched relation => ?_⟩
  rw [TypeSystem.holds, TypeSystem.holds, hswitched, Relation.impliedBy_switched]

/-! ### The built-in types -/

namespace Vocabulary

theorem consistent_compareNumbers (first second : String) (ordered : Bool) :
    Comparator.Consistent ⟨first, second, compareNumbers, ordered⟩ := by
  intro a b
  cases a <;> cases b <;> try rfl
  next x y =>
    simp only [compareNumbers, Decimal.compare?_swap x y]
    cases Decimal.compare? x y with
    | none => rfl
    | some o => exact (Relation.switched_ofOrdering o).symm

theorem consistent_compareTexts (first second : String) (ordered : Bool) :
    Comparator.Consistent ⟨first, second, compareTexts, ordered⟩ := by
  intro a b
  cases a <;> cases b <;> try rfl
  next x y =>
    simp only [compareTexts, Text.compareChars_swap (Text.lower x.toList) (Text.lower y.toList),
      Relation.switched_ofOrdering]

theorem consistent_compareBooleans (first second : String) (ordered : Bool) :
    Comparator.Consistent ⟨first, second, compareBooleans, ordered⟩ := by
  intro a b
  simp only [compareBooleans, Value.same_comm b a]
  split <;> rfl

/-- The built-in comparators say the same from both sides. -/
theorem consistent_typesOnly : ∀ c ∈ typesOnly.comparators.list, c.Consistent := by
  refine List.forall_mem_cons.2 ⟨consistent_compareNumbers _ _ _, List.forall_mem_cons.2
    ⟨consistent_compareTexts _ _ _, List.forall_mem_singleton.2 (consistent_compareBooleans _ _ _)⟩⟩

/-- Above a built-in type there is only the most general one. -/
theorem eq_of_isAssignable_builtIn {x y : String} (h : builtInTypes.isAssignable x y = true) :
    y = objectType ∨ x = y := by
  have hrooted : builtInTypes.Rooted := rfl
  have hsuper : ∀ info ∈ builtInTypes.infos, ∀ above, info.supertype = some above →
      above = objectType := by
    decide
  rcases TypeTable.isAssignable_iff.1 h with rfl | ⟨_ | i, hup⟩
  · exact .inl rfl
  · exact .inr (Option.some.inj hup)
  · obtain ⟨above, habove, hup⟩ := Option.bind_eq_some_iff.1 hup
    obtain ⟨info, hinfo, habove⟩ := Option.bind_eq_some_iff.1 habove
    rw [hsuper info (List.mem_of_find?_eq_some hinfo) above habove] at hup
    exact .inl (hrooted.eq_object (TypeTable.isAssignable_iff.2 (.inr ⟨i, hup⟩)))

section BuiltIn

variable {s : TypeSystem} {a b : Value} (htypes : s.types = builtInTypes)
  (hconversions : s.conversions = builtInConversions)
  (hcomparators : s.comparators = typesOnly.comparators)

include htypes hcomparators

/-- The built-in comparators are each for values of one type. -/
theorem typeName_eq_of_judges (h : s.judges a b ≠ []) :
    a.typeName = b.typeName ∧ a.typeName ≠ objectType := by
  have hones : ∀ c ∈ typesOnly.comparators.list, c.first = c.second ∧ c.first ≠ objectType := by
    decide
  have hfound {x y : String} {c : Comparator} (hc : s.comparators.find? s.types x y = some c) :
      x = y ∧ x ≠ objectType := by
    obtain ⟨hmem, hfirst, hsecond⟩ := Comparators.find?_eq_some hc
    rw [hcomparators] at hmem
    rw [htypes] at hfirst hsecond
    obtain ⟨hsame, hne⟩ := hones c hmem
    have hx := (eq_of_isAssignable_builtIn hfirst).resolve_left hne
    have hy := (eq_of_isAssignable_builtIn hsecond).resolve_left (hsame ▸ hne)
    exact ⟨hx.trans (hsame.trans hy.symm), hx ▸ hne⟩
  obtain ⟨c, hc⟩ := List.exists_mem_of_ne_nil _ h
  rcases List.mem_append.1 hc with hc | hc
  · exact hfound (Option.mem_toList.1 hc)
  · obtain ⟨hsame, hne⟩ := hfound (Option.mem_toList.1 hc)
    exact ⟨hsame.symm, hsame ▸ hne⟩

theorem head?_judgements_builtIn (a b : Value) :
    (s.judgements a b).head? = (s.judgements a b).getLast? := by
  by_cases hjudges : s.judges a b = []
  · rw [TypeSystem.judgements, hjudges]
    rfl
  · have htype := (typeName_eq_of_judges htypes hcomparators hjudges).1
    exact TypeSystem.head?_judgements_of_typeName htype

include hconversions

/-- Where a value is converted to be compared with one of another type, it becomes a text. -/
theorem eq_text_of_converted {a b b' : Value} (hne : a.typeName ≠ b.typeName)
    (hconvert : s.convert b a.typeName = some b') (h : s.judges a b' ≠ []) :
    a.typeName = textType := by
  obtain ⟨-, hobject⟩ := typeName_eq_of_judges htypes hcomparators h
  have htexts : ∀ c ∈ builtInConversions.list, c.target = textType := by decide
  rw [TypeSystem.convert, Conversions.convert, htypes] at hconvert
  split at hconvert
  · next hkept =>
    rcases eq_of_isAssignable_builtIn hkept with heq | heq
    · exact absurd heq hobject
    · exact absurd heq.symm hne
  · obtain ⟨c, hc, -⟩ := Option.bind_eq_some_iff.1 hconvert
    obtain ⟨hmem, -, htarget⟩ := Conversions.find?_eq_some hc
    rw [hconversions] at hmem
    rw [htexts c hmem] at htarget
    exact ((eq_of_isAssignable_builtIn htarget).resolve_left hobject).symm

theorem converted_eq_nil (hne : a.typeName ≠ b.typeName) :
    (s.convert b a.typeName).toList.flatMap (s.judgements a) = [] ∨
      (s.convert a b.typeName).toList.flatMap (s.judgements · b) = [] := by
  have hjudged {v : Option Value} {f : Value → List Relation} (h : v.toList.flatMap f ≠ []) :
      ∃ w, v = some w ∧ f w ≠ [] := by
    cases v with
    | none => exact absurd rfl h
    | some w => exact ⟨w, rfl, by simpa using h⟩
  by_contra! hboth
  obtain ⟨b', hb', hsecond⟩ := hjudged hboth.1
  obtain ⟨a', ha', hfirst⟩ := hjudged hboth.2
  have hfirst : s.judges b a' ≠ [] := fun h =>
    hfirst (congrArg _ (List.reverse_eq_nil_iff.1 (s.judges_swap .. ▸ h)))
  have ha := eq_text_of_converted htypes hconversions hcomparators hne hb' (mt (congrArg _) hsecond)
  have hb := eq_text_of_converted htypes hconversions hcomparators hne.symm ha' hfirst
  exact hne (ha.trans hb.symm)

end BuiltIn

/-- **With the built-in types a comparison is the same from both sides.** Only to texts is there a
way to convert values, so that no more than one of two values can be converted. -/
theorem compare_builtIn_switched {registry : Registry} (h : builtIn = .ok registry)
    (a b : Value) : registry.system.compare b a = (registry.system.compare a b).switched := by
  rw [builtIn, addAll_empty, Except.bind] at h
  obtain ⟨entries, hclosed⟩ := Registration.closed_of_close h
  have htypes : registry.system.types = builtInTypes := hclosed.types
  have hconversions : registry.system.conversions = builtInConversions := hclosed.conversions
  have hcomparators : registry.system.comparators = typesOnly.comparators := hclosed.comparators
  generalize registry.system = s at *
  refine (TypeSystem.compare_eq_switched_iff (hcomparators ▸ consistent_typesOnly) a b).2 ?_
  by_cases hsame : a.typeName = b.typeName
  · exact TypeSystem.head?_answers_of_typeName hsame
  have hnone : s.judgements a b = [] := by
    by_contra hjudged
    have hjudges : s.judges a b ≠ [] := mt (congrArg _) hjudged
    exact hsame (typeName_eq_of_judges htypes hcomparators hjudges).1
  have hconverted (v : Option Value) (f : Value → List Relation)
      (hf : ∀ w, (f w).head? = (f w).getLast?) :
      (v.toList.flatMap f).head? = (v.toList.flatMap f).getLast? := by
    cases v <;> simp [hf]
  have hends := head?_judgements_builtIn htypes hcomparators
  have hsecond := hconverted (s.convert b a.typeName) (s.judgements a) (hends a)
  have hfirst := hconverted (s.convert a b.typeName) (s.judgements · b) (hends · b)
  rw [TypeSystem.answers, hnone, List.isEmpty_nil, if_pos rfl]
  rcases converted_eq_nil htypes hconversions hcomparators hsame with hempty | hempty
  · rw [hempty, List.nil_append, hfirst]
  · rw [hempty, List.append_nil, hsecond]

/-! ### Numbers and texts -/

/-- The built-in types, with texts that can be read as numbers. -/
def readings : Registration :=
  typesOnly.addConversion textType numberType ConversionRule.textToNumber.run

def readingsRegistry : Registry :=
  { system := ⟨readings.types, readings.conversions.close readings.types, readings.comparators⟩
    expressions := [], statements := [], headers := [] }

theorem close_readings : readings.close = .ok readingsRegistry := rfl

/-- Ten is below eleven, and the other way round. -/
theorem compare_switched_iff_eleven :
    readings.close = .ok readingsRegistry ∧ (∀ c ∈ readings.comparators.list, c.Consistent) ∧
    readingsRegistry.system.compare (.number (.ofNat 10)) (.text "11") = .smaller ∧
    readingsRegistry.system.compare (.text "11") (.number (.ofNat 10)) = .greater ∧
    readingsRegistry.system.holds (.text "11") .greater (.number (.ofNat 10)) = true := by
  have hsmaller :
      readingsRegistry.system.compare (.number (.ofNat 10)) (.text "11") = .smaller := by
    decide +kernel
  have hanswers : readingsRegistry.system.answers (.number (.ofNat 10)) (.text "11") =
      [.smaller, .smaller, .smaller, .smaller] := by decide +kernel
  obtain ⟨hiff, -, hholds⟩ := compare_switched_iff close_readings consistent_typesOnly
    (.number (.ofNat 10)) (.text "11")
  have hswitched := hiff.2 (by rw [hanswers]; rfl)
  refine ⟨close_readings, consistent_typesOnly, hsmaller, by rw [hswitched, hsmaller]; rfl, ?_⟩
  rw [show Relation.greater = Relation.smaller.switched from rfl, hholds hswitched,
    TypeSystem.holds, hsmaller]
  rfl

/-- Ten is above nine as a number, and nine above ten as a text. -/
theorem not_compare_switched_nine : ¬∀ (r : Registration) (registry : Registry),
    r.close = .ok registry → (∀ c ∈ r.comparators.list, c.Consistent) → ∀ a b : Value,
      registry.system.compare b a = (registry.system.compare a b).switched := by
  intro h
  have hten := h readings readingsRegistry close_readings consistent_typesOnly
    (.number (.ofNat 10)) (.text "9")
  have hnumbers : readingsRegistry.system.compare (.number (.ofNat 10)) (.text "9") = .greater := by
    decide +kernel
  have htexts : readingsRegistry.system.compare (.text "9") (.number (.ofNat 10)) = .greater := by
    decide +kernel
  rw [hnumbers, htexts] at hten
  cases hten

end Vocabulary

end TriggerScript

import TriggerScript.Syntax.Evaluation
import Mathlib.Tactic.Common

/-!
# What expressions produce

A value can come out of an expression when all values are asked for, when the values are taken as
effects see them, or when a loop takes them one by one. What the dice show does not matter here.

* `Eval.Gives` : the results that a computation can have.
* `Expression.Produces` : the values that can come out of an expression.
* `produces_literal`, `produces_list`, `produces_converted` and so on : what can come out of each
  form of expression.
-/

namespace TriggerScript

/-! ### Results of computations -/

/-- The computation has this result for some dice. -/
def Eval.Gives {α : Type} (m : Eval α) (a : α) : Prop :=
  ∃ dice dice', m dice = .ok (a, dice')

namespace Eval

variable {α β : Type}

@[simp] theorem gives_pure {a b : α} : Gives (pure a : Eval α) b ↔ a = b := by
  constructor
  · rintro ⟨dice, dice', h⟩
    cases h
    rfl
  · rintro rfl
    exact ⟨default, default, rfl⟩

/-- A computation in two parts succeeds where both do, the second with the dice of the first. -/
theorem bind_eq_ok_iff {m : Eval α} {f : α → Eval β} {dice : Dice} {r : β × Dice} :
    (m >>= f) dice = .ok r ↔ ∃ a dice', m dice = .ok (a, dice') ∧ f a dice' = .ok r := by
  simp only [bind, StateT.bind]
  cases m dice with
  | error fault => simp [Except.bind]
  | ok s =>
    constructor
    · intro h
      exact ⟨s.1, s.2, rfl, h⟩
    · rintro ⟨a, dice', h, hf⟩
      cases h
      exact hf

/-- What a computation in two parts gives, its second part gives after the first. -/
theorem Gives.of_bind {m : Eval α} {f : α → Eval β} {b : β} (h : Gives (m >>= f) b) :
    ∃ a, m.Gives a ∧ (f a).Gives b := by
  obtain ⟨dice, dice', h⟩ := h
  obtain ⟨a, middle, hm, hf⟩ := bind_eq_ok_iff.1 h
  exact ⟨a, ⟨dice, middle, hm⟩, middle, dice', hf⟩

/-- What is made of the result of a computation. -/
theorem Gives.of_map {m : Eval α} {f : α → β} {b : β}
    (h : Gives (do let a ← m; pure (f a)) b) : ∃ a, m.Gives a ∧ f a = b := by
  obtain ⟨a, ha, hb⟩ := h.of_bind
  exact ⟨a, ha, gives_pure.1 hb⟩

end Eval

/-! ### Values taken one by one -/

/-- Whatever a source gives has a property. -/
def Source.All (P : Value → Prop) : Source → Prop
  | .values vs => ∀ v ∈ vs, P v
  | .numbers _ _ _ => ∀ x, P (.number x)

namespace Source

variable {P : Value → Prop} {s rest : Source} {v : Value}

theorem all_true (s : Source) : s.All fun _ => True := by
  cases s <;> simp [All]

theorem All.next (h : s.All P) (hnext : s.next? = some (v, rest)) : P v ∧ rest.All P := by
  unfold next? at hnext
  split at hnext
  · cases hnext
  · cases hnext
    exact List.forall_mem_cons.1 h
  · simp only at hnext
    split at hnext
    · cases hnext
      exact ⟨h _, h⟩
    · cases hnext

theorem All.toListAfter {taken : List Value} (h : s.All P) (htaken : ∀ v ∈ taken, P v) :
    ∀ v ∈ s.toListAfter taken, P v := by
  fun_induction Source.toListAfter taken s with
  | case1 taken s v rest hnext _ ih =>
    obtain ⟨hv, hrest⟩ := h.next hnext
    exact ih hrest (List.forall_mem_cons.2 ⟨hv, htaken⟩)
  | case2 taken s hnone =>
    intro v hv
    exact htaken v (List.mem_reverse.1 hv)

theorem All.toList (h : s.All P) : ∀ v ∈ s.toList, P v :=
  h.toListAfter (List.forall_mem_nil _)

theorem all_rangeSource (bounds : Option (Number × Number)) :
    (rangeSource bounds).All fun v => ∃ x, v = .number x := by
  cases bounds with
  | none => exact List.forall_mem_nil _
  | some b => exact fun x => ⟨x, rfl⟩

end Source

namespace Supply

variable {system : TypeSystem} {P : Value → Prop} {v : Value}

theorem all_nextFrom? {targets : List String} {source rest : Source} (hall : source.All P)
    (h : nextFrom? system targets source = some (v, rest)) :
    (∃ u, P u ∧ system.convertThrough targets u = some v) ∧ rest.All P := by
  fun_induction nextFrom? system targets source with
  | case1 source hnext => cases h
  | case2 source u rest' hnext _ w hw =>
    cases h
    obtain ⟨hu, hrest⟩ := hall.next hnext
    exact ⟨⟨u, hu, hw⟩, hrest⟩
  | case3 source u rest' hnext _ hnone ih => exact ih (hall.next hnext).2 h

theorem next?_eq_some {s rest : Supply} (h : s.next? system = some (v, rest)) :
    nextFrom? system s.targets s.source = some (v, rest.source) ∧ rest.targets = s.targets := by
  obtain ⟨r, hr, heq⟩ := Option.map_eq_some_iff.1 h
  cases heq
  exact ⟨hr, rfl⟩

/-- What is taken from a supply comes from its source, converted to all of its types. -/
theorem exists_of_mem_take {n : Nat} {s : Supply} (hall : s.source.All P)
    (hv : v ∈ s.take system n) : ∃ u, P u ∧ system.convertThrough s.targets u = some v := by
  induction n generalizing s with
  | zero => cases hv
  | succ n ih =>
    rw [take] at hv
    cases hnext : s.next? system with
    | none =>
      rw [hnext] at hv
      cases hv
    | some r =>
      rw [hnext] at hv
      obtain ⟨hfrom, htargets⟩ := next?_eq_some hnext
      obtain ⟨hfirst, hrest⟩ := all_nextFrom? hall hfrom
      rcases List.mem_cons.1 hv with rfl | hv
      · exact hfirst
      · exact htargets ▸ ih hrest hv

end Supply

/-- The last of several conversions takes what the others lead to. -/
theorem TypeSystem.convertThrough_concat (s : TypeSystem) (targets : List String) (target : String)
    (v : Value) : s.convertThrough (targets ++ [target]) v =
      (s.convertThrough targets v).bind fun w => s.convert w target := by
  induction targets generalizing v with
  | nil => simp [convertThrough]
  | cons first rest ih =>
    rw [List.cons_append, convertThrough, convertThrough, Option.bind_assoc, funext ih]

/-! ### Values of expressions -/

namespace Expression

/-- The value can come out of the expression: among all of its values, among those that effects
see, or among those that a loop takes. -/
inductive Produces (sight : Sight) (e : Expression) : Value → Prop where
  | all {vs : List Value} {v : Value} (h : (e.all sight).Gives vs) (hv : v ∈ vs) :
    Produces sight e v
  | array {vs : List Value} {v : Value} (h : (e.array sight).Gives vs) (hv : v ∈ vs) :
    Produces sight e v
  | iterate {supply : Supply} {n : Nat} {v : Value} (h : (e.supply sight).Gives supply)
    (hv : v ∈ supply.take sight.system n) : Produces sight e v

variable {sight : Sight} {e : Expression} {v : Value}

theorem produces_of_values {choose : Bool} {vs : List Value}
    (h : (e.values sight choose).Gives vs) (hv : v ∈ vs) : e.Produces sight v := by
  cases choose with
  | false => exact .all h hv
  | true => exact .array h hv

/-- A loop over most forms of expressions takes all values. -/
theorem Produces.exists_values (h : e.Produces sight v)
    (hsupply : e.supply sight = (do
      let values ← e.all sight
      pure ⟨.values values, []⟩)) :
    ∃ choose vs, (e.values sight choose).Gives vs ∧ v ∈ vs := by
  cases h with
  | @all vs _ h hv => exact ⟨false, vs, h, hv⟩
  | @array vs _ h hv => exact ⟨true, vs, h, hv⟩
  | iterate h hv =>
    rw [hsupply] at h
    obtain ⟨values, hvalues, rfl⟩ := h.of_map
    have hall : (Source.values values).All (· ∈ values) := fun _ hu => hu
    obtain ⟨u, hu, hconvert⟩ := Supply.exists_of_mem_take hall hv
    cases hconvert
    exact ⟨false, values, hvalues, hu⟩

theorem produces_loopValue {name : String} {loop : ItemId} {type : String}
    (h : (loopValue name loop type).Produces sight v) : sight.loopValue? loop = some v := by
  obtain ⟨choose, vs, h, hv⟩ := h.exists_values rfl
  rw [values, Eval.gives_pure] at h
  simpa [← h] using hv

theorem produces_eventValue {type : String} (h : (eventValue type).Produces sight v) :
    sight.event.value? type = some v := by
  obtain ⟨choose, vs, h, hv⟩ := h.exists_values rfl
  rw [values, Eval.gives_pure] at h
  simpa [← h] using hv

theorem produces_quoted {parts : List Part} (h : (quoted parts).Produces sight v) :
    ∃ s, v = .text s := by
  obtain ⟨choose, vs, h, hv⟩ := h.exists_values rfl
  rw [values] at h
  obtain ⟨s, -, rfl⟩ := h.of_map
  exact ⟨s, List.mem_singleton.1 hv⟩

theorem produces_range {low high : Expression} (h : (range low high).Produces sight v) :
    ∃ x, v = .number x := by
  have hvalues {choose : Bool} {vs : List Value}
      (h : ((range low high).values sight choose).Gives vs) (hv : v ∈ vs) : ∃ x, v = .number x := by
    rw [values] at h
    obtain ⟨lows, -, h⟩ := h.of_bind
    obtain ⟨highs, -, rfl⟩ := h.of_map
    exact (Source.all_rangeSource _).toList v hv
  cases h with
  | all h hv => exact hvalues h hv
  | array h hv => exact hvalues h hv
  | iterate h hv =>
    rw [supply] at h
    obtain ⟨lows, -, h⟩ := h.of_bind
    obtain ⟨highs, -, rfl⟩ := h.of_map
    obtain ⟨u, hu, hconvert⟩ := Supply.exists_of_mem_take (Source.all_rangeSource _) hv
    cases hconvert
    exact hu

theorem mem_of_gives_pickValue {vs picked : List Value} (h : (pickValue vs).Gives picked)
    (hv : v ∈ picked) : v ∈ vs := by
  unfold pickValue at h
  split at h
  · rw [Eval.gives_pure] at h
    rwa [h]
  · obtain ⟨i, -, rfl⟩ := h.of_map
    exact List.mem_of_getElem? (by simpa using hv)

theorem produces_literal {vs : List Value} {type : String} {together : Bool}
    (h : (literal vs type together).Produces sight v) : v ∈ vs := by
  obtain ⟨choose, picked, h, hv⟩ := h.exists_values rfl
  rw [values] at h
  split at h
  · exact mem_of_gives_pickValue h hv
  · rw [Eval.gives_pure] at h
    rwa [h]

theorem produces_converted {inner : Expression} {target : String}
    (h : (converted inner target).Produces sight v) :
    ∃ u, sight.system.convert u target = some v := by
  have hvalues {choose : Bool} {vs : List Value}
      (h : ((converted inner target).values sight choose).Gives vs) (hv : v ∈ vs) :
      ∃ u, sight.system.convert u target = some v := by
    rw [values] at h
    obtain ⟨us, -, rfl⟩ := h.of_map
    obtain ⟨u, -, hu⟩ := List.mem_filterMap.1 hv
    exact ⟨u, hu⟩
  cases h with
  | all h hv => exact hvalues h hv
  | array h hv => exact hvalues h hv
  | iterate h hv =>
    rw [supply] at h
    obtain ⟨s, -, rfl⟩ := h.of_map
    obtain ⟨u, -, hconvert⟩ := Supply.exists_of_mem_take
      (s := ⟨s.source, s.targets ++ [target]⟩) (Source.all_true s.source) hv
    rw [TypeSystem.convertThrough_concat] at hconvert
    obtain ⟨w, -, hw⟩ := Option.bind_eq_some_iff.1 hconvert
    exact ⟨w, hw⟩

theorem exists_of_gives_valuesOf {choose : Bool} {items : List Expression} {vs : List Value}
    (h : (valuesOf sight choose items).Gives vs) (hv : v ∈ vs) :
    ∃ e ∈ items, e.Produces sight v := by
  induction items generalizing vs with
  | nil =>
    rw [valuesOf, Eval.gives_pure] at h
    rw [← h] at hv
    cases hv
  | cons e rest ih =>
    rw [valuesOf] at h
    obtain ⟨first, hfirst, h⟩ := h.of_bind
    obtain ⟨more, hmore, rfl⟩ := h.of_map
    rcases List.mem_append.1 hv with hv | hv
    · exact ⟨e, List.mem_cons_self, produces_of_values hfirst hv⟩
    · obtain ⟨e', he', hproduces⟩ := ih hmore hv
      exact ⟨e', List.mem_cons_of_mem _ he', hproduces⟩

theorem exists_of_gives_valuesAt {i : Nat} {items : List Expression} {vs : List Value}
    (h : (valuesAt sight i items).Gives vs) (hv : v ∈ vs) : ∃ e ∈ items, e.Produces sight v := by
  induction items generalizing i with
  | nil =>
    rw [valuesAt, Eval.gives_pure] at h
    rw [← h] at hv
    cases hv
  | cons e rest ih =>
    rw [valuesAt] at h
    split at h
    · exact ⟨e, List.mem_cons_self, produces_of_values h hv⟩
    · obtain ⟨e', he', hproduces⟩ := ih h
      exact ⟨e', List.mem_cons_of_mem _ he', hproduces⟩

/-- What comes out of a list comes out of one of its items. -/
theorem produces_list {items : List Expression} {together : Bool} {type : String}
    (h : (list items together type).Produces sight v) : ∃ e ∈ items, e.Produces sight v := by
  obtain ⟨choose, vs, h, hv⟩ := h.exists_values rfl
  rw [values] at h
  split at h
  · obtain ⟨i, -, h⟩ := h.of_bind
    exact exists_of_gives_valuesAt h hv
  · exact exists_of_gives_valuesOf h hv

end Expression

end TriggerScript

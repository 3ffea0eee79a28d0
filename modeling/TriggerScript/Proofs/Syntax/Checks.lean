import TriggerScript.Proofs.Syntax.Rolls

/-!
# Checks that no value passes

A check asks the values of an expression, a list item by item, and what stands inside a conversion
asks its own values how they convert. If there are no values in the end, the check fails; denied, it
fails only where the innermost values are missing, and not for lists.

* `Expression.core`, `Expression.targets` : an expression without its conversions, and the types
  that these go to.
* `values_eq_core`, `check_eq_core` : values and checks, told from those inside the conversions.
* `Expression.Filled` : no list among the values is without items.
* `check_of_forall_not` : a check that no value passes fails.
* `check_of_no_values` : a check without values, denied or not.
-/

namespace TriggerScript

/-- A check that no value passes holds only if it is denied and there is a value. -/
theorem Expression.checkValues_of_forall_not {together negated : Bool} {test : Value → Bool}
    {vs : List Value} (h : ∀ v ∈ vs, test v = false) :
    checkValues together test negated vs = (negated && !vs.isEmpty) := by
  cases vs with
  | nil => simp [checkValues]
  | cons v rest =>
    obtain ⟨hv, hrest⟩ := List.forall_mem_cons.1 h
    have hany : rest.any test = false := List.any_eq_false.2 fun w hw => by simp [hrest w hw]
    cases together <;> simp [checkValues, hv, hany]

namespace Expression

open Eval

/-! ### Inside the conversions -/

/-- The expression that stands inside all conversions. -/
def core : Expression → Expression
  | .converted inner _ => inner.core
  | e => e

/-- The types that the values of the core are converted to, one after the other. -/
def targets : Expression → List String
  | .converted inner target => inner.targets ++ [target]
  | _ => []

def isList : Expression → Bool
  | .list _ _ _ => true
  | _ => false

mutual

/-- No list among the values is without items. -/
def Filled : Expression → Prop
  | .list items _ _ => items ≠ [] ∧ AllFilled items
  | .converted inner _ => inner.Filled
  | _ => True

/-- No list among the values of some expressions is without items. -/
def AllFilled : List Expression → Prop
  | [] => True
  | e :: rest => e.Filled ∧ AllFilled rest

end

variable {sight : Sight} {test : Value → Bool} {negated together : Bool} {e : Expression}
  {items : List Expression}

theorem allFilled_iff : AllFilled items ↔ ∀ e ∈ items, e.Filled := by
  induction items with
  | nil => simp [AllFilled]
  | cons e rest ih => rw [AllFilled, ih, List.forall_mem_cons]

theorem values_eq_core (choose : Bool) (e : Expression) : e.values sight choose = (do
    let vs ← e.core.values sight choose
    pure (vs.filterMap (sight.system.convertThrough e.targets))) := by
  fun_induction core e with
  | case1 inner target ih =>
    have hconcat := funext (sight.system.convertThrough_concat inner.targets target)
    rw [values, targets, ih, hconcat]
    simp only [bind_assoc, pure_bind, List.filterMap_filterMap]
  | case2 e hcore =>
    have htargets : e.targets = [] := by rw [targets]; exact hcore
    have hsome : sight.system.convertThrough [] = some := rfl
    rw [htargets, hsome]
    simp

/-- A check asks the values of the core how they convert. -/
theorem check_eq_core (test : Value → Bool) (negated : Bool) (e : Expression) :
    e.check sight test negated = e.core.check sight
      (fun v => (sight.system.convertThrough e.targets v).any test) negated := by
  induction e using core.induct generalizing test with
  | case1 inner target ih =>
    rw [check, ih, core, targets]
    congr 1
    funext v
    rw [TypeSystem.convertThrough_concat]
    cases sight.system.convertThrough inner.targets v <;> rfl
  | case2 e hcore =>
    have htargets : e.targets = [] := by rw [targets]; exact hcore
    have hsame : e.core = e := by rw [core]; exact hcore
    rw [htargets, hsame]
    rfl

theorem core_ne_converted (e inner : Expression) (target : String) :
    e.core ≠ converted inner target := by
  fun_induction core e with
  | case1 _ _ ih => exact ih
  | case2 e hcore => exact hcore inner target

theorem Filled.core (h : e.Filled) : e.core.Filled := by
  fun_induction Expression.core e with
  | case1 inner target ih => exact ih h
  | case2 e hcore => exact h

/-- What is neither a list nor converted is checked by its values. -/
theorem check_eq_checkValues (hlist : e.isList = false)
    (hconverted : ∀ inner target, e ≠ converted inner target) :
    e.check sight test negated = (do
      let vs ← e.all sight
      pure (checkValues e.together test negated vs)) := by
  cases e with
  | list items together type => cases hlist
  | converted inner target => exact absurd rfl (hconverted inner target)
  | literal vs type together =>
    rw [check, all, values]
    rfl
  | _ => rfl

/-- A list, all of whose values are its items' values, is checked item by item. -/
theorem all_list (items : List Expression) (together : Bool) (type : String) :
    (list items together type).all sight = valuesOf sight false items := by
  rw [all, values]
  rfl

/-! ### Checks that no value passes -/

theorem check_of_values (hlist : e.isList = false)
    (hconverted : ∀ inner target, e ≠ converted inner target)
    (h : (e.all sight).Always fun vs => ∀ v ∈ vs, test v = false) :
    (e.check sight test false).Always (· = false) := by
  rw [check_eq_checkValues hlist hconverted]
  exact .bind (h.mono fun vs hvs => always_pure.2 (checkValues_of_forall_not hvs))

mutual

/-- **A check that no value passes fails.** -/
theorem check_of_forall_not (test : Value → Bool) (e : Expression) (hfilled : e.Filled)
    (h : (e.all sight).Always fun vs => ∀ v ∈ vs, test v = false) :
    (e.check sight test false).Always (· = false) := by
  match e with
  | .list items together type =>
    rw [all_list] at h
    rw [check]
    have hitems := checkItems_of_forall_not test together items hfilled.2 (.inl hfilled.1) h
    refine .bind (hitems.mono fun holds hholds => always_pure.2 ?_)
    rw [hholds]
    rfl
  | .converted inner target =>
    rw [all, values] at h
    rw [check]
    refine check_of_forall_not _ inner hfilled (h.of_map (local_values sight false inner) |>.mono ?_)
    intro vs hvs v hv
    cases hw : sight.system.convert v target with
    | none => rfl
    | some w => exact hvs w (List.mem_filterMap.2 ⟨v, hv, hw⟩)
  | .variable _ | .loopValue _ _ _ | .eventValue _ | .range _ _ | .literal _ _ _ | .quoted _
  | .declared _ _ _ => exact check_of_values rfl nofun h

theorem checkItems_of_forall_not (test : Value → Bool) (together : Bool) (items : List Expression)
    (hfilled : AllFilled items) (hitem : items ≠ [] ∨ together = false)
    (h : (valuesOf sight false items).Always fun vs => ∀ v ∈ vs, test v = false) :
    (checkItems sight test together items).Always (· = false) := by
  match items with
  | [] =>
    rw [checkItems, always_pure]
    exact hitem.resolve_left (absurd rfl)
  | e :: rest =>
    rw [valuesOf] at h
    have hboth : (e.values sight false).Always fun vs => (valuesOf sight false rest).Always
        fun more => ∀ v ∈ vs ++ more, test v = false :=
      (h.of_bind (local_values sight false e) fun _ => (local_valuesOf sight false rest).map _).mono
        fun _ hrest => hrest.of_map (local_valuesOf sight false rest)
    have hfirst := check_of_forall_not test e hfilled.1 <| hboth.mono fun vs hmore v hv => by
      obtain ⟨more, hnone⟩ := hmore.exists
      exact hnone v (List.mem_append_left more hv)
    rw [checkItems]
    refine .bind (hfirst.mono fun holds hholds => ?_)
    rw [hholds]
    cases together with
    | true => exact always_pure.2 rfl
    | false =>
      obtain ⟨vs, hmore⟩ := hboth.exists
      exact checkItems_of_forall_not test false rest hfilled.2 (.inr rfl)
        (hmore.mono fun more hnone v hv => hnone v (List.mem_append_right vs hv))

end

/-- A check that no value passes, of what is not converted: it holds if it is denied and the
expression is a list or has values. -/
theorem check_eq_of_forall_not (hfilled : e.Filled)
    (hconverted : ∀ inner target, e ≠ converted inner target)
    (h : (e.all sight).Always fun vs => ∀ v ∈ vs, test v = false) (negated : Bool) (dice : Dice) :
    ∃ vs behind after, e.all sight dice = .ok (vs, behind) ∧
      e.check sight test negated dice = .ok (negated && (e.isList || !vs.isEmpty), after) := by
  obtain ⟨vs, behind, hvs, hfail⟩ := h dice
  cases hlist : e.isList with
  | false =>
    refine ⟨vs, behind, behind, hvs, ?_⟩
    rw [check_eq_checkValues hlist hconverted, Bool.false_or]
    refine bind_eq_ok_iff.2 ⟨vs, behind, hvs, ?_⟩
    rw [checkValues_of_forall_not hfail]
    rfl
  | true =>
    match e with
    | .list items together type =>
      rw [all_list] at h
      obtain ⟨holds, after, hchecked, rfl⟩ :=
        checkItems_of_forall_not test together items hfilled.2 (.inl hfilled.1) h dice
      refine ⟨vs, behind, after, hvs, ?_⟩
      rw [check, Bool.true_or, Bool.and_true]
      exact bind_eq_ok_iff.2 ⟨false, after, hchecked, by cases negated <;> rfl⟩

/-- **A check without values** fails. Denied, it holds if what stands inside the conversions is a
list, or has values that cannot be converted. -/
theorem check_of_no_values (hfilled : e.Filled) (h : (e.all sight).Always (· = []))
    (test : Value → Bool) (negated : Bool) (dice : Dice) :
    ∃ vs behind after, e.core.all sight dice = .ok (vs, behind) ∧
      e.check sight test negated dice =
        .ok (negated && (e.core.isList || !vs.isEmpty), after) := by
  rw [all, values_eq_core] at h
  have hcore := h.of_map (local_values sight false e.core)
  rw [check_eq_core]
  refine check_eq_of_forall_not hfilled.core (core_ne_converted e) (hcore.mono ?_) negated dice
  intro vs hnone v hv
  rw [List.filterMap_eq_nil_iff.1 hnone v hv]
  rfl

end Expression

end TriggerScript

import TriggerScript.Types.Table
import Mathlib.Data.Finset.Card

/-!
# The order of types

A type is assignable to those above it. Whether supertypes go round in a circle or name types that
are missing, the climb through the table goes far enough to meet all of them.

* `TypeTable.up?` : the type so many steps above another.
* `TypeTable.mem_supertypes_iff` : the supertypes of a type are the types at any distance above it.
* `TypeTable.Rooted` : nothing is above the most general type.
* `TypeTable.isAssignable_refl`, `isAssignable_trans` : assignability is a preorder.
* `TypeTable.isAssignable_common_left`, `isAssignable_common_right` : a common supertype is above
  both types.
-/

namespace TriggerScript.TypeTable

/-- The type so many steps above another. -/
def up? (types : TypeTable) : Nat → String → Option String
  | 0, code => some code
  | steps + 1, code => ((types.get? code).bind (·.supertype)).bind (types.up? steps)

variable {types : TypeTable} {a b c : String}

theorem up?_add (i j : Nat) (code : String) :
    types.up? (i + j) code = (types.up? i code).bind (types.up? j) := by
  induction i generalizing code with
  | zero => rw [Nat.zero_add, up?, Option.bind_some]
  | succ i ih =>
    have hsucc : i + 1 + j = i + j + 1 := by omega
    rw [hsucc, up?, up?, funext ih]
    exact (Option.bind_assoc _ _ _).symm

/-- Every type that has another one above it is registered. -/
theorem exists_of_up? {i j : Nat} (h : types.up? i a = some b) (hj : j < i) :
    ∃ info ∈ types.infos, types.up? j a = some info.code := by
  obtain ⟨k, rfl⟩ := Nat.exists_eq_add_of_lt hj
  rw [Nat.add_assoc, up?_add] at h
  obtain ⟨code, hcode, h⟩ := Option.bind_eq_some_iff.1 h
  obtain ⟨above, habove, -⟩ := Option.bind_eq_some_iff.1 h
  obtain ⟨info, hinfo, -⟩ := Option.bind_eq_some_iff.1 habove
  have heq : info.code = code := by simpa using List.find?_some hinfo
  exact ⟨info, List.mem_of_find?_eq_some hinfo, by rw [hcode, heq]⟩

/-- On a way up with more steps than there are types some type comes twice, and without the circle
the way is shorter. -/
theorem exists_up?_lt {i : Nat} (h : types.up? i a = some b) (hi : types.infos.length < i) :
    ∃ j < i, types.up? j a = some b := by
  have hmaps : Set.MapsTo (fun j => types.up? j a) (Finset.range i)
      (types.infos.map fun info => some info.code).toFinset := by
    intro j hj
    obtain ⟨info, hinfo, hup⟩ := exists_of_up? h (Finset.mem_range.1 hj)
    simpa [hup] using ⟨info, hinfo, rfl⟩
  have hcard : (types.infos.map fun info => some info.code).toFinset.card <
      (Finset.range i).card := by
    refine (List.toFinset_card_le _).trans_lt ?_
    rwa [List.length_map, Finset.card_range]
  obtain ⟨p, hp, q, hq, hne, heq⟩ := Finset.exists_ne_map_eq_of_card_lt_of_maps_to hcard hmaps
  have hshorter {p q : Nat} (hq : q < i) (hlt : p < q) (heq : types.up? p a = types.up? q a) :
      ∃ j < i, types.up? j a = some b := by
    refine ⟨p + (i - q), by omega, ?_⟩
    rw [up?_add, heq, ← up?_add, Nat.add_sub_cancel' hq.le, h]
  rcases Nat.lt_or_gt_of_ne hne with hlt | hlt
  · exact hshorter (Finset.mem_range.1 hq) hlt heq
  · exact hshorter (Finset.mem_range.1 hp) hlt heq.symm

/-- What is above a type at all is above it by no more steps than there are types. -/
theorem exists_up?_le {i : Nat} (h : types.up? i a = some b) :
    ∃ j ≤ types.infos.length, types.up? j a = some b := by
  induction i using Nat.strong_induction_on with
  | h i ih =>
    rcases Nat.lt_or_ge types.infos.length i with hi | hi
    · obtain ⟨j, hj, h⟩ := exists_up?_lt h hi
      exact ih j hj h
    · exact ⟨i, hi, h⟩

theorem mem_climb_iff {steps : Nat} :
    b ∈ types.climb steps a ↔ ∃ i ≤ steps, types.up? i a = some b := by
  induction steps generalizing a with
  | zero => simp [climb, up?, eq_comm]
  | succ steps ih =>
    have hsplit : (∃ i ≤ steps + 1, types.up? i a = some b) ↔
        a = b ∨ ∃ i ≤ steps, types.up? (i + 1) a = some b := by
      constructor
      · rintro ⟨_ | i, hi, hup⟩
        · exact .inl (Option.some.inj hup)
        · exact .inr ⟨i, by omega, hup⟩
      · rintro (rfl | ⟨i, hi, hup⟩)
        · exact ⟨0, by omega, rfl⟩
        · exact ⟨i + 1, by omega, hup⟩
    rw [hsplit, climb, List.mem_cons, eq_comm]
    refine or_congr_right ?_
    cases habove : (types.get? a).bind (·.supertype) with
    | none => simp [up?, habove]
    | some above => simp [up?, habove, ih]

/-- **The supertypes of a type are the types at any distance above it.** -/
theorem mem_supertypes_iff : b ∈ types.supertypes a ↔ ∃ i, types.up? i a = some b := by
  rw [supertypes, mem_climb_iff]
  constructor
  · rintro ⟨i, -, hup⟩
    exact ⟨i, hup⟩
  · rintro ⟨i, hup⟩
    obtain ⟨j, hj, hup⟩ := exists_up?_le hup
    exact ⟨j, by omega, hup⟩

theorem isAssignable_iff :
    types.isAssignable a b = true ↔ b = objectType ∨ ∃ i, types.up? i a = some b := by
  rw [isAssignable, Bool.or_eq_true, beq_iff_eq, List.contains_iff_mem, mem_supertypes_iff]

@[simp] theorem isAssignable_object (types : TypeTable) (a : String) :
    types.isAssignable a objectType = true :=
  isAssignable_iff.2 (.inl rfl)

@[simp] theorem isAssignable_refl (types : TypeTable) (a : String) :
    types.isAssignable a a = true :=
  isAssignable_iff.2 (.inr ⟨0, rfl⟩)

/-- Nothing is above the most general type. -/
def Rooted (types : TypeTable) : Prop :=
  (types.get? objectType).bind (·.supertype) = none

theorem Rooted.eq_object (h : types.Rooted) (ha : types.isAssignable objectType a = true) :
    a = objectType := by
  rcases isAssignable_iff.1 ha with ha | ⟨_ | i, hup⟩
  · exact ha
  · exact (Option.some.inj hup).symm
  · rw [up?, show (types.get? objectType).bind (·.supertype) = none from h] at hup
    cases hup

theorem Rooted.isAssignable_trans (h : types.Rooted) (hab : types.isAssignable a b = true)
    (hbc : types.isAssignable b c = true) : types.isAssignable a c = true := by
  rcases isAssignable_iff.1 hab with rfl | ⟨i, hi⟩
  · rw [h.eq_object hbc]
    exact isAssignable_object types a
  · rcases isAssignable_iff.1 hbc with rfl | ⟨j, hj⟩
    · exact isAssignable_object types a
    · refine isAssignable_iff.2 (.inr ⟨i + j, ?_⟩)
      rw [up?_add, hi, Option.bind_some, hj]

theorem isAssignable_of_mem_supertypes (h : b ∈ types.supertypes a) :
    types.isAssignable a b = true :=
  isAssignable_iff.2 (.inr (mem_supertypes_iff.1 h))

theorem isAssignable_common_left (types : TypeTable) (a b : String) :
    types.isAssignable a (types.common a b) = true := by
  rw [common]
  cases hfirst : (types.supertypes a).find? fun t => types.isAssignable b t with
  | none => exact isAssignable_object types a
  | some t => exact isAssignable_of_mem_supertypes (List.mem_of_find?_eq_some hfirst)

theorem isAssignable_common_right (types : TypeTable) (a b : String) :
    types.isAssignable b (types.common a b) = true := by
  rw [common]
  cases hfirst : (types.supertypes a).find? fun t => types.isAssignable b t with
  | none => exact isAssignable_object types b
  | some t => exact List.find?_some hfirst

end TriggerScript.TypeTable

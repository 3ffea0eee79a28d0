import TriggerScript.Decimal.Reading
import Mathlib.Algebra.Group.Nat.Even
import Mathlib.Order.Monotone.Basic
import Mathlib.Tactic.Ring

/-!
# Rounding to the nearest binary number

The bits of positive binary numbers count the points of a grid. Between two neighbours the grid has
a step that is a power of two, and it never gets finer again.

* `gridStep`, `gridPoint_succ` : the steps of the grid.
* `lastBelow_spec` : the last point that is not above a fraction.
* `Rounds` : the fractions that a point is the nearest one to; at the ends it has to be even.
* `nearestBits_eq` : such a fraction is rounded to this point.
-/

namespace TriggerScript.Decimal

/-! ### The grid -/

/-- The step of the grid behind the point with these bits. -/
def gridStep (bits : Nat) : Nat :=
  2 ^ (bits / fractionSize - 1)

theorem gridStep_pos (bits : Nat) : 0 < gridStep bits :=
  Nat.two_pow_pos _

theorem gridPoint_eq (bits : Nat) : gridPoint bits =
    if bits < fractionSize then bits else (fractionSize + bits % fractionSize) * gridStep bits :=
  rfl

theorem gridPoint_succ (bits : Nat) : gridPoint (bits + 1) = gridPoint bits + gridStep bits := by
  have hsize : 0 < fractionSize := by decide
  obtain ⟨field, fraction, hfraction, rfl⟩ : ∃ field fraction, fraction < fractionSize ∧
      bits = fractionSize * field + fraction :=
    ⟨bits / fractionSize, bits % fractionSize, Nat.mod_lt _ hsize, (Nat.div_add_mod _ _).symm⟩
  have hdiv (r : Nat) (hr : r < fractionSize) : (fractionSize * field + r) / fractionSize = field := by
    rw [Nat.mul_add_div hsize, Nat.div_eq_of_lt hr, Nat.add_zero]
  have hmod (r : Nat) (hr : r < fractionSize) : (fractionSize * field + r) % fractionSize = r := by
    rw [Nat.mul_add_mod, Nat.mod_eq_of_lt hr]
  have hpoint (r : Nat) (hr : r < fractionSize) : gridPoint (fractionSize * field + r) =
      if field = 0 then r else (fractionSize + r) * 2 ^ (field - 1) := by
    rw [gridPoint_eq, gridStep, hdiv r hr, hmod r hr]
    cases field with
    | zero => simp [hr]
    | succ field =>
      rw [if_neg (by rw [Nat.mul_succ]; omega), if_neg (Nat.succ_ne_zero _)]
  rw [hpoint fraction hfraction, gridStep, hdiv fraction hfraction]
  by_cases hlast : fraction + 1 < fractionSize
  · rw [Nat.add_assoc, hpoint (fraction + 1) hlast]
    split
    · next hfield =>
      subst hfield
      rfl
    · ring
  · -- The next point has the next exponent.
    have hnext : fractionSize * field + fraction + 1 = fractionSize * (field + 1) + 0 := by
      rw [Nat.mul_succ]
      omega
    have hnextPoint : gridPoint (fractionSize * (field + 1) + 0) = fractionSize * 2 ^ field := by
      rw [gridPoint_eq, gridStep, if_neg (by rw [Nat.mul_succ]; omega), Nat.mul_add_mod,
        Nat.zero_mod, Nat.add_zero, Nat.add_zero, Nat.mul_div_cancel_left _ hsize, Nat.add_sub_cancel]
    rw [hnext, hnextPoint]
    cases field with
    | zero =>
      rw [if_pos rfl]
      simp only [Nat.pow_zero, Nat.mul_one, Nat.zero_sub]
      omega
    | succ field =>
      have hfull : fraction + 1 = fractionSize := by omega
      rw [if_neg (Nat.succ_ne_zero _), Nat.add_sub_cancel, Nat.pow_succ]
      calc fractionSize * (2 ^ field * 2)
          = (fractionSize + (fraction + 1)) * 2 ^ field := by rw [hfull]; ring
        _ = (fractionSize + fraction) * 2 ^ field + 2 ^ field := by ring

theorem gridPoint_strictMono : StrictMono gridPoint :=
  strictMono_nat_of_lt_succ fun bits => by
    rw [gridPoint_succ]
    exact Nat.lt_add_of_pos_right (gridStep_pos bits)

/-! ### The nearest point -/

/-- The search ends between the last point that is not above the fraction and the next one. -/
theorem lastBelow_spec {num den choices bits : Nat} (hlow : gridPoint bits * den ≤ num)
    (hhigh : num < gridPoint (bits + 2 ^ choices) * den) :
    gridPoint (lastBelow num den choices bits) * den ≤ num ∧
      num < gridPoint (lastBelow num den choices bits + 1) * den := by
  induction choices generalizing bits with
  | zero => exact ⟨hlow, hhigh⟩
  | succ choices ih =>
    rw [lastBelow]
    split
    · next hmiddle =>
      refine ih hmiddle ?_
      rw [Nat.add_assoc]
      rwa [Nat.pow_succ, Nat.mul_two] at hhigh
    · next hmiddle => exact ih hlow (Nat.lt_of_not_le hmiddle)

/-- The fraction `num / den` is not nearer to another point than to this one. If there is one that is
as near, this one has even bits. -/
structure Rounds (num den bits : Nat) : Prop where
  low : ∀ before, bits = before + 1 →
    (gridPoint before + gridPoint bits) * den ≤ 2 * num ∧
      ((gridPoint before + gridPoint bits) * den = 2 * num → Even bits)
  high : 2 * num ≤ (gridPoint bits + gridPoint (bits + 1)) * den ∧
    (2 * num = (gridPoint bits + gridPoint (bits + 1)) * den → Even bits)

theorem Rounds.lt_next {num den bits : Nat} (hden : 0 < den) (h : Rounds num den bits) :
    num < gridPoint (bits + 1) * den := by
  have hnext := Nat.mul_lt_mul_of_pos_right (gridPoint_strictMono (Nat.lt_add_one bits)) hden
  have hhigh := h.high.1
  rw [Nat.add_mul] at hhigh
  omega

/-- **A fraction is rounded to the nearest point.** -/
theorem nearestBits_eq {num den bits : Nat} (hden : 0 < den) (hbits : bits < 2 ^ 63)
    (h : Rounds num den bits) : nearestBits num den = bits := by
  have hhigh : num < gridPoint (0 + 2 ^ 63) * den :=
    (h.lt_next hden).trans_le
      (Nat.mul_le_mul_right _ (gridPoint_strictMono.monotone (by omega)))
  have hzero : gridPoint 0 * den ≤ num := by
    rw [show gridPoint 0 = 0 from rfl, Nat.zero_mul]
    exact Nat.zero_le num
  obtain ⟨hfloor, hceil⟩ := lastBelow_spec hzero hhigh
  rw [nearestBits]
  generalize lastBelow num den 63 0 = found at hfloor hceil
  have hfound : found ≤ bits := Nat.lt_succ_iff.1 <|
    gridPoint_strictMono.lt_iff_lt.1 (Nat.lt_of_mul_lt_mul_right (hfloor.trans_lt (h.lt_next hden)))
  rcases hfound.eq_or_lt with rfl | hlt
  · -- The fraction lies behind the point.
    obtain ⟨hnear, htie⟩ := h.high
    split
    · rfl
    · next hless =>
      rw [if_neg (by omega), if_pos (Nat.even_iff.1 (htie (by omega)))]
  · -- The fraction lies before the point, and behind the one before.
    obtain ⟨before, rfl⟩ : ∃ before, bits = before + 1 := ⟨bits - 1, by omega⟩
    obtain ⟨hnear, htie⟩ := h.low before rfl
    obtain rfl : found = before := by
      have hbefore : gridPoint before * den ≤ num := by
        have := Nat.mul_le_mul_right den (gridPoint_strictMono.monotone (Nat.le_add_right before 1))
        rw [Nat.add_mul] at hnear
        omega
      have := gridPoint_strictMono.lt_iff_lt.1
        (Nat.lt_of_mul_lt_mul_right (hbefore.trans_lt hceil))
      omega
    rw [if_neg (by omega)]
    split
    · rfl
    · next hless =>
      have heven := Nat.even_iff.1 (htie (by omega))
      rw [if_neg (by omega)]

end TriggerScript.Decimal

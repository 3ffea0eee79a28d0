import TriggerScript.Proofs.Decimal.Digits
import TriggerScript.Proofs.Decimal.Nearest
import Mathlib.Tactic.Linarith
import Mathlib.Tactic.NormNum
import Mathlib.Tactic.Positivity

/-!
# Numbers that are written are read back

The digits that a number is written with lie among the fractions that are rounded to it. Seventeen
digits are enough for that: at that many digits the decimal grid is finer than the binary one.

* `Interval.Contains` : the fractions in an interval.
* `contains_of_onGrid?`, `isSome_onGrid?` : a point of a decimal grid in it; there is one if the grid
  is fine enough.
* `shortest_contains` : the digits that are written lie in the interval of the number.
-/

namespace TriggerScript.Decimal

/-! ### Points of decimal grids -/

theorem zpow_eq_div (base : ℚ) (hbase : base ≠ 0) (power : Int) :
    base ^ power = base ^ power.toNat / base ^ (-power).toNat := by
  rw [eq_div_iff (pow_ne_zero _ hbase), ← zpow_natCast, ← zpow_natCast, ← zpow_add₀ hbase]
  congr 1
  omega

namespace Interval

/-- A fraction lies in an interval. -/
def Contains (i : Interval) (x : ℚ) : Prop :=
  if i.closed then (i.low : ℚ) / i.den ≤ x ∧ x ≤ i.high / i.den
  else (i.low : ℚ) / i.den < x ∧ x < i.high / i.den

variable {i : Interval} {power : Int}

theorem contains_of_lt {x : ℚ} (hlow : (i.low : ℚ) / i.den < x) (hhigh : x < i.high / i.den) :
    i.Contains x := by
  rw [Contains]
  split
  · exact ⟨hlow.le, hhigh.le⟩
  · exact ⟨hlow, hhigh⟩

theorem Contains.le {x : ℚ} (h : i.Contains x) : (i.low : ℚ) / i.den ≤ x ∧ x ≤ i.high / i.den := by
  rw [Contains] at h
  split at h
  · exact h
  · exact ⟨h.1.le, h.2.le⟩

/-- An interval with both ends, scaled to a decimal grid. -/
def scale (i : Interval) (power : Int) : Interval :=
  { i with den := i.den * Nat.pow 10 power.toNat }

theorem decimalValue_eq_div (n : Nat) (power : Int) :
    decimalValue n power = n * 10 ^ power.toNat / 10 ^ (-power).toNat := by
  rw [decimalValue, zpow_eq_div 10 (by norm_num), mul_div_assoc]

/-- The points of a decimal grid that lie in an interval. -/
theorem holds_scale_iff (hden : 0 < i.den) (n : Nat) :
    (i.scale power).holds (Nat.pow 10 (-power).toNat) n = true ↔
      i.Contains (decimalValue n power) := by
  have hi : (0 : ℚ) < i.den := by exact_mod_cast hden
  have hdown : (0 : ℚ) < 10 ^ (-power).toNat := by positivity
  have hle (m : Nat) : m * 10 ^ (-power).toNat ≤ n * (i.den * 10 ^ power.toNat) ↔
      (m : ℚ) / i.den ≤ decimalValue n power := by
    rw [decimalValue_eq_div, div_le_div_iff₀ hi hdown]
    norm_cast
    rw [Nat.mul_assoc, Nat.mul_comm i.den]
  have hge (m : Nat) : n * (i.den * 10 ^ power.toNat) ≤ m * 10 ^ (-power).toNat ↔
      decimalValue n power ≤ (m : ℚ) / i.den := by
    rw [decimalValue_eq_div, div_le_div_iff₀ hdown hi]
    norm_cast
    rw [Nat.mul_assoc, Nat.mul_comm i.den]
  rw [holds, Contains, scale]
  simp only [Nat.pow_eq]
  split <;>
    simp only [Bool.and_eq_true, decide_eq_true_eq, ← not_le, hle, hge]

theorem onGrid?_eq (i : Interval) (power : Int) {below : Nat}
    (h : below = i.mid * Nat.pow 10 (-power).toNat / (i.den * Nat.pow 10 power.toNat)) :
    i.onGrid? power =
      if (i.scale power).holds (Nat.pow 10 (-power).toNat) (below + 1) &&
          (!(i.scale power).holds (Nat.pow 10 (-power).toNat) below ||
            (i.scale power).den ≤
              2 * (i.mid * Nat.pow 10 (-power).toNat % (i.scale power).den)) then some (below + 1)
      else if (i.scale power).holds (Nat.pow 10 (-power).toNat) below then some below
      else none := by
  subst h
  rfl

/-- What is found on a grid lies in the interval. -/
theorem contains_of_onGrid? (hden : 0 < i.den) {n : Nat} (h : i.onGrid? power = some n) :
    i.Contains (decimalValue n power) := by
  rw [← holds_scale_iff hden]
  rw [onGrid?_eq i power rfl] at h
  split at h
  · next hfits =>
    rw [Bool.and_eq_true] at hfits
    obtain rfl := Option.some.inj h
    exact hfits.1
  split at h
  · next hfits =>
    obtain rfl := Option.some.inj h
    exact hfits
  · cases h

/-- On a grid whose steps are shorter than the interval some point is found. -/
theorem isSome_onGrid? (hden : 0 < i.den) (hlow : (i.low : ℚ) / i.den < i.mid / i.den)
    (hhigh : (i.mid : ℚ) / i.den < i.high / i.den)
    (hfine : (10 : ℚ) ^ power < i.high / i.den - i.low / i.den) : (i.onGrid? power).isSome := by
  obtain ⟨below, hbelow⟩ : ∃ below, below =
      i.mid * Nat.pow 10 (-power).toNat / (i.den * Nat.pow 10 power.toNat) := ⟨_, rfl⟩
  have hi : (0 : ℚ) < i.den := by exact_mod_cast hden
  have hdown : (0 : ℚ) < 10 ^ (-power).toNat := by positivity
  have hfloor : decimalValue below power ≤ i.mid / i.den := by
    rw [decimalValue_eq_div, div_le_div_iff₀ hdown hi]
    have := Nat.div_mul_le_self (i.mid * Nat.pow 10 (-power).toNat) (i.den * Nat.pow 10 power.toNat)
    rw [← hbelow] at this
    simp only [Nat.pow_eq] at this
    norm_cast
    rwa [Nat.mul_assoc, Nat.mul_comm _ i.den]
  have hceil : (i.mid : ℚ) / i.den < decimalValue (below + 1) power := by
    rw [decimalValue_eq_div, div_lt_div_iff₀ hi hdown]
    have hscaled : 0 < i.den * Nat.pow 10 power.toNat :=
      Nat.mul_pos hden (Nat.pow_pos (by decide))
    have := Nat.lt_mul_div_succ (i.mid * Nat.pow 10 (-power).toNat) hscaled
    rw [← hbelow] at this
    simp only [Nat.pow_eq] at this
    norm_cast
    calc i.mid * 10 ^ (-power).toNat < i.den * 10 ^ power.toNat * (below + 1) := this
      _ = (below + 1) * 10 ^ power.toNat * i.den := by ring
  have hnext : decimalValue (below + 1) power = decimalValue below power + 10 ^ power := by
    rw [decimalValue, decimalValue]
    push_cast
    ring
  rw [onGrid?_eq i power hbelow]
  by_cases hfits : i.Contains (decimalValue below power)
  · rw [(holds_scale_iff hden below).2 hfits]
    split <;> rfl
  · have habove : i.Contains (decimalValue (below + 1) power) := by
      refine contains_of_lt (hlow.trans hceil) ?_
      have hle : decimalValue below power ≤ i.low / i.den := by
        by_contra hlt
        exact hfits (contains_of_lt (not_le.1 hlt) (hfloor.trans_lt hhigh))
      rw [hnext]
      linarith
    rw [(holds_scale_iff hden (below + 1)).2 habove,
      Bool.eq_false_iff.2 (mt (holds_scale_iff hden below).1 hfits)]
    rfl

/-- The first grid with a point of the interval yields one, if there is such a grid. -/
theorem firstGrid_contains (hden : 0 < i.den) {tries step : Nat} (hstep : step < tries)
    (h : (i.onGrid? (power - step)).isSome) :
    i.Contains (decimalValue (i.firstGrid power tries).1 (i.firstGrid power tries).2) := by
  induction tries generalizing power step with
  | zero => exact absurd hstep (Nat.not_lt_zero _)
  | succ tries ih =>
    rw [firstGrid]
    cases hgrid : i.onGrid? power with
    | some n => exact contains_of_onGrid? hden hgrid
    | none =>
      cases step with
      | zero =>
        rw [Int.natCast_zero, sub_zero, hgrid] at h
        cases h
      | succ step =>
        refine ih (Nat.lt_of_succ_lt_succ hstep) ?_
        rwa [Int.natCast_succ, add_comm, ← sub_sub] at h

end Interval

/-! ### The digits of a number -/

theorem go_spec {num den limit zeros : Nat} (h : den ≤ num * 10 ^ (zeros + limit)) :
    ∃ count : Nat, decimalExponent.go num den limit zeros = -count ∧
      den ≤ num * 10 ^ (count + 1) := by
  induction limit generalizing zeros with
  | zero =>
    refine ⟨zeros, rfl, h.trans (Nat.mul_le_mul_left _ ?_)⟩
    exact Nat.pow_le_pow_right (by decide) (by omega)
  | succ limit ih =>
    rw [decimalExponent.go]
    split
    · next hfound => exact ⟨zeros, rfl, hfound⟩
    · refine ih ?_
      rwa [Nat.add_assoc, Nat.add_comm 1]

/-- The power of ten below the one just above a fraction is not above it. -/
theorem le_of_decimalExponent {num den limit : Nat} (hden : 0 < den)
    (h : den ≤ num * 10 ^ limit) :
    (10 : ℚ) ^ (decimalExponent num den limit - 1) ≤ num / den := by
  have hpos : (0 : ℚ) < den := by exact_mod_cast hden
  rw [le_div_iff₀ hpos, decimalExponent]
  split
  · next hle =>
    have hone : 1 ≤ num / den := (Nat.one_le_div_iff hden).2 hle
    have hlength : 0 < (digits (num / den)).length := List.length_pos_iff.2 (digits_ne_nil _)
    obtain ⟨count, hcount⟩ := Nat.exists_eq_add_of_lt hlength
    have hpow : 10 ^ count ≤ num / den := by
      cases count with
      | zero => exact hone
      | succ count =>
        by_contra hlt
        have := (Nat.length_toDigits_le_iff (by decide) (Nat.succ_pos count)).2 (Nat.not_le.1 hlt)
        rw [digits] at hcount
        omega
    have := (Nat.mul_le_mul_right den hpow).trans (Nat.div_mul_le_self num den)
    rw [hcount, show ((0 + count + 1 : Nat) : Int) - 1 = count by omega, zpow_natCast]
    exact_mod_cast this
  · have hstart : den ≤ num * 10 ^ (0 + limit) := by rwa [Nat.zero_add]
    obtain ⟨count, hgo, hcount⟩ := go_spec hstart
    rw [hgo, show -(count : Int) - 1 = -((count + 1 : Nat) : Int) by omega, zpow_neg, zpow_natCast,
      inv_mul_le_iff₀ (by positivity), mul_comm]
    exact_mod_cast hcount

/-- The significant digits and the exponent of a positive finite number. -/
structure IsFloat (mantissa : Nat) (exponent : Int) : Prop where
  pos : 0 < mantissa
  lt : mantissa < 2 * fractionSize
  le_exponent : -1074 ≤ exponent
  full : mantissa < fractionSize → exponent = -1074

/-- The quarter steps from a number down to the nearest fractions of the number before. -/
def quarters (mantissa : Nat) (exponent : Int) : Nat :=
  if mantissa = fractionSize && exponent != -1074 then 1 else 2

theorem quarters_le (mantissa : Nat) (exponent : Int) : quarters mantissa exponent ≤ 2 := by
  rw [quarters]
  split <;> decide

theorem quarters_pos (mantissa : Nat) (exponent : Int) : 0 < quarters mantissa exponent := by
  rw [quarters]
  split <;> decide

section Float

variable {mantissa : Nat} {exponent : Int}

theorem den_interval_pos (mantissa : Nat) (exponent : Int) : 0 < (interval mantissa exponent).den := by
  exact Nat.mul_pos (by decide) (Nat.two_pow_pos _)

/-- A multiple of a quarter of the last binary place, as the interval has it. -/
theorem quarter_div_den (mantissa : Nat) (exponent : Int) (count : Nat) :
    ((count * Nat.pow 2 exponent.toNat : Nat) : ℚ) / (interval mantissa exponent).den =
      count / 4 * 2 ^ exponent := by
  rw [zpow_eq_div 2 (by norm_num), interval]
  simp only [Nat.pow_eq]
  push_cast
  rw [mul_div_mul_comm]

theorem mid_div_den (mantissa : Nat) (exponent : Int) :
    ((interval mantissa exponent).mid : ℚ) / (interval mantissa exponent).den =
      mantissa * 2 ^ exponent := by
  rw [show (interval mantissa exponent).mid = 4 * mantissa * Nat.pow 2 exponent.toNat from rfl,
    quarter_div_den]
  push_cast
  ring

theorem high_div_den (mantissa : Nat) (exponent : Int) :
    ((interval mantissa exponent).high : ℚ) / (interval mantissa exponent).den =
      (mantissa + 1 / 2) * 2 ^ exponent := by
  rw [show (interval mantissa exponent).high = (4 * mantissa + 2) * Nat.pow 2 exponent.toNat from rfl,
    quarter_div_den]
  push_cast
  ring

theorem low_div_den (hpos : 0 < mantissa) :
    ((interval mantissa exponent).low : ℚ) / (interval mantissa exponent).den =
      (mantissa - quarters mantissa exponent / 4) * 2 ^ exponent := by
  have hle := quarters_le mantissa exponent
  rw [show (interval mantissa exponent).low =
    (4 * mantissa - quarters mantissa exponent) * Nat.pow 2 exponent.toNat from rfl, quarter_div_den,
    Nat.cast_sub (by omega)]
  push_cast
  ring

/-- **The digits that a number is written with lie in its interval.** -/
theorem shortest_contains (h : IsFloat mantissa exponent) :
    (interval mantissa exponent).Contains
      (decimalValue (shortest mantissa exponent).1 (shortest mantissa exponent).2) := by
  have hden := den_interval_pos mantissa exponent
  have hplace : (0 : ℚ) < 2 ^ exponent := zpow_pos (by norm_num) _
  have hquarters : (0 : ℚ) < quarters mantissa exponent := by
    exact_mod_cast quarters_pos mantissa exponent
  obtain ⟨first, hfirst⟩ : ∃ first, first = decimalExponent (interval mantissa exponent).mid
    (interval mantissa exponent).den 330 - 1 := ⟨_, rfl⟩
  have hlead : (10 : ℚ) ^ first ≤ mantissa * 2 ^ exponent := by
    rw [← mid_div_den, hfirst]
    refine le_of_decimalExponent hden ?_
    have hsmall : Nat.pow 2 (-exponent).toNat ≤ 10 ^ 330 :=
      (Nat.pow_le_pow_right (by decide)
        (show (-exponent).toNat ≤ 1074 by have := h.le_exponent; omega)).trans (by decide +kernel)
    have hmid : 4 ≤ (interval mantissa exponent).mid := by
      show 4 ≤ 4 * mantissa * Nat.pow 2 exponent.toNat
      have := Nat.mul_pos h.pos (Nat.two_pow_pos exponent.toNat)
      rw [Nat.mul_assoc]
      simp only [Nat.pow_eq]
      omega
    exact Nat.mul_le_mul hmid hsmall
  -- Sixteen places behind the first digit the grid is fine enough.
  have hgrid : (10 : ℚ) ^ (first - (16 : Nat)) = 10 ^ first / 10 ^ 16 := by
    rw [zpow_sub₀ (by norm_num), zpow_natCast]
  have hfine : (10 : ℚ) ^ (first - (16 : Nat)) <
      (interval mantissa exponent).high / (interval mantissa exponent).den -
        (interval mantissa exponent).low / (interval mantissa exponent).den := by
    rw [high_div_den, low_div_den h.pos, hgrid]
    have hbound : (mantissa : ℚ) / 10 ^ 16 < 1 / 2 + quarters mantissa exponent / 4 := by
      rw [quarters]
      split
      · next hedge =>
        simp only [Bool.and_eq_true, decide_eq_true_eq] at hedge
        rw [hedge.1, fractionSize]
        norm_num
      · have hlt : (mantissa : ℚ) < 9007199254740992 := by exact_mod_cast h.lt
        rw [div_lt_iff₀ (by norm_num)]
        push_cast
        linarith
    calc (10 : ℚ) ^ first / 10 ^ 16 ≤ (mantissa : ℚ) * 2 ^ exponent / 10 ^ 16 := by gcongr
      _ = (mantissa : ℚ) / 10 ^ 16 * 2 ^ exponent := by ring
      _ < (1 / 2 + quarters mantissa exponent / 4) * 2 ^ exponent := by gcongr
      _ = _ := by ring
  rw [shortest, ← hfirst]
  refine Interval.firstGrid_contains hden (by decide : 16 < 17)
    (Interval.isSome_onGrid? hden ?_ ?_ hfine)
  · rw [mid_div_den, low_div_den h.pos]
    gcongr
    linarith
  · rw [mid_div_den, high_div_den]
    gcongr
    linarith

end Float

end TriggerScript.Decimal

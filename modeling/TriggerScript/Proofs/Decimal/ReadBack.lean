import TriggerScript.Proofs.Decimal.Shortest
import Mathlib.Tactic.LinearCombination

/-!
# The text of a number is read as this number

* `significand`, `binaryExponent` : the digits and the exponent that positive bits stand for.
* `rounds_of_contains` : what lies in the interval of a number is rounded to it.
* `ofDigits_of_contains` : and so it is read as this number.
* `read?_numberText` : the text of a finite number is a plain number and is read back.
-/

namespace TriggerScript.Decimal

/-! ### Positive bits -/

/-- The significant digits that bits stand for. -/
def significand (bits : Nat) : Nat :=
  if bits < fractionSize then bits else fractionSize + bits % fractionSize

/-- The exponent that bits stand for. -/
def binaryExponent (bits : Nat) : Int :=
  (bits / fractionSize - 1 : Nat) - (smallestPower : Int)

/-- The bits behind those of the largest finite number. -/
def infiniteBits : Nat := 2047 * fractionSize

section Bits

variable {bits : Nat}

theorem isFloat (hpos : 0 < bits) : IsFloat (significand bits) (binaryExponent bits) where
  pos := by
    rw [significand]
    split
    · exact hpos
    · exact Nat.add_pos_left (by decide) _
  lt := by
    have := Nat.mod_lt bits (show 0 < fractionSize by decide)
    rw [significand]
    split <;> omega
  le_exponent := by
    rw [binaryExponent, smallestPower]
    omega
  full := by
    intro h
    have hsmall : bits < fractionSize := by
      by_contra hlarge
      rw [significand, if_neg hlarge] at h
      omega
    rw [binaryExponent, Nat.div_eq_of_lt hsmall]
    rfl

theorem gridPoint_eq_mul : gridPoint bits = significand bits * gridStep bits := by
  rw [gridPoint_eq, significand]
  split
  · next hsmall =>
    rw [gridStep, Nat.div_eq_of_lt hsmall]
    exact (Nat.mul_one bits).symm
  · rfl

/-- The step of the grid, in units of the smallest number. -/
theorem gridStep_eq : (gridStep bits : ℚ) = 2 ^ binaryExponent bits * 2 ^ smallestPower := by
  rw [binaryExponent, zpow_sub₀ (by norm_num), zpow_natCast, zpow_natCast, gridStep,
    div_mul_cancel₀ _ (by positivity)]
  push_cast
  rfl

/-- The step before a point is as long as the one behind it or, where the grid changes, half as
long. -/
theorem gridStep_before (before : Nat) : (gridStep before : ℚ) =
    quarters (significand (before + 1)) (binaryExponent (before + 1)) / 2 * gridStep (before + 1) := by
  have hsize : 0 < fractionSize := by decide
  by_cases hedge : (before + 1) % fractionSize = 0
  · obtain ⟨field, hfield⟩ := Nat.dvd_of_mod_eq_zero hedge
    obtain ⟨above, rfl⟩ : ∃ above, field = above + 1 := ⟨field - 1, by
      rcases Nat.eq_zero_or_pos field with rfl | h
      · omega
      · omega⟩
    have hbefore : before / fractionSize = above := by
      rw [Nat.mul_succ] at hfield
      rw [show before = fractionSize * above + (fractionSize - 1) by omega, Nat.mul_add_div hsize,
        Nat.div_eq_of_lt (by omega), Nat.add_zero]
    have hdigits : significand (before + 1) = fractionSize := by
      rw [significand, if_neg (by rw [hfield, Nat.mul_succ]; omega), hedge]
      rfl
    have hexponent : binaryExponent (before + 1) = above - 1074 := by
      rw [binaryExponent, hfield, Nat.mul_div_cancel_left _ hsize, Nat.add_sub_cancel]
      rfl
    rw [gridStep, gridStep, hbefore, hfield, Nat.mul_div_cancel_left _ hsize, Nat.add_sub_cancel,
      ← hfield, hdigits, hexponent, quarters]
    cases above with
    | zero => norm_num
    | succ above =>
      rw [if_pos (by simp; omega), Nat.add_sub_cancel, pow_succ]
      push_cast
      ring
  · have hbefore : before / fractionSize = (before + 1) / fractionSize := by
      rw [Nat.succ_div, if_neg (mt Nat.mod_eq_zero_of_dvd hedge), Nat.add_zero]
    have hdigits : significand (before + 1) ≠ fractionSize := by
      rw [significand]
      split <;> omega
    rw [gridStep, gridStep, hbefore, quarters, if_neg (by simp [hdigits])]
    norm_num

theorem even_significand_iff : Even (significand bits) ↔ Even bits := by
  rw [significand, Nat.even_iff, Nat.even_iff]
  split
  · rfl
  · rw [show fractionSize = 2 * 2251799813685248 from rfl] at *
    omega

/-! ### Reading -/

/-- **What lies in the interval of a number is rounded to it.** -/
theorem rounds_of_contains (hpos : 0 < bits) {n : Nat} {power : Int}
    (h : (interval (significand bits) (binaryExponent bits)).Contains (decimalValue n power)) :
    Rounds (n * Nat.pow 10 power.toNat * Nat.pow 2 smallestPower) (Nat.pow 10 (-power).toNat)
      bits := by
  obtain ⟨unit, hunit⟩ : ∃ unit : ℚ, unit = 2 ^ binaryExponent bits := ⟨_, rfl⟩
  obtain ⟨scale, hscale⟩ : ∃ scale : ℚ, scale = 2 ^ smallestPower * 10 ^ (-power).toNat := ⟨_, rfl⟩
  have hscalePos : 0 < scale := by
    rw [hscale]
    positivity
  have hnum : ((n * Nat.pow 10 power.toNat * Nat.pow 2 smallestPower : Nat) : ℚ) =
      decimalValue n power * scale := by
    rw [Interval.decimalValue_eq_div, hscale]
    simp only [Nat.pow_eq]
    push_cast
    field_simp
  have hpoint : (gridPoint bits : ℚ) * (Nat.pow 10 (-power).toNat : Nat) =
      significand bits * unit * scale := by
    rw [gridPoint_eq_mul, Nat.cast_mul, gridStep_eq, hunit, hscale]
    simp only [Nat.pow_eq]
    push_cast
    ring
  have hstep : (gridStep bits : ℚ) * (Nat.pow 10 (-power).toNat : Nat) = unit * scale := by
    rw [gridStep_eq, hunit, hscale]
    simp only [Nat.pow_eq]
    push_cast
    ring
  -- Both ends of the interval lie half way to the neighbours.
  have hhigh : (((gridPoint bits + gridPoint (bits + 1)) * Nat.pow 10 (-power).toNat : Nat) : ℚ) =
      2 * ((significand bits + 1 / 2) * unit * scale) := by
    rw [gridPoint_succ]
    push_cast
    linear_combination 2 * hpoint + hstep
  have hlow (before : Nat) (hbefore : bits = before + 1) :
      (((gridPoint before + gridPoint bits) * Nat.pow 10 (-power).toNat : Nat) : ℚ) =
        2 * ((significand bits - quarters (significand bits) (binaryExponent bits) / 4) * unit *
          scale) := by
    have hbehind : (gridPoint before : ℚ) = gridPoint bits -
        quarters (significand bits) (binaryExponent bits) / 2 * gridStep bits := by
      rw [hbefore, ← gridStep_before, gridPoint_succ]
      push_cast
      ring
    push_cast at hpoint hstep ⊢
    rw [hbehind]
    linear_combination 2 * hpoint -
      quarters (significand bits) (binaryExponent bits) / 2 * hstep
  have hdouble : ((2 * (n * Nat.pow 10 power.toNat * Nat.pow 2 smallestPower) : Nat) : ℚ) =
      2 * (decimalValue n power * scale) := by
    rw [Nat.cast_mul, hnum]
    rfl
  have hends := h.le
  rw [low_div_den (isFloat hpos).pos, high_div_den, ← hunit] at hends
  -- An end of the interval only counts if the last bit is even.
  have heven (hend : decimalValue n power =
        (significand bits - quarters (significand bits) (binaryExponent bits) / 4) * unit ∨
      decimalValue n power = (significand bits + 1 / 2) * unit) : Even bits := by
    by_contra hodd
    rw [← even_significand_iff, Nat.even_iff] at hodd
    have hclosed : (interval (significand bits) (binaryExponent bits)).closed = false := by
      rw [interval]
      simpa using hodd
    rw [Interval.Contains, hclosed, if_neg Bool.false_ne_true, low_div_den (isFloat hpos).pos,
      high_div_den, ← hunit] at h
    rcases hend with hend | hend
    · exact h.1.ne' hend
    · exact h.2.ne hend
  constructor
  · intro before hbefore
    constructor
    · rw [← Nat.cast_le (α := ℚ), hlow before hbefore, hdouble]
      gcongr
      exact hends.1
    · intro heq
      rw [← Nat.cast_inj (R := ℚ), hlow before hbefore, hdouble] at heq
      exact heven (.inl (mul_right_cancel₀ hscalePos.ne' (by linarith)))
  · constructor
    · rw [← Nat.cast_le (α := ℚ), hhigh, hdouble]
      gcongr
      exact hends.2
    · intro heq
      rw [← Nat.cast_inj (R := ℚ), hhigh, hdouble] at heq
      exact heven (.inr (mul_right_cancel₀ hscalePos.ne' (by linarith)))

/-! ### Powers of ten -/

/-- A number has as many digits as the power of ten just above it has zeros. -/
theorem pow_length_digits {n : Nat} (hn : n ≠ 0) :
    10 ^ ((digits n).length - 1) ≤ n ∧ n < 10 ^ (digits n).length := by
  have hlength : 0 < (digits n).length := List.length_pos_iff.2 (digits_ne_nil n)
  refine ⟨?_, (Nat.length_toDigits_le_iff (by decide) hlength).1 (Nat.le_refl _)⟩
  by_contra hlt
  rcases Nat.eq_zero_or_pos ((digits n).length - 1) with hone | hmore
  · rw [hone] at hlt
    omega
  · have := (Nat.length_toDigits_le_iff (by decide) hmore).2 (Nat.not_le.1 hlt)
    rw [digits] at hlength this
    omega

/-- A number of decimal steps between two powers of ten has a first digit between them. -/
theorem size_of_decimalValue {n : Nat} {power : Int} (low high : Int) (hn : n ≠ 0)
    (hlow : (10 : ℚ) ^ low ≤ decimalValue n power) (hhigh : decimalValue n power ≤ 10 ^ high) :
    low < (digits n).length + power ∧ (digits n).length + power ≤ high + 1 := by
  have hten : (1 : ℚ) < 10 := by norm_num
  have hpower : (0 : ℚ) < 10 ^ power := zpow_pos (by norm_num) _
  have hlength : 0 < (digits n).length := List.length_pos_iff.2 (digits_ne_nil n)
  obtain ⟨hbelow, habove⟩ := pow_length_digits hn
  constructor
  · rw [← zpow_lt_zpow_iff_right₀ hten, zpow_add₀ (by norm_num), zpow_natCast]
    refine hlow.trans_lt ?_
    rw [decimalValue]
    gcongr
    exact_mod_cast habove
  · have hle : (10 : ℚ) ^ (((digits n).length - 1 : Nat) + power) ≤ 10 ^ high := by
      rw [zpow_add₀ (by norm_num), zpow_natCast]
      refine le_trans ?_ hhigh
      rw [decimalValue]
      gcongr
      exact_mod_cast hbelow
    rw [zpow_le_zpow_iff_right₀ hten] at hle
    omega

/-- Ten is more than the third power of two. -/
theorem two_pow_le_ten_pow (count : Nat) : (2 : ℚ) ^ (3 * count) ≤ 10 ^ count := by
  rw [pow_mul]
  gcongr
  norm_num

/-- What lies in the interval of a number is of its magnitude. -/
theorem magnitude_of_contains (hpos : 0 < bits) {x : ℚ}
    (h : (interval (significand bits) (binaryExponent bits)).Contains x) :
    (2 : ℚ) ^ (binaryExponent bits - 1) ≤ x ∧ x ≤ 2 ^ (binaryExponent bits + 54) := by
  have hends := h.le
  have hplace : (0 : ℚ) < 2 ^ binaryExponent bits := zpow_pos (by norm_num) _
  have hfloat := isFloat hpos
  have hone : (1 : ℚ) ≤ significand bits := by exact_mod_cast hfloat.pos
  have hlt : (significand bits : ℚ) < 2 * fractionSize := by exact_mod_cast hfloat.lt
  have hquarters : (quarters (significand bits) (binaryExponent bits) : ℚ) ≤ 2 := by
    exact_mod_cast quarters_le _ _
  rw [low_div_den hfloat.pos, high_div_den] at hends
  constructor
  · refine le_trans ?_ hends.1
    rw [zpow_sub_one₀ (by norm_num), mul_comm]
    gcongr
    linarith
  · refine hends.2.trans ?_
    rw [zpow_add₀ (by norm_num), mul_comm]
    gcongr
    rw [fractionSize] at hlt
    push_cast at hlt
    norm_num
    linarith

/-- **What lies in the interval of a number is read as this number.** -/
theorem ofDigits_of_contains (hpos : 0 < bits) (hfinite : bits < infiniteBits) {n : Nat}
    {power : Int}
    (h : (interval (significand bits) (binaryExponent bits)).Contains (decimalValue n power)) :
    ofDigits n power = ⟨.ofNat bits⟩ := by
  obtain ⟨hlow, hhigh⟩ := magnitude_of_contains hpos h
  have hn : n ≠ 0 := by
    rintro rfl
    rw [decimalValue, Nat.cast_zero, zero_mul] at hlow
    exact absurd hlow (not_le.2 (zpow_pos (by norm_num) _))
  have hexponent : -1074 ≤ binaryExponent bits ∧ binaryExponent bits ≤ 971 := by
    have hfield : bits / fractionSize < 2047 := Nat.div_lt_of_lt_mul (by
      rwa [infiniteBits, Nat.mul_comm] at hfinite)
    rw [binaryExponent, smallestPower]
    omega
  have hsize := size_of_decimalValue (-(359 : Nat)) (342 : Nat) hn
    (by
      refine le_trans ?_ hlow
      have hpow : ((10 : ℚ) ^ 359)⁻¹ ≤ (2 ^ (3 * 359))⁻¹ :=
        inv_anti₀ (by positivity) (two_pow_le_ten_pow 359)
      rw [zpow_neg, zpow_natCast]
      refine hpow.trans ?_
      rw [← zpow_natCast, ← zpow_neg]
      exact zpow_le_zpow_right₀ (by norm_num) (by omega))
    (by
      refine hhigh.trans ?_
      rw [zpow_natCast]
      refine le_trans ?_ (two_pow_le_ten_pow 342)
      rw [← zpow_natCast]
      exact zpow_le_zpow_right₀ (by norm_num) (by omega))
  have hbits : bits < 2 ^ 63 := hfinite.trans (by decide)
  have hden : 0 < Nat.pow 10 (-power).toNat := Nat.pow_pos (by decide)
  have hnearest := nearestBits_eq hden hbits (rounds_of_contains hpos h)
  rw [ofDigits, if_neg hn, if_neg (by rw [digits] at hsize; omega),
    if_neg (by rw [digits] at hsize; omega)]
  simp only
  rw [hnearest, if_neg]
  rw [show Number.infinity.bits.toNat = infiniteBits from rfl]
  omega

end Bits

/-! ### Texts of numbers -/

/-- The form of a finite number, by its bits without the sign. -/
theorem ofNumber_of_isFinite {x : Number} (h : isFinite x = true) :
    Dyadic.ofNumber x = .finite (isNegative x.bits.toNat) (significand (magnitude x.bits.toNat))
      (binaryExponent (magnitude x.bits.toNat)) ∧ magnitude x.bits.toNat < infiniteBits := by
  have hsize : 0 < fractionSize := by decide
  have hfraction : x.bits.toNat % fractionSize = magnitude x.bits.toNat % fractionSize := by
    rw [magnitude, show signBit = fractionSize * 2048 from rfl, Nat.mod_mul_right_mod]
  have hlt : magnitude x.bits.toNat < signBit := Nat.mod_lt _ (by decide)
  rw [isFinite] at h
  rw [Dyadic.ofNumber, Dyadic.ofBits] at *
  simp only [hfraction] at *
  generalize magnitude x.bits.toNat = bits at *
  have hfield : bits / fractionSize < 2048 := Nat.div_lt_of_lt_mul hlt
  by_cases htop : bits / fractionSize = 2047
  · rw [if_pos htop] at h
    split at h
    · next heq =>
      split at heq <;> cases heq
    · cases h
  · rw [if_neg htop] at h ⊢
    refine ⟨?_, ?_⟩
    · rw [significand, binaryExponent, smallestPower]
      split
      · next hzero =>
        have hsmall : bits < fractionSize := by
          by_contra hlarge
          have := Nat.div_pos (Nat.not_lt.1 hlarge) hsize
          omega
        rw [if_pos hsmall, Nat.mod_eq_of_lt hsmall, hzero]
        rfl
      · next hpos =>
        rw [if_neg fun hsmall => hpos (Nat.div_eq_of_lt hsmall)]
        congr 1
        generalize bits / fractionSize = field at hpos
        omega
    · rw [infiniteBits]
      exact Nat.lt_mul_of_div_lt (by omega) hsize

theorem xor_signBit {bits : Nat} (h : bits < signBit) : bits ^^^ signBit = signBit + bits := by
  rw [Nat.xor_comm]
  refine Nat.eq_of_testBit_eq fun i => ?_
  rw [Nat.testBit_xor, show signBit = 2 ^ 63 from rfl] at *
  rcases Nat.lt_trichotomy i 63 with hi | rfl | hi
  · rw [Nat.testBit_two_pow_add_gt hi, Nat.testBit_two_pow_of_ne (by omega), Bool.false_xor]
  · rw [Nat.testBit_two_pow_add_eq, Nat.testBit_two_pow_self, Bool.true_xor]
  · rw [Nat.testBit_two_pow_of_ne (by omega), Bool.false_xor]
    rw [Nat.testBit_lt_two_pow (h.trans (Nat.pow_lt_pow_right (by decide) hi)),
      Nat.testBit_lt_two_pow]
    calc 2 ^ 63 + bits < 2 ^ 64 := by omega
      _ ≤ 2 ^ i := Nat.pow_le_pow_right (by decide) hi

/-- A number is made of its bits without the sign. -/
theorem eq_of_magnitude (x : Number) : x =
    if isNegative x.bits.toNat then Number.neg ⟨.ofNat (magnitude x.bits.toNat)⟩
    else ⟨.ofNat (magnitude x.bits.toNat)⟩ := by
  have hlt : x.bits.toNat < 2 * signBit := x.bits.toNat_lt
  have hbits (n : Nat) (hn : n < 2 * signBit) : (UInt64.ofNat n).toNat = n :=
    UInt64.toNat_ofNat_of_lt' hn
  have hext {y : Number} (h : x.bits.toNat = y.bits.toNat) : x = y := by
    cases x
    cases y
    exact congrArg Number.mk (UInt64.toNat_inj.1 h)
  rw [isNegative, magnitude]
  split
  · next hnegative =>
    rw [beq_iff_eq] at hnegative
    refine hext ?_
    rw [Number.neg, UInt64.toNat_xor, hbits _ ((Nat.mod_lt _ (by decide)).trans (by decide))]
    rw [show (0x8000000000000000 : UInt64).toNat = signBit from rfl,
      xor_signBit (Nat.mod_lt _ (by decide))]
    have := Nat.div_add_mod x.bits.toNat signBit
    rw [hnegative] at this
    omega
  · next hpositive =>
    rw [beq_iff_eq] at hpositive
    refine hext ?_
    rw [hbits _ ((Nat.mod_lt _ (by decide)).trans (by decide)), Nat.mod_eq_of_lt]
    have := Nat.div_lt_of_lt_mul (Nat.mul_comm 2 signBit ▸ hlt)
    by_contra hlarge
    have := Nat.div_pos (Nat.not_lt.1 hlarge) (by decide : 0 < signBit)
    omega

/-- **The text of a finite number is a plain number, and it is read as a number with this text.** -/
theorem read?_numberText {x : Number} (h : isFinite x = true) :
    Text.isPlainNumber (numberText x).toList = true ∧
      ∃ y, read? (numberText x).toList = some y ∧ numberText y = numberText x := by
  obtain ⟨hform, hfinite⟩ := ofNumber_of_isFinite h
  rcases Nat.eq_zero_or_pos (magnitude x.bits.toNat) with hzero | hpos
  · have htext : numberText x = "0" := by
      rw [numberText, hform, hzero]
      rfl
    rw [htext]
    exact ⟨by decide, .zero, by decide +kernel, by decide +kernel⟩
  obtain ⟨m, hm⟩ : ∃ m, significand (magnitude x.bits.toNat) = m + 1 :=
    ⟨_, (Nat.succ_pred_eq_of_pos (isFloat hpos).pos).symm⟩
  obtain ⟨body, hbody⟩ : ∃ body, body = place
    (shortest (significand (magnitude x.bits.toNat)) (binaryExponent (magnitude x.bits.toNat))).1
    (shortest (significand (magnitude x.bits.toNat)) (binaryExponent (magnitude x.bits.toNat))).2 :=
      ⟨_, rfl⟩
  have htext : (numberText x).toList =
      if isNegative x.bits.toNat then '-' :: body else body := by
    rw [numberText, display, hform, hbody, hm]
    simp only [String.toList_ofList, Nat.succ_ne_zero, if_false]
  obtain ⟨whole, fraction, hplace, hwritten⟩ := written_place
    (shortest (significand (magnitude x.bits.toNat)) (binaryExponent (magnitude x.bits.toNat))).1
    (shortest (significand (magnitude x.bits.toNat)) (binaryExponent (magnitude x.bits.toNat))).2
  rw [← hbody] at hplace
  have hread : readUnsigned? body = some ⟨.ofNat (magnitude x.bits.toNat)⟩ := by
    rw [hplace, readUnsigned?_written hwritten]
    refine congrArg some (ofDigits_of_contains hpos hfinite ?_)
    rw [hwritten.value_eq]
    exact shortest_contains (isFloat hpos)
  obtain ⟨d, rest, hcons, hd⟩ := hwritten.exists_cons
  rw [← hplace] at hcons
  have hplain := isUnsignedNumber_written hwritten
  rw [← hplace] at hplain
  rw [htext]
  cases hnegative : isNegative x.bits.toNat with
  | true =>
    refine ⟨hplain, x, ?_, rfl⟩
    have hx := eq_of_magnitude x
    rw [hnegative, if_pos rfl] at hx
    rw [if_pos rfl, read?, hread, Option.map_some, ← hx]
  | false =>
    have hx := eq_of_magnitude x
    rw [hnegative, if_neg Bool.false_ne_true] at hx
    have hminus : d ≠ '-' := ne_of_isDigit hd rfl
    have hplus : d ≠ '+' := ne_of_isDigit hd rfl
    rw [if_neg Bool.false_ne_true]
    refine ⟨?_, x, ?_, rfl⟩
    · rw [hcons] at hplain ⊢
      rw [Text.isPlainNumber]
      · exact hplain
      · rintro _ ⟨⟩
        exact hminus rfl
    · rw [hcons] at hread ⊢
      rw [read?, hread, ← hx]
      · rintro _ ⟨⟩
        exact hminus rfl
      · rintro _ ⟨⟩
        exact hplus rfl

end TriggerScript.Decimal

import TriggerScript.Decimal.Reading
import TriggerScript.Decimal.Shortest
import TriggerScript.Text.PlainNumber
import Mathlib.Algebra.Order.Field.Rat
import Mathlib.Data.List.TakeWhile
import Mathlib.Tactic.FieldSimp
import Mathlib.Tactic.Ring

/-!
# Decimal numbers as they are written

Digits with a point in its place are read as the number that they were written for.

* `written` : a whole part and a fraction, which may be empty.
* `Written` : digits that can be read, with the number that they stand for.
* `written_place` : the digits that a number of decimal steps is written with.
* `readUnsigned?_written`, `isPlainNumber_written` : what they are read as.
-/

namespace TriggerScript.Decimal

/-- The value of a whole number of decimal steps. -/
def decimalValue (n : Nat) (power : Int) : ℚ :=
  n * 10 ^ power

/-- Digits with a point between the whole part and the fraction, if there is one. -/
def written (whole fraction : List Char) : List Char :=
  if fraction.isEmpty then whole else whole ++ '.' :: fraction

/-- A whole part and a fraction that stand for a number. -/
structure Written (whole fraction : List Char) (value : ℚ) : Prop where
  whole_ne_nil : whole ≠ []
  digits : ∀ c ∈ whole ++ fraction, c.isDigit = true
  value_eq : decimalValue (digitsValue 0 (whole ++ fraction)) (-fraction.length) = value

theorem digitsValue_eq (start : Nat) (ds : List Char) :
    digitsValue start ds = Nat.ofDigitChars 10 ds start :=
  Nat.ofDigitChars_eq_foldl.symm

theorem digitsValue_digits (n : Nat) : digitsValue 0 (digits n) = n := by
  rw [digitsValue_eq, digits, Nat.ofDigitChars_ten_toDigits]

theorem digitsValue_append (start : Nat) (ds es : List Char) :
    digitsValue start (ds ++ es) = digitsValue (digitsValue start ds) es :=
  List.foldl_append

theorem digitsValue_zeros (start count : Nat) :
    digitsValue start (List.replicate count '0') = start * 10 ^ count := by
  rw [digitsValue_eq, Nat.ofDigitChars_replicate_zero, Nat.mul_comm]

theorem isDigit_of_mem_digits {n : Nat} {c : Char} (h : c ∈ digits n) : c.isDigit = true :=
  Nat.isDigit_of_mem_toDigits (by decide) (by decide) h

theorem digits_ne_nil (n : Nat) : digits n ≠ [] :=
  Nat.toDigits_ne_nil

theorem isDigit_of_mem_zeros {count : Nat} {c : Char} (h : c ∈ List.replicate count '0') :
    c.isDigit = true := by
  rw [List.eq_of_mem_replicate h]
  rfl

/-! ### Writing -/

/-- A text is what remains without the zeros at its end, followed by zeros. -/
theorem exists_zeros (ds : List Char) : ∃ count,
    ds = (ds.reverse.dropWhile (· == '0')).reverse ++ List.replicate count '0' := by
  refine ⟨(ds.reverse.takeWhile (· == '0')).length, ?_⟩
  have hzeros : (ds.reverse.takeWhile (· == '0')).reverse =
      List.replicate (ds.reverse.takeWhile (· == '0')).length '0' := by
    rw [List.eq_replicate_iff, List.length_reverse]
    refine ⟨rfl, fun c hc => ?_⟩
    have := List.mem_takeWhile_imp (List.mem_reverse.1 hc)
    simpa using this
  rw [← hzeros, ← List.reverse_append, List.takeWhile_append_dropWhile, List.reverse_reverse]

/-- **A number of decimal steps is written with digits that stand for it.** -/
theorem written_place (n : Nat) (power : Int) : ∃ whole fraction,
    place n power = written whole fraction ∧ Written whole fraction (decimalValue n power) := by
  rw [place]
  split
  · next hpower =>
    obtain ⟨zeros, rfl⟩ := Int.eq_ofNat_of_zero_le hpower
    refine ⟨digits n ++ List.replicate zeros '0', [], rfl, ⟨?_, ?_, ?_⟩⟩
    · exact fun h => digits_ne_nil n (List.append_eq_nil_iff.1 h).1
    · intro c hc
      rw [List.append_nil, List.mem_append] at hc
      exact hc.elim isDigit_of_mem_digits isDigit_of_mem_zeros
    · rw [List.append_nil, digitsValue_append, digitsValue_digits, digitsValue_zeros]
      simp [decimalValue]
  · next hpower =>
    obtain ⟨places, rfl⟩ : ∃ places : Nat, power = -places := ⟨(-power).toNat, by omega⟩
    rw [neg_neg, Int.toNat_natCast]
    obtain ⟨padded, hpadded⟩ : ∃ padded,
        padded = List.replicate (places + 1 - (digits n).length) '0' ++ digits n := ⟨_, rfl⟩
    have hlength : places < padded.length := by
      rw [hpadded, List.length_append, List.length_replicate]
      omega
    have hvalue : digitsValue 0 padded = n := by
      rw [hpadded, digitsValue_append, digitsValue_zeros, Nat.zero_mul, digitsValue_digits]
    have hdigits : ∀ c ∈ padded, c.isDigit = true := by
      intro c hc
      rw [hpadded, List.mem_append] at hc
      exact hc.elim isDigit_of_mem_zeros isDigit_of_mem_digits
    obtain ⟨whole, behind, hsplit, hwhole, hbehind⟩ : ∃ whole behind, padded = whole ++ behind ∧
        whole = padded.take (padded.length - places) ∧ behind.length = places :=
      ⟨_, _, (List.take_append_drop (padded.length - places) padded).symm, rfl, by
        rw [List.length_drop]
        omega⟩
    have hdrop : padded.drop whole.length = behind := by rw [hsplit, List.drop_left]
    simp only [← hpadded, ← hwhole, hdrop]
    obtain ⟨count, hcount⟩ := exists_zeros behind
    generalize (behind.reverse.dropWhile (· == '0')).reverse = fraction at hcount
    refine ⟨whole, fraction, rfl, ⟨?_, ?_, ?_⟩⟩
    · rintro rfl
      rw [eq_comm, List.take_eq_nil_iff] at hwhole
      rcases hwhole with hwhole | rfl
      · omega
      · exact absurd hlength (Nat.not_lt_zero _)
    · intro c hc
      refine hdigits c ?_
      rw [hsplit, hcount, ← List.append_assoc]
      exact List.mem_append_left _ hc
    · have hn : n = digitsValue 0 (whole ++ fraction) * 10 ^ count := by
        rw [← digitsValue_zeros, ← digitsValue_append, List.append_assoc, ← hcount, ← hsplit, hvalue]
      have hplaces : places = fraction.length + count := by
        rw [← hbehind, hcount, List.length_append, List.length_replicate]
      rw [decimalValue, decimalValue, hplaces]
      conv_rhs => rw [hn]
      push_cast
      rw [neg_add, zpow_add₀ (by norm_num), zpow_neg, zpow_neg, zpow_natCast, zpow_natCast]
      field_simp

/-! ### Reading -/

section Reading

variable {whole fraction : List Char} {value : ℚ}

theorem takeWhile_append_cons {p : Char → Bool} {ds : List Char} {c : Char} {rest : List Char}
    (hds : ∀ d ∈ ds, p d = true) (hc : p c = false) : (ds ++ c :: rest).takeWhile p = ds := by
  rw [List.takeWhile_append_of_pos hds, List.takeWhile_cons_of_neg (by simp [hc]), List.append_nil]

theorem dropWhile_append_cons {p : Char → Bool} {ds : List Char} {c : Char} {rest : List Char}
    (hds : ∀ d ∈ ds, p d = true) (hc : p c = false) :
    (ds ++ c :: rest).dropWhile p = c :: rest := by
  rw [List.dropWhile_append_of_pos hds, List.dropWhile_cons_of_neg (by simp [hc])]

theorem takeWhile_of_forall {p : Char → Bool} {ds : List Char} (hds : ∀ d ∈ ds, p d = true) :
    ds.takeWhile p = ds :=
  List.takeWhile_eq_self_iff.2 hds

theorem dropWhile_of_forall {p : Char → Bool} {ds : List Char} (hds : ∀ d ∈ ds, p d = true) :
    ds.dropWhile p = [] :=
  List.dropWhile_eq_nil_iff.2 hds

namespace Written

variable (h : Written whole fraction value)

include h

theorem whole_digits : ∀ c ∈ whole, c.isDigit = true :=
  fun c hc => h.digits c (List.mem_append_left _ hc)

theorem fraction_digits : ∀ c ∈ fraction, c.isDigit = true :=
  fun c hc => h.digits c (List.mem_append_right _ hc)

/-- What is written begins with a digit. -/
theorem exists_cons : ∃ d rest, written whole fraction = d :: rest ∧ d.isDigit = true := by
  obtain ⟨d, rest, rfl⟩ := List.exists_cons_of_ne_nil h.whole_ne_nil
  refine ⟨d, ?_, ?_, h.whole_digits d List.mem_cons_self⟩
  · exact if fraction.isEmpty then rest else rest ++ '.' :: fraction
  · rw [written]
    split <;> rfl

end Written

theorem ne_of_isDigit {c d : Char} (hc : c.isDigit = true) (hd : d.isDigit = false) : c ≠ d := by
  rintro rfl
  rw [hc] at hd
  cases hd

/-- What begins with a digit is none of the words. -/
theorem map_toLower_ne_of_isDigit {c d : Char} {rest word : List Char} (hc : c.isDigit = true)
    (hd : ∀ e : Char, e.isDigit = true → e.toLower ≠ d) :
    ((c :: rest).map Char.toLower == d :: word) = false := by
  rw [List.map_cons, beq_eq_false_iff_ne]
  intro heq
  exact hd c hc (List.cons.inj heq).1

theorem toLower_ne_of_isDigit {c d : Char} (hd : 58 ≤ d.toNat) (hc : c.isDigit = true) :
    c.toLower ≠ d := by
  have hrange : c.toNat ≤ 57 := by
    simp only [Char.isDigit, Bool.and_eq_true, decide_eq_true_eq] at hc
    exact hc.2
  have hsame : c.toLower = c := by
    refine dif_neg fun h => ?_
    have : 65 ≤ c.toNat := h.1
    omega
  rw [hsame]
  rintro rfl
  omega

/-- **Written digits are read as the number that they stand for.** -/
theorem readUnsigned?_written (h : Written whole fraction value) :
    readUnsigned? (written whole fraction) =
      some (ofDigits (digitsValue 0 (whole ++ fraction)) (-fraction.length)) := by
  obtain ⟨d, rest, hcons, hd⟩ := h.exists_cons
  have hword (c : Char) (hc : 58 ≤ c.toNat) (word : List Char) :
      ((written whole fraction).map Char.toLower == c :: word) = false := by
    rw [hcons]
    exact map_toLower_ne_of_isDigit hd fun e he => toLower_ne_of_isDigit hc he
  rw [readUnsigned?, hword 'i' (by decide), hword 'i' (by decide), hword 'n' (by decide)]
  simp only [Bool.or_self, Bool.false_eq_true, if_false]
  rw [written]
  split
  · next hempty =>
    obtain rfl := List.isEmpty_iff.1 hempty
    rw [takeWhile_of_forall h.whole_digits, dropWhile_of_forall h.whole_digits]
    simp [h.whole_ne_nil, readExponent?, digitsValue]
  · rw [takeWhile_append_cons h.whole_digits rfl, dropWhile_append_cons h.whole_digits rfl]
    simp only [takeWhile_of_forall h.fraction_digits, dropWhile_of_forall h.fraction_digits]
    simp [h.whole_ne_nil, readExponent?, digitsValue_append]

theorem isUnsignedNumber_written (h : Written whole fraction value) :
    Text.isUnsignedNumber (written whole fraction) = true := by
  have hpoint : ∀ c ∈ whole, (c != '.') = true := fun c hc => by
    simpa using ne_of_isDigit (h.whole_digits c hc) rfl
  have hwhole : Text.isDigits whole = true := by
    simpa [Text.isDigits, h.whole_ne_nil] using h.whole_digits
  rw [Text.isUnsignedNumber, written]
  split
  · rw [takeWhile_of_forall hpoint, dropWhile_of_forall hpoint, hwhole]
    rfl
  · next hempty =>
    rw [takeWhile_append_cons hpoint rfl, dropWhile_append_cons hpoint rfl, hwhole]
    simpa [Text.isDigits, List.isEmpty_iff.not.1 hempty] using h.fraction_digits

end Reading

end TriggerScript.Decimal

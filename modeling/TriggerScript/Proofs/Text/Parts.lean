import TriggerScript.Proofs.Text.Casing
import TriggerScript.Text.Cut
import TriggerScript.Text.PlainNumber

/-!
# Lowering a text part by part

Only the capital sigma looks around: what it becomes depends on whether cased letters stand before
and behind it. Behind a part nothing changes for it if what follows does not begin with a cased
letter, so such parts are lowered apart from each other.

* `startsCased_append`, `lowerAfter_append` : what stands before such a part.
* `lower_append_of_settled` : a part that stays as it is.
* `settled_of_mem_lowerAfter`, `lower_lower` : a lowered text stays as it is.
* `settled_of_isDigit`, `not_isBlank_of_isDigit` : digits are neither lowered nor trimmed away.
* `cutAt?_eq_some_iff`, `cutAtLast?_append_cons` : a text is cut at the first or last occurrence of a
  character.
-/

namespace TriggerScript.Text

/-! ### What a capital sigma sees -/

theorem startsCased_cons (c : Char) (cs : List Char) :
    startsCased (c :: cs) = if isCaseIgnorable c then startsCased cs else isCased c := by
  rw [startsCased, startsCased, List.dropWhile_cons]
  by_cases h : isCaseIgnorable c = true
  · rw [if_pos h, if_pos h]
  · rw [if_neg h, if_neg h]

/-- What does not begin with a cased letter does not end a word. -/
theorem startsCased_append {ys : List Char} (h : startsCased ys = false) (xs : List Char) :
    startsCased (xs ++ ys) = startsCased xs := by
  induction xs with
  | nil => exact h
  | cons x xs ih => rw [List.cons_append, startsCased_cons, startsCased_cons, ih]

/-- What stands before such a part is lowered as if nothing followed. -/
theorem lowerAfter_append {ys : List Char} (h : startsCased ys = false) (before xs : List Char) :
    lowerAfter before (xs ++ ys) = lowerAfter before xs ++ lowerAfter (xs.reverse ++ before) ys := by
  induction xs generalizing before with
  | nil => rfl
  | cons x xs ih =>
    rw [List.cons_append, lowerAfter, lowerAfter, startsCased_append h, ih]
    split <;> simp

theorem lower_append_of_settled {ys : List Char} (hstart : startsCased ys = false)
    (hys : ∀ c ∈ ys, Settled c) (xs : List Char) : lower (xs ++ ys) = lower xs ++ ys := by
  have hown : lowerAfter (xs.reverse ++ []) (ys ++ []) = ys ++ [] :=
    lowerAfter_append_of_settled hys []
  rw [List.append_nil ys] at hown
  rw [lower, lowerAfter_append hstart, hown, lower]

/-! ### Lowering twice -/

/-- What a character is on its own decides whether it is settled: a sigma is not. -/
theorem settled_of_lowerChar_eq {c : Char} (h : lowerChar c = [c]) : Settled c := by
  refine ⟨?_, h⟩
  rintro rfl
  exact absurd h (by decide +kernel)

theorem settled_of_mem_lowerAfter {before cs : List Char} {x : Char}
    (hx : x ∈ lowerAfter before cs) : Settled x := by
  induction cs generalizing before with
  | nil => cases hx
  | cons c cs ih =>
    rw [lowerAfter] at hx
    split at hx
    · rcases List.mem_cons.1 hx with rfl | hx
      · refine settled_of_lowerChar_eq ?_
        split <;> decide +kernel
      · exact ih hx
    · rcases List.mem_append.1 hx with hx | hx
      · exact settled_of_lowerChar_eq (lowerChar_of_mem_lowerChar hx)
      · exact ih hx

/-- **A lowered text stays as it is.** -/
theorem lower_lower (cs : List Char) : lower (lower cs) = lower cs :=
  lower_of_settled fun _ hc => settled_of_mem_lowerAfter hc

/-! ### Digits -/

theorem isDigits_iff {cs : List Char} :
    isDigits cs = true ↔ cs ≠ [] ∧ ∀ c ∈ cs, c.isDigit = true := by
  rw [isDigits, Bool.and_eq_true, List.all_eq_true, Bool.not_eq_true', List.isEmpty_eq_false_iff]

theorem toNat_of_isDigit {c : Char} (h : c.isDigit = true) : 48 ≤ c.toNat ∧ c.toNat ≤ 57 := by
  simpa [Char.isDigit, UInt32.le_iff_toNat_le] using h

theorem settled_of_isDigit {c : Char} (h : c.isDigit = true) : Settled c := by
  obtain ⟨hlow, hhigh⟩ := toNat_of_isDigit h
  refine settled_of_basic (by omega) ?_
  have hall : ∀ n < 58, 48 ≤ n → (Char.ofNat n).toLower = Char.ofNat n := by decide
  have hown := hall c.toNat (by omega) hlow
  rwa [Char.ofNat_toNat] at hown

theorem not_isBlank_of_isDigit {c : Char} (h : c.isDigit = true) : isBlank c = false := by
  obtain ⟨hlow, hhigh⟩ := toNat_of_isDigit h
  have hall : ∀ n < 58, 48 ≤ n → isBlank (Char.ofNat n) = false := by decide
  have hown := hall c.toNat (by omega) hlow
  rwa [Char.ofNat_toNat] at hown

/-! ### Cutting at an occurrence -/

theorem cutAt?_append_cons {mark : Char} {xs : List Char} (h : mark ∉ xs) (ys : List Char) :
    cutAt? mark (xs ++ mark :: ys) = some (xs, ys) := by
  induction xs with
  | nil => simp [cutAt?]
  | cons x xs ih =>
    obtain ⟨hne, hxs⟩ := not_or.1 (List.mem_cons.not.1 h)
    rw [List.cons_append, cutAt?, if_neg (by simpa using Ne.symm hne), ih hxs]
    rfl

theorem cutAt?_eq_none_iff {mark : Char} {cs : List Char} : cutAt? mark cs = none ↔ mark ∉ cs := by
  induction cs with
  | nil => simp [cutAt?]
  | cons c cs ih =>
    rw [cutAt?]
    by_cases hc : c = mark
    · simp [hc]
    · simp [hc, Ne.symm hc, ih]

/-- A text is cut at the first occurrence of a character. -/
theorem cutAt?_eq_some_iff {mark : Char} {cs xs ys : List Char} :
    cutAt? mark cs = some (xs, ys) ↔ cs = xs ++ mark :: ys ∧ mark ∉ xs := by
  constructor
  · intro h
    have hmem : mark ∈ cs := by
      by_contra hnone
      rw [cutAt?_eq_none_iff.2 hnone] at h
      cases h
    obtain ⟨front, back, rfl, hfront⟩ := List.eq_append_cons_of_mem hmem
    rw [cutAt?_append_cons hfront] at h
    obtain ⟨rfl, rfl⟩ := Prod.mk.inj (Option.some.inj h)
    exact ⟨rfl, hfront⟩
  · rintro ⟨rfl, hxs⟩
    exact cutAt?_append_cons hxs ys

theorem cutAtLast?_append_cons {mark : Char} {ys : List Char} (h : mark ∉ ys) (xs : List Char) :
    cutAtLast? mark (xs ++ mark :: ys) = some (xs, ys) := by
  have hcut : cutAt? mark (ys.reverse ++ mark :: xs.reverse) = some (ys.reverse, xs.reverse) :=
    cutAt?_append_cons (by simpa using h) _
  simp [cutAtLast?, hcut]

end TriggerScript.Text

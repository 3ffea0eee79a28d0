import Mathlib
import TriggerScript.Proofs.Text.Trimming
import TriggerScript.Text.LetterCase

/-!
# What lowering a text keeps

Lowering works on one character after the other. Blanks, digits and the other signs of scripts are
their own lowercase, and hardly any character from elsewhere has a lowercase in the basic alphabet.

* `stem_of_basic` : what a lowercase in the basic alphabet can stem from.
* `eq_of_not_isAlpha_mem_lowerChar`, `eq_of_isBlank_mem_lowerChar` : other signs of the basic
  alphabet than letters, and blanks, are the lowercase of themselves only.
* `lowerChar_of_mem_lowerChar` : what has been lowered stays as it is.
* `Settled`, `lower_of_settled` : a text whose characters are their own lowercase.
* `exists_stem` : each character of a lowered text stems from one of the text.
* `trimmed_lower`, `trimmed_of_lower` : lowering puts no blanks at the ends of a text and takes none
  away from there.
-/

namespace TriggerScript.Text

/-! ### Single characters -/

theorem lowerChar_of_basic {c : Char} (h : c.toNat < 128) : lowerChar c = [c.toLower] :=
  if_pos h

/-- The code points from 128 on that are blank. -/
def lateBlanks : List Nat :=
  [0x85, 0xA0, 0x1680, 0x2000, 0x2001, 0x2002, 0x2003, 0x2004, 0x2005, 0x2006, 0x2007, 0x2008,
    0x2009, 0x200A, 0x2028, 0x2029, 0x202F, 0x205F, 0x3000]

theorem mem_lateBlanks_iff {c : Char} (h : 128 ≤ c.toNat) :
    isBlank c = true ↔ c.toNat ∈ lateBlanks := by
  simp only [isBlank, lateBlanks, Bool.or_eq_true, Bool.and_eq_true, decide_eq_true_eq,
    beq_iff_eq, List.mem_cons, List.not_mem_nil, or_false]
  omega

/-- Where a run of the table of lowercases leads: within the basic alphabet, to the `k` of the
Kelvin sign, or to characters that are neither basic nor blank. -/
theorem lowerRuns_targets : ∀ r ∈ lowerRuns, r.last < 128 ∨ (r.first = r.last ∧ r.target = 107) ∨
    (128 ≤ r.target ∧ (r.target + (r.last - r.first) < 0xD800 ∨
        0xDFFF < r.target ∧ r.target + (r.last - r.first) < 0x110000) ∧
      ∀ b ∈ lateBlanks, r.target + (r.last - r.first) < b ∨ b < r.target) := by
  decide +kernel

theorem runTarget_lowerRuns {n m : Nat} (hn : 128 ≤ n) (h : runTarget lowerRuns n = some m) :
    m = 107 ∨ (128 ≤ m ∧ m.isValidChar ∧ m ∉ lateBlanks) := by
  obtain ⟨r, hfind, rfl⟩ := Option.map_eq_some_iff.1 h
  have hcovers := List.find?_some hfind
  simp only [CaseRun.covers, Bool.and_eq_true, decide_eq_true_eq, beq_iff_eq] at hcovers
  rw [CaseRun.apply]
  rcases lowerRuns_targets r (List.mem_of_find?_eq_some hfind) with
    hbasic | ⟨hone, hk⟩ | ⟨hlow, hvalid, hblank⟩
  · omega
  · left
    omega
  · refine .inr ⟨by omega, ?_, fun hmem => ?_⟩
    · unfold Nat.isValidChar
      omega
    · have := hblank _ hmem
      omega

/-- What the lowercase of a character outside the basic alphabet is made of. -/
theorem mem_lowerChar_of_late {c x : Char} (hc : 128 ≤ c.toNat) (hx : x ∈ lowerChar c) :
    x = 'i' ∨ x = 'k' ∨ x = c ∨ (128 ≤ x.toNat ∧ isBlank x = false) := by
  rw [lowerChar, if_neg (by omega)] at hx
  split at hx
  · rcases List.mem_pair.1 hx with rfl | rfl
    · exact .inl rfl
    · exact .inr (.inr (.inr (by decide)))
  split at hx
  · next m hm =>
    obtain rfl := List.mem_singleton.1 hx
    rcases runTarget_lowerRuns hc hm with rfl | ⟨hlow, hvalid, hblank⟩
    · exact .inr (.inl rfl)
    · have heq : (Char.ofNat m).toNat = m := by
        rw [Char.ofNat, dif_pos hvalid]
        rfl
      rw [← heq] at hlow hblank
      refine .inr (.inr (.inr ⟨hlow, ?_⟩))
      rwa [← Bool.not_eq_true, mem_lateBlanks_iff hlow]
  · exact .inr (.inr (.inl (List.mem_singleton.1 hx)))

/-- What a lowercase in the basic alphabet can stem from. -/
theorem stem_of_basic {c x : Char} (hx : x ∈ lowerChar c) (hbasic : x.toNat < 128) :
    (c.toNat < 128 ∧ x = c.toLower) ∨ x = 'i' ∨ x = 'k' := by
  by_cases hc : c.toNat < 128
  · rw [lowerChar_of_basic hc] at hx
    exact .inl ⟨hc, List.mem_singleton.1 hx⟩
  · rcases mem_lowerChar_of_late (Nat.le_of_not_lt hc) hx with rfl | rfl | rfl | ⟨h, -⟩
    · exact .inr (.inl rfl)
    · exact .inr (.inr rfl)
    · exact absurd hbasic hc
    · omega

/-- Within the basic alphabet, what has been lowered stays, and only letters change. -/
theorem toLower_basic : ∀ n < 128,
    (Char.ofNat n).toLower.toLower = (Char.ofNat n).toLower ∧
      ((Char.ofNat n).toLower = Char.ofNat n ∨
        (Char.ofNat n).isAlpha = true ∧ (Char.ofNat n).toLower.isAlpha = true) := by
  decide +kernel

theorem toLower_toLower {c : Char} (hc : c.toNat < 128) : c.toLower.toLower = c.toLower := by
  have h := (toLower_basic c.toNat hc).1
  rwa [Char.ofNat_toNat] at h

theorem toLower_eq_or_isAlpha {c : Char} (hc : c.toNat < 128) :
    c.toLower = c ∨ c.isAlpha = true ∧ c.toLower.isAlpha = true := by
  have h := (toLower_basic c.toNat hc).2
  rwa [Char.ofNat_toNat] at h

/-- A sign of the basic alphabet that is no letter is the lowercase of itself only. -/
theorem eq_of_not_isAlpha_mem_lowerChar {c x : Char} (hx : x ∈ lowerChar c)
    (hbasic : x.toNat < 128) (halpha : x.isAlpha = false) : x = c := by
  rcases stem_of_basic hx hbasic with ⟨hc, rfl⟩ | rfl | rfl
  · rcases toLower_eq_or_isAlpha hc with h | ⟨-, h⟩
    · exact h
    · rw [h] at halpha
      cases halpha
  · exact absurd halpha (by decide)
  · exact absurd halpha (by decide)

theorem not_isAlpha_of_isBlank {c : Char} (h : isBlank c = true) : c.isAlpha = false := by
  simp only [isBlank, Bool.or_eq_true, Bool.and_eq_true, decide_eq_true_eq, beq_iff_eq] at h
  rw [Bool.eq_false_iff]
  intro halpha
  have hcode : c.val.toNat = c.toNat := rfl
  simp [Char.isAlpha, Char.isUpper, Char.isLower, UInt32.le_iff_toNat_le] at halpha
  omega

/-- A blank is the lowercase of itself only. -/
theorem eq_of_isBlank_mem_lowerChar {c x : Char} (hx : x ∈ lowerChar c) (hblank : isBlank x = true) :
    x = c := by
  by_cases hbasic : x.toNat < 128
  · exact eq_of_not_isAlpha_mem_lowerChar hx hbasic (not_isAlpha_of_isBlank hblank)
  by_cases hc : c.toNat < 128
  · rw [lowerChar_of_basic hc, List.mem_singleton] at hx
    subst hx
    rcases toLower_eq_or_isAlpha hc with h | ⟨-, h⟩
    · exact h
    · rw [not_isAlpha_of_isBlank hblank] at h
      cases h
  · rcases mem_lowerChar_of_late (Nat.le_of_not_lt hc) hx with rfl | rfl | rfl | ⟨-, h⟩
    · exact absurd hblank (by decide)
    · exact absurd hblank (by decide)
    · rfl
    · rw [h] at hblank
      cases hblank

/-- Capital letters of the basic alphabet are no lowercase. -/
theorem not_capital_of_mem_lowerChar {c x : Char} (hx : x ∈ lowerChar c) (hbasic : x.toNat < 128) :
    x.toLower = x := by
  rcases stem_of_basic hx hbasic with ⟨hc, rfl⟩ | rfl | rfl
  · exact toLower_toLower hc
  · decide
  · decide

/-- Whether a run leads to no character of another run: what it leads to lies before or behind the
other run, or falls between the characters of one in which capital and small letters take turns. -/
def clearOf (r q : CaseRun) : Bool :=
  (r.target + (r.last - r.first)).blt q.first || q.last.blt r.target ||
    (q.step.beq 2 && (r.step.beq 2 || r.first.beq r.last) && ((r.target + q.first) % 2).beq 1)

/-- No run of the table of lowercases leads to a character that has another lowercase, nor does what
the dotted I becomes have one. -/
theorem lowerRuns_clear : (⟨0x307, 0x307, 1, 0x307⟩ :: lowerRuns).all (fun r =>
    (⟨0x130, 0x130, 1, 0x69⟩ :: lowerRuns).all (clearOf r)) = true := by
  decide +kernel

theorem not_covers_apply {r q : CaseRun} {n : Nat} (hn : r.covers n = true)
    (h : clearOf r q = true) : q.covers (r.apply n) = false := by
  simp only [CaseRun.covers, Bool.and_eq_true, decide_eq_true_eq, beq_iff_eq] at hn
  simp only [clearOf, Bool.or_eq_true, Bool.and_eq_true, Nat.blt_eq, Nat.beq_eq] at h
  rw [Bool.eq_false_iff, CaseRun.apply]
  intro hcovers
  simp only [CaseRun.covers, Bool.and_eq_true, decide_eq_true_eq, beq_iff_eq] at hcovers
  obtain ⟨⟨hfirst, hlast⟩, hstep⟩ := hcovers
  rcases h with (h | h) | ⟨⟨hq, hr | hr⟩, hparity⟩
  · omega
  · omega
  · rw [hq] at hstep
    rw [hr] at hn
    omega
  · rw [hq] at hstep
    omega

/-- A character that no run holds, nor is the dotted I, is its own lowercase. -/
theorem lowerChar_of_not_covers {c : Char} (hc : 128 ≤ c.toNat)
    (h : ∀ q ∈ ⟨0x130, 0x130, 1, 0x69⟩ :: lowerRuns, q.covers c.toNat = false) :
    lowerChar c = [c] := by
  obtain ⟨hdotted, hruns⟩ := List.forall_mem_cons.1 h
  have hne : (c == 'İ') = false := by
    rw [beq_eq_false_iff_ne]
    rintro rfl
    exact absurd hdotted (by decide)
  have hnone : runTarget lowerRuns c.toNat = none := by
    rw [runTarget, Option.map_eq_none_iff, List.find?_eq_none]
    exact fun q hq => by simp [hruns q hq]
  rw [lowerChar, if_neg (by omega), hne, hnone]
  rfl

/-- **What has been lowered stays as it is.** -/
theorem lowerChar_of_mem_lowerChar {c d : Char} (hd : d ∈ lowerChar c) : lowerChar d = [d] := by
  by_cases hbasic : d.toNat < 128
  · rw [lowerChar_of_basic hbasic, not_capital_of_mem_lowerChar hd hbasic]
  have hlate := Nat.le_of_not_lt hbasic
  have hclear := fun r hr => List.all_eq_true.1 (List.all_eq_true.1 lowerRuns_clear r hr)
  unfold lowerChar at hd
  split at hd
  · next hc =>
    obtain rfl := List.mem_singleton.1 hd
    rcases toLower_eq_or_isAlpha hc with h | ⟨-, h⟩
    · exact absurd (h.symm ▸ hc) hbasic
    · simp [Char.isAlpha, Char.isUpper, Char.isLower, UInt32.le_iff_toNat_le] at h
      have hcode : c.toLower.val.toNat = c.toLower.toNat := rfl
      omega
  split at hd
  · rcases List.mem_pair.1 hd with rfl | rfl
    · exact absurd (by decide) hbasic
    · refine lowerChar_of_not_covers hlate fun q hq => ?_
      exact not_covers_apply (r := ⟨0x307, 0x307, 1, 0x307⟩) (n := 0x307) (by decide)
        (hclear _ List.mem_cons_self q hq)
  split at hd
  · next m hm =>
    obtain rfl := List.mem_singleton.1 hd
    obtain ⟨r, hfind, rfl⟩ := Option.map_eq_some_iff.1 hm
    have hvalid : (r.apply c.toNat).isValidChar := by
      by_contra h
      rw [Char.ofNat, dif_neg h] at hbasic
      exact hbasic (by decide)
    have hcode : (Char.ofNat (r.apply c.toNat)).toNat = r.apply c.toNat := by
      rw [Char.ofNat, dif_pos hvalid]
      rfl
    have hcovers : r.covers c.toNat = true := by simpa using List.find?_some hfind
    refine lowerChar_of_not_covers hlate fun q hq => ?_
    rw [hcode]
    exact not_covers_apply hcovers
      (hclear r (List.mem_cons_of_mem _ (List.mem_of_find?_eq_some hfind)) q hq)
  · next hc hdotted m hnone =>
    obtain rfl := List.mem_singleton.1 hd
    rw [lowerChar, if_neg hc, if_neg hdotted, hnone]

theorem lowerChar_ne_nil (c : Char) : lowerChar c ≠ [] := by
  unfold lowerChar
  repeat' split
  all_goals simp

/-! ### Texts -/

/-- A character that is its own lowercase wherever it stands. -/
def Settled (c : Char) : Prop :=
  c ≠ 'Σ' ∧ lowerChar c = [c]

theorem settled_of_basic {c : Char} (hc : c.toNat < 128) (hlower : c.toLower = c) : Settled c := by
  refine ⟨?_, by rw [lowerChar_of_basic hc, hlower]⟩
  rintro rfl
  exact absurd hc (by decide)

theorem settled_of_isBlank {c : Char} (h : isBlank c = true) : Settled c := by
  by_cases hc : c.toNat < 128
  · refine settled_of_basic hc ((toLower_eq_or_isAlpha hc).resolve_right fun halpha => ?_)
    rw [not_isAlpha_of_isBlank h] at halpha
    cases halpha.1
  · have hmem := (mem_lateBlanks_iff (Nat.le_of_not_lt hc)).1 h
    have hall : ∀ n ∈ lateBlanks, Char.ofNat n ≠ 'Σ' ∧ lowerChar (Char.ofNat n) = [Char.ofNat n] := by
      decide +kernel
    have := hall _ hmem
    rwa [Char.ofNat_toNat] at this

theorem lowerAfter_append_of_settled {before cs : List Char} (h : ∀ c ∈ cs, Settled c)
    (rest : List Char) :
    lowerAfter before (cs ++ rest) = cs ++ lowerAfter (cs.reverse ++ before) rest := by
  induction cs generalizing before with
  | nil => rfl
  | cons c cs ih =>
    obtain ⟨⟨hsigma, hown⟩, hrest⟩ := List.forall_mem_cons.1 h
    rw [List.cons_append, lowerAfter, if_neg (by simpa using hsigma), hown, ih hrest]
    simp

/-- A text whose characters are their own lowercase. -/
theorem lower_of_settled {cs : List Char} (h : ∀ c ∈ cs, Settled c) : lower cs = cs := by
  have hall : lowerAfter [] (cs ++ []) = cs ++ [] := lowerAfter_append_of_settled h []
  rwa [List.append_nil] at hall

/-- What one character becomes within a text. -/
theorem lowerAfter_cons (before : List Char) (c : Char) (cs : List Char) :
    ∃ made, made ≠ [] ∧ lowerAfter before (c :: cs) = made ++ lowerAfter (c :: before) cs ∧
      (made = lowerChar c ∨ (c = 'Σ' ∧ ∃ x, made = [x] ∧ 128 ≤ x.toNat ∧ isBlank x = false)) := by
  rw [lowerAfter]
  split
  · next hsigma =>
    refine ⟨_, List.cons_ne_nil _ [], rfl, .inr ⟨by simpa using hsigma, _, rfl, ?_⟩⟩
    split <;> decide
  · exact ⟨_, lowerChar_ne_nil c, rfl, .inl rfl⟩

/-- Each character of a lowered text stems from one of the text. -/
theorem exists_stem {before cs : List Char} {x : Char} (hx : x ∈ lowerAfter before cs) :
    ∃ c ∈ cs, x ∈ lowerChar c ∨ (128 ≤ x.toNat ∧ isBlank x = false) := by
  induction cs generalizing before with
  | nil => cases hx
  | cons c cs ih =>
    obtain ⟨made, -, heq, hmade⟩ := lowerAfter_cons before c cs
    rw [heq, List.mem_append] at hx
    rcases hx with hx | hx
    · refine ⟨c, List.mem_cons_self, ?_⟩
      rcases hmade with rfl | ⟨-, y, rfl, hy⟩
      · exact .inl hx
      · obtain rfl := List.mem_singleton.1 hx
        exact .inr hy
    · obtain ⟨c', hc', h⟩ := ih hx
      exact ⟨c', List.mem_cons_of_mem _ hc', h⟩

/-- A character that is settled, and no lowercase of another one, is kept by lowering. -/
theorem mem_lowerAfter_of_settled {before cs : List Char} {c : Char} (hc : c ∈ cs)
    (h : Settled c) : c ∈ lowerAfter before cs := by
  induction cs generalizing before with
  | nil => cases hc
  | cons d cs ih =>
    obtain ⟨made, -, heq, hmade⟩ := lowerAfter_cons before d cs
    rw [heq, List.mem_append]
    rcases List.mem_cons.1 hc with rfl | hc
    · left
      rcases hmade with rfl | ⟨hsigma, -⟩
      · rw [h.2]
        exact List.mem_singleton_self c
      · exact absurd hsigma h.1
    · exact .inr (ih hc)

theorem lowerAfter_concat (before cs : List Char) (c : Char) :
    ∃ first before' made, made ≠ [] ∧ lowerAfter before (cs ++ [c]) = first ++ made ∧
      lowerAfter before' [c] = made := by
  induction cs generalizing before with
  | nil =>
    obtain ⟨made, hne, heq, -⟩ := lowerAfter_cons before c []
    exact ⟨[], before, lowerAfter before [c], by simp [heq, hne], rfl, rfl⟩
  | cons d cs ih =>
    obtain ⟨made, -, heq, -⟩ := lowerAfter_cons before d (cs ++ [c])
    obtain ⟨first, before', last, hne, hlast, hmade⟩ := ih (d :: before)
    exact ⟨made ++ first, before', last, hne, by
      rw [List.cons_append, heq, hlast, List.append_assoc], hmade⟩

/-- What is not blank has no blank in its lowercase. -/
theorem not_isBlank_of_mem_lowerAfter {before : List Char} {c x : Char}
    (hc : isBlank c = false) (hx : x ∈ lowerAfter before [c]) : isBlank x = false := by
  obtain ⟨c', hc', hstem | ⟨-, hblank⟩⟩ := exists_stem hx
  · obtain rfl := List.mem_singleton.1 hc'
    by_contra hblank
    obtain rfl := eq_of_isBlank_mem_lowerChar hstem (by simpa using hblank)
    exact hblank hc
  · exact hblank

/-- Lowering puts no blanks at the ends of a text. -/
theorem trimmed_lower {cs : List Char} (h : Trimmed cs) : Trimmed (lower cs) where
  first := by
    intro x hx
    cases cs with
    | nil => cases hx
    | cons c cs =>
      obtain ⟨made, hne, heq, hmade⟩ := lowerAfter_cons [] c cs
      have hblank := h.first c rfl
      rw [lower, heq, List.head?_append_of_ne_nil _ hne] at hx
      have hmem := List.mem_of_mem_head? hx
      rcases hmade with rfl | ⟨-, y, rfl, -, hy⟩
      · by_contra hxblank
        obtain rfl := eq_of_isBlank_mem_lowerChar hmem (by simpa using hxblank)
        exact hxblank hblank
      · obtain rfl := List.mem_singleton.1 hmem
        exact hy
  last := by
    intro x hx
    rcases List.eq_nil_or_concat' cs with rfl | ⟨init, c, rfl⟩
    · cases hx
    · obtain ⟨first, before, made, hne, heq, hmade⟩ := lowerAfter_concat [] init c
      rw [lower, heq, List.getLast?_append_of_ne_nil _ hne] at hx
      have hmem := List.mem_of_getLast? hx
      rw [← hmade] at hmem
      exact not_isBlank_of_mem_lowerAfter (h.last c (by simp)) hmem

/-- Lowering takes no blanks away from the ends of a text. -/
theorem trimmed_of_lower {cs : List Char} (h : Trimmed (lower cs)) : Trimmed cs where
  first := by
    intro c hc
    rw [Bool.eq_false_iff]
    intro hblank
    obtain ⟨rest, rfl⟩ := List.head?_eq_some_iff.1 hc
    have hsettled : ∀ d ∈ [c], Settled d := List.forall_mem_singleton.2 (settled_of_isBlank hblank)
    have hlower : lower (c :: rest) = c :: lowerAfter [c] rest :=
      lowerAfter_append_of_settled hsettled rest
    have := h.first c (by rw [hlower]; rfl)
    rw [hblank] at this
    cases this
  last := by
    intro c hc
    rw [Bool.eq_false_iff]
    intro hblank
    obtain ⟨init, rfl⟩ := List.getLast?_eq_some_iff.1 hc
    obtain ⟨first, before, made, hne, hlower, hmade⟩ := lowerAfter_concat [] init c
    have hsettled : ∀ d ∈ [c], Settled d := List.forall_mem_singleton.2 (settled_of_isBlank hblank)
    have hown : lowerAfter before [c] = [c] := lowerAfter_append_of_settled hsettled []
    have := h.last c (by rw [lower, hlower, ← hmade, hown]; simp)
    rw [hblank] at this
    cases this

/-- Texts with the same lowercase have blanks at their ends or not together. -/
theorem trimmed_of_lowerString_eq {s t : String} (h : lowerString s = lowerString t)
    (ht : Trimmed t.toList) : Trimmed s.toList := by
  have hlower : lower s.toList = lower t.toList := String.ofList_injective h
  exact trimmed_of_lower (hlower ▸ trimmed_lower ht)

end TriggerScript.Text

import TriggerScript.Text.Cut
import Mathlib.Data.List.Basic
import Mathlib.Data.List.TakeWhile

/-!
# Texts without blanks around them

* `Trimmed` : neither the first nor the last character of a text is blank.
* `trim_of_trimmed`, `trimmed_trim` : trimming leaves such texts alone and yields nothing else.
* `exists_of_trim` : a text is what is left of it by trimming, between blanks.
-/

namespace TriggerScript.Text

theorem dropWhile_isBlank_of_first {cs : List Char} (h : ∀ c ∈ cs.head?, isBlank c = false) :
    cs.dropWhile isBlank = cs := by
  cases cs with
  | nil => rfl
  | cons c rest => exact List.dropWhile_cons_of_neg (by simp [h c rfl])

theorem takeWhile_isBlank_append {blanks cs : List Char} (hblanks : ∀ c ∈ blanks, isBlank c)
    (h : ∀ c ∈ cs.head?, isBlank c = false) : (blanks ++ cs).takeWhile isBlank = blanks := by
  rw [List.takeWhile_append_of_pos hblanks]
  cases cs with
  | nil => simp
  | cons c rest => simp [h c rfl]

theorem trimEnd_append_of_blank (cs : List Char) {blanks : List Char}
    (hblanks : ∀ c ∈ blanks, isBlank c) : trimEnd (cs ++ blanks) = trimEnd cs := by
  rw [trimEnd, List.reverse_append,
    List.dropWhile_append_of_pos fun c hc => hblanks c (List.mem_reverse.1 hc), trimEnd]

theorem trimEnd_of_last {cs : List Char} (h : ∀ c ∈ cs.getLast?, isBlank c = false) :
    trimEnd cs = cs := by
  rw [trimEnd, dropWhile_isBlank_of_first (by rwa [List.head?_reverse]), List.reverse_reverse]

theorem trimEnd_of_blank {cs : List Char} (h : ∀ c ∈ cs, isBlank c) : trimEnd cs = [] :=
  trimEnd_append_of_blank [] h

theorem trim_append_of_blank {blanks cs : List Char} (hblanks : ∀ c ∈ blanks, isBlank c)
    (hfirst : ∀ c ∈ cs.head?, isBlank c = false) (hlast : ∀ c ∈ cs.getLast?, isBlank c = false) :
    trim (blanks ++ cs) = cs := by
  rw [trim, trimStart, List.dropWhile_append_of_pos hblanks, dropWhile_isBlank_of_first hfirst,
    trimEnd_of_last hlast]

/-- No blank stands at either end. -/
structure Trimmed (cs : List Char) : Prop where
  first : ∀ c ∈ cs.head?, isBlank c = false
  last : ∀ c ∈ cs.getLast?, isBlank c = false

theorem trim_of_trimmed {cs : List Char} (h : Trimmed cs) : trim cs = cs := by
  rw [trim, trimStart, dropWhile_isBlank_of_first h.first, trimEnd_of_last h.last]

theorem trimString_of_trimmed {text : String} (h : Trimmed text.toList) : trimString text = text := by
  rw [trimString, trim_of_trimmed h, String.ofList_toList]

/-- Behind what trimming leaves of a text there are only blanks. -/
theorem trim_append (cs : List Char) :
    trim cs ++ ((trimStart cs).reverse.takeWhile isBlank).reverse = trimStart cs := by
  rw [trim, trimEnd, ← List.reverse_append, List.takeWhile_append_dropWhile, List.reverse_reverse]

/-- A text is what is left of it by trimming, between blanks. -/
theorem exists_of_trim (cs : List Char) :
    ∃ before after, (∀ c ∈ before, isBlank c = true) ∧ (∀ c ∈ after, isBlank c = true) ∧
      cs = before ++ trim cs ++ after := by
  refine ⟨cs.takeWhile isBlank, ((trimStart cs).reverse.takeWhile isBlank).reverse,
    fun c hc => List.mem_takeWhile_imp hc,
    fun c hc => List.mem_takeWhile_imp (List.mem_reverse.1 hc), ?_⟩
  rw [List.append_assoc, trim_append, trimStart, List.takeWhile_append_dropWhile]

theorem not_isBlank_of_head?_dropWhile {cs : List Char} {c : Char}
    (h : (cs.dropWhile isBlank).head? = some c) : isBlank c = false := by
  have := List.head?_dropWhile_not isBlank cs
  rw [h] at this
  simpa using this

theorem trimmed_trim (cs : List Char) : Trimmed (trim cs) where
  first := by
    intro c hc
    have hstart : (trimStart cs).head? = some c := by
      rw [← trim_append cs, List.head?_append, Option.mem_def.1 hc]
      rfl
    exact not_isBlank_of_head?_dropWhile hstart
  last := by
    intro c hc
    rw [trim, trimEnd, List.getLast?_reverse] at hc
    exact not_isBlank_of_head?_dropWhile hc

/-- What is not blank is not trimmed away. -/
theorem mem_trim_of_not_isBlank {cs : List Char} {c : Char} (hc : c ∈ cs)
    (hblank : isBlank c = false) : c ∈ trim cs := by
  obtain ⟨before, after, hbefore, hafter, heq⟩ := exists_of_trim cs
  rw [heq, List.mem_append, List.mem_append] at hc
  rcases hc with (hc | hc) | hc
  · rw [hbefore c hc] at hblank
    cases hblank
  · exact hc
  · rw [hafter c hc] at hblank
    cases hblank

theorem mem_of_mem_trim {cs : List Char} {c : Char} (h : c ∈ trim cs) : c ∈ cs := by
  obtain ⟨before, after, -, -, heq⟩ := exists_of_trim cs
  rw [heq]
  exact List.mem_append_left _ (List.mem_append_right _ h)

/-- Characters that are not blank are not trimmed away. -/
theorem filter_trim {p : Char → Bool} (hp : ∀ c, isBlank c = true → p c = false) (cs : List Char) :
    (trim cs).filter p = cs.filter p := by
  obtain ⟨before, after, hbefore, hafter, heq⟩ := exists_of_trim cs
  have hnone (blanks : List Char) (h : ∀ c ∈ blanks, isBlank c = true) : blanks.filter p = [] :=
    List.filter_eq_nil_iff.2 fun c hc => by simp [hp c (h c hc)]
  conv_rhs => rw [heq]
  rw [List.filter_append, List.filter_append, hnone _ hbefore, hnone _ hafter, List.nil_append,
    List.append_nil]

end TriggerScript.Text

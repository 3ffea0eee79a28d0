import TriggerScript.Proofs.Text.Listing
import TriggerScript.Proofs.Pattern.Spans

/-!
# Words that stand free

The words of a pattern between two slots tell where the first one ends. In a text in which none of
them stands outside of quotes and brackets, no slot can end before the text does.

* `Free` : a text in which none of some words stands outside of quotes and brackets.
* `Free.length_le` : nothing shorter stands in front of one of the words.
* `leads` : how expressions begin when they are written down.
* `mem_openings_of_sameLetter` : there no other word begins.
-/

namespace TriggerScript.Text

variable {words : List (List Char)} {word cs tail after : List Char}

/-! ### Words -/

/-- Whether a word stands at the front of a text, in any letter case and with a blank behind it. -/
def startsWord : List Char → List Char → Bool
  | [], cs => cs.head?.any isBlank
  | expected :: word, c :: cs => sameLetter c expected && startsWord word cs
  | _ :: _, [] => false

/-- Whether a text begins with blanks and one of some words, if it is followed by a blank. -/
def breaksWords (words : List (List Char)) (cs : List Char) : Bool :=
  cs.head?.any isBlank && words.any fun word => startsWord word (cs.dropWhile isBlank ++ [' '])

/-- None of some words stands in a text outside of quotes and brackets, and these are closed. -/
def Free (words : List (List Char)) (cs : List Char) : Prop :=
  unbroken (breaksWords words) (0, false) cs = true

instance (words : List (List Char)) (cs : List Char) : Decidable (Free words cs) :=
  inferInstanceAs (Decidable (_ = true))

theorem startsWord_append (h : List.Forall₂ (fun c expected => sameLetter c expected = true) cs word)
    (hafter : after.head?.any isBlank = true) : startsWord word (cs ++ after) = true := by
  induction h with
  | nil => exact hafter
  | cons hc _ ih => exact Bool.and_eq_true_iff.2 ⟨hc, ih⟩

/-- A blank is the same letter as no other character. -/
theorem eq_of_sameLetter_of_isBlank {c expected : Char} (h : sameLetter c expected = true)
    (hc : isBlank c = true) : c = expected := by
  rw [sameLetter, Bool.or_eq_true, beq_iff_eq, beq_iff_eq] at h
  rcases h with h | h
  · exact h
  · refine eq_of_isBlank_mem_lowerChar ?_ hc
    rw [← h, (settled_of_isBlank hc).2]
    exact List.mem_singleton_self c

/-- A word in a text that goes on with a blank behind its part `cs` stands in this part, if it
begins there. -/
theorem startsWord_of_append {tail : List Char} (hword : ∀ c ∈ word, isBlank c = false)
    (htail : tail.head?.any isBlank = true) (h : startsWord word (cs ++ tail) = true) :
    startsWord word (cs ++ [' ']) = true := by
  induction word generalizing cs with
  | nil =>
    cases cs with
    | nil => rfl
    | cons c cs => exact h
  | cons expected word ih =>
    obtain ⟨hexpected, hword⟩ := List.forall_mem_cons.1 hword
    cases cs with
    | nil =>
      cases tail with
      | nil => cases htail
      | cons c tail =>
        have hsame := (Bool.and_eq_true_iff.1 h).1
        have hblank : isBlank c = true := by simpa using htail
        rw [eq_of_sameLetter_of_isBlank hsame hblank, hexpected] at hblank
        cases hblank
    | cons c cs =>
      rw [List.cons_append, startsWord, Bool.and_eq_true] at h ⊢
      exact ⟨h.1, ih hword h.2⟩

/-- What is unbroken is unbroken behind any part that is closed. -/
theorem unbroken_of_append {breaks : List Char → Bool} {state state' : Nat × Bool}
    {xs ys : List Char} (h : unbroken breaks state (xs ++ ys) = true)
    (hscan : scan state xs = some state') : unbroken breaks state' ys = true := by
  induction xs generalizing state with
  | nil =>
    cases hscan
    exact h
  | cons c xs ih =>
    obtain ⟨-, next, hnext, hrest⟩ := unbroken_cons_iff.1 h
    rw [scan, hnext] at hscan
    exact ih hrest hscan

namespace Free

/-- **Nothing shorter stands in front of one of the words.** If a text is free of them and a blank
follows it, then whatever balanced text has blanks and one of the words behind it is as long. -/
theorem length_le {part blanks found : List Char} (h : Free words cs) (htrimmed : Trimmed cs)
    (htail : tail.head?.any isBlank = true) (hpart : Balanced part)
    (hsplit : cs ++ tail = part ++ (blanks ++ (found ++ after))) (hne : blanks ≠ [])
    (hblanks : ∀ c ∈ blanks, isBlank c = true) (hmem : word ∈ words) (hword : word ≠ [])
    (hplain : ∀ c ∈ word, isBlank c = false)
    (hfound : List.Forall₂ (fun c expected => sameLetter c expected = true) found word)
    (hafter : after.head?.any isBlank = true) : cs.length ≤ part.length := by
  by_contra hshort
  obtain ⟨rest, rfl⟩ : ∃ rest, cs = part ++ rest :=
    (List.prefix_of_prefix_length_le (List.prefix_append _ _) (hsplit ▸ List.prefix_append _ _)
      (by omega : part.length ≤ cs.length)).imp fun _ h => h.symm
  have hrest : rest ≠ [] := by
    rintro rfl
    simp at hshort
  rw [List.append_assoc, List.append_cancel_left_eq] at hsplit
  have hfree := unbroken_of_append h hpart
  obtain ⟨c, rest', rfl⟩ := List.exists_cons_of_ne_nil hrest
  have hbreaks := (unbroken_cons_iff.1 hfree).1 rfl
  obtain ⟨d, hd, hlast⟩ : ∃ d ∈ c :: rest', isBlank d = false :=
    ⟨_, List.getLast_mem hrest, htrimmed.last _
      (by rw [List.getLast?_append_of_ne_nil _ hrest, List.getLast?_eq_getLast_of_ne_nil hrest]; rfl)⟩
  -- The blanks and the word behind them stand in the rest already.
  have hstart : startsWord word ((c :: rest').dropWhile isBlank ++ tail) = true := by
    have hdrop : ((c :: rest') ++ tail).dropWhile isBlank =
        (c :: rest').dropWhile isBlank ++ tail := by
      rw [List.dropWhile_append, if_neg]
      rw [Bool.not_eq_true, List.isEmpty_eq_false_iff, ne_eq, List.dropWhile_eq_nil_iff]
      intro hall
      rw [hall d hd] at hlast
      cases hlast
    obtain ⟨first, found', hcons⟩ : ∃ first found', found = first :: found' := by
      cases hfound with
      | nil => exact absurd rfl hword
      | cons => exact ⟨_, _, rfl⟩
    have hfirst : isBlank first = false := by
      rw [Bool.eq_false_iff]
      intro hblank
      rw [hcons] at hfound
      cases hfound with
      | cons hsame _ =>
        have heq := eq_of_sameLetter_of_isBlank hsame hblank
        rw [heq, hplain _ List.mem_cons_self] at hblank
        cases hblank
    rw [← hdrop, hsplit, List.dropWhile_append_of_pos hblanks, hcons, List.cons_append,
      List.dropWhile_cons_of_neg (by simp [hfirst]), ← List.cons_append, ← hcons]
    exact startsWord_append hfound hafter
  have hhead : (c :: rest').head?.any isBlank = true := by
    obtain ⟨b, blanks, rfl⟩ := List.exists_cons_of_ne_nil hne
    rw [List.cons_append, List.cons_append, List.cons.injEq] at hsplit
    simpa [hsplit.1] using hblanks b List.mem_cons_self
  rw [breaksWords, hhead, Bool.true_and, List.any_eq_false] at hbreaks
  exact hbreaks word hmem (startsWord_of_append hplain htail hstart)

/-- One more character in front that opens nothing. -/
theorem cons {c : Char} (h : Free words cs) (hc : scanChar (0, false) c = some (0, false))
    (hbreaks : breaksWords words (c :: cs) = false) : Free words (c :: cs) :=
  unbroken_cons_iff.2 ⟨fun _ => hbreaks, _, hc, h⟩

/-- **Where a text can be cut at one of the words.** If neither of two texts with a blank between
them has one of the words in it, then it can be cut at this blank only. -/
theorem eq_of_split {rest part blanks found : List Char} (h : Free words cs) (htrimmed : Trimmed cs)
    (hrest : Free words rest) (hlast : Trimmed rest) (hpart : Balanced part)
    (hsplit : cs ++ ' ' :: rest = part ++ (blanks ++ (found ++ after))) (hne : blanks ≠ [])
    (hblanks : ∀ c ∈ blanks, isBlank c = true) (hmem : word ∈ words) (hword : word ≠ [])
    (hplain : ∀ c ∈ word, isBlank c = false)
    (hfound : List.Forall₂ (fun c expected => sameLetter c expected = true) found word)
    (hafter : after.head?.any isBlank = true) : part = cs := by
  have hlong := h.length_le htrimmed rfl hpart hsplit hne hblanks hmem hword hplain hfound hafter
  obtain ⟨more, rfl⟩ : ∃ more, part = cs ++ more :=
    (List.prefix_of_prefix_length_le (List.prefix_append cs (' ' :: rest))
      (hsplit.symm ▸ List.prefix_append _ _) hlong).imp fun _ h => h.symm
  rw [List.append_assoc, List.append_cancel_left_eq] at hsplit
  cases more with
  | nil => exact List.append_nil cs
  | cons c more =>
    rw [List.cons_append, List.cons.injEq] at hsplit
    obtain ⟨rfl, hsplit⟩ := hsplit
    exfalso
    -- What goes on behind the blank would be cut at one of the words again.
    have hmore : Balanced more := by
      rw [Balanced, scan_append, scan_of_unbroken h] at hpart
      exact hpart
    have hagain : rest ++ [' '] = more ++ (blanks ++ (found ++ (after ++ [' ']))) := by
      rw [hsplit]
      simp only [List.append_assoc]
    have hshort := hrest.length_le hlast rfl hmore hagain hne hblanks hmem hword hplain hfound
      (by rw [List.head?_append]; cases hhead : after.head? <;> simp_all)
    have hlength := congrArg List.length hsplit
    have hpos := List.length_pos_iff.2 hne
    simp only [List.length_append] at hlength
    omega

end Free

/-! ### Beginnings -/

/-- How the words begin with which an expression can begin that is written down. -/
def openings : List (Char × Char) := [('l', 'o'), ('e', 'v'), ('n', 'u'), ('t', 'r'), ('f', 'a')]

/-- Whether a text begins as an expression that is written down. -/
def leads : List Char → Bool
  | [] => false
  | c :: rest => c == '{' || c == '"' || c == '-' || c.isDigit ||
      rest.head?.any fun d => openings.contains (c, d)

theorem leads_append (h : leads cs = true) : leads (cs ++ tail) = true := by
  cases cs with
  | nil => cases h
  | cons c cs =>
    cases cs with
    | nil =>
      simp only [leads, List.head?_nil, Option.any_none, Bool.or_false] at h
      simp [leads, h]
    | cons d cs => exact h

/-- Such a text begins with a character that has no other case. -/
theorem toLower_of_leads {c : Char} (h : leads (c :: cs) = true) :
    c.toNat < 128 ∧ c.toLower = c ∧ isBlank c = false ∧ c ≠ '(' ∧ c ≠ 'a' ∧ c ≠ 'o' := by
  simp only [leads, Bool.or_eq_true, beq_iff_eq, Option.any_eq_true, List.contains_iff_mem,
    openings, List.mem_cons, Prod.mk.injEq, List.not_mem_nil, or_false] at h
  have hdigits : ∀ n < 128, (Char.ofNat n).isDigit = true → (Char.ofNat n).toLower = Char.ofNat n ∧
      isBlank (Char.ofNat n) = false ∧ Char.ofNat n ≠ '(' ∧ Char.ofNat n ≠ 'a' ∧
      Char.ofNat n ≠ 'o' := by
    decide +kernel
  rcases h with (((rfl | rfl) | rfl) | hdigit) | ⟨d, -, h⟩
  · decide
  · decide
  · decide
  · have hsmall : c.toNat < 128 := by
      simp only [Char.isDigit, Bool.and_eq_true, decide_eq_true_eq, UInt32.le_iff_toNat_le] at hdigit
      have := hdigit.2
      simp only [Char.toNat] at this ⊢
      exact lt_of_le_of_lt this (by decide)
    have := hdigits c.toNat hsmall
    rw [Char.ofNat_toNat] at this
    exact ⟨hsmall, this hdigit⟩
  · rcases h with ⟨rfl, -⟩ | ⟨rfl, -⟩ | ⟨rfl, -⟩ | ⟨rfl, -⟩ | ⟨rfl, -⟩ <;> decide

theorem ne_nil_of_leads (h : leads cs = true) : cs ≠ [] := by
  rintro rfl
  cases h

theorem not_isBlank_of_leads (h : leads cs = true) : ∀ c ∈ cs.head?, isBlank c = false := by
  cases cs with
  | nil => cases h
  | cons d cs =>
    rintro c ⟨⟩
    exact (toLower_of_leads h).2.2.1

/-- A letter that only has its own case is the same letter as itself only, and as its capital. -/
theorem eq_of_sameLetter {c expected : Char} (h : sameLetter c expected = true)
    (hc : c.toNat < 128 ∧ c.toLower = c) (hexpected : expected.toNat < 128 ∧ expected.toLower = expected) :
    c = expected := by
  rw [sameLetter, Bool.or_eq_true, beq_iff_eq, beq_iff_eq, lowerChar_of_basic hc.1,
    lowerChar_of_basic hexpected.1, hc.2, hexpected.2] at h
  simpa using h

theorem basic_of_isLower {c : Char} (h : c.isLower = true) :
    c.toNat < 128 ∧ c.toLower = c ∧ c.isDigit = false := by
  have hlower : ∀ n < 128, (Char.ofNat n).isLower = true →
      (Char.ofNat n).toLower = Char.ofNat n ∧ (Char.ofNat n).isDigit = false := by
    decide +kernel
  have hsmall : c.toNat < 128 := by
    simp only [Char.isLower, Bool.and_eq_true, decide_eq_true_eq, UInt32.le_iff_toNat_le] at h
    exact lt_of_le_of_lt h.2 (by decide)
  have := hlower c.toNat hsmall
  rw [Char.ofNat_toNat] at this
  exact ⟨hsmall, this h⟩

/-- **Where an expression begins no other word does.** -/
theorem mem_openings_of_sameLetter {c d first second : Char} (h : leads (c :: d :: cs) = true)
    (hc : sameLetter c first = true) (hd : sameLetter d second = true)
    (hfirst : first.isLower = true) (hsecond : second.toNat < 128 ∧ second.toLower = second) :
    (first, second) ∈ openings := by
  obtain ⟨hsmall, hlower, hdigit⟩ := basic_of_isLower hfirst
  obtain rfl := eq_of_sameLetter hc ⟨(toLower_of_leads h).1, (toLower_of_leads h).2.1⟩
    ⟨hsmall, hlower⟩
  have hmem : (c, d) ∈ openings := by
    simp only [leads, hdigit, Bool.or_false, Bool.or_eq_true, beq_iff_eq, List.head?_cons,
      Option.any_some, List.contains_iff_mem] at h
    rcases h with ((rfl | rfl) | rfl) | h
    · exact absurd hfirst (by decide)
    · exact absurd hfirst (by decide)
    · exact absurd hfirst (by decide)
    · exact h
  have hplain : ∀ p ∈ openings, p.2.toNat < 128 ∧ p.2.toLower = p.2 := by decide
  obtain rfl := eq_of_sameLetter hd (hplain _ hmem) hsecond
  exact hmem

theorem mem_openings_of_startsWord {first second : Char} (h : leads cs = true)
    (hfirst : first.isLower = true) (hsecond : second.toNat < 128 ∧ second.toLower = second)
    (hstarts : startsWord (first :: second :: word) (cs ++ [' ']) = true) :
    (first, second) ∈ openings := by
  have hleads : leads (cs ++ [' ']) = true := leads_append h
  generalize cs ++ [' '] = text at hleads hstarts
  match text with
  | [] => cases hstarts
  | [c] => simp [startsWord] at hstarts
  | c :: d :: rest =>
    simp only [startsWord, Bool.and_eq_true] at hstarts
    exact mem_openings_of_sameLetter hleads hstarts.1 hstarts.2.1 hfirst hsecond

end TriggerScript.Text

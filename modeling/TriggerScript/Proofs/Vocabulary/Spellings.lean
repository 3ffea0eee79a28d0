import TriggerScript.Proofs.Parsing.Quotes
import TriggerScript.Proofs.Text.Words

/-!
# What the built-in patterns take

Which texts the patterns of the built-in expressions match, and what their slots and regular
expressions take of them.

* `Neutral` : words that are told by their letters only.
* `exists_of_complete_withArticle'` : an article at the front, which expressions that are written
  down do not have.
* `exists_of_mem_splits_variable`, `exists_of_mem_splits_named`, `exists_of_mem_splits_bare`,
  `exists_of_mem_splits_range` : what the splits of the patterns take of a text.
* `head?_splits_named`, `head?_splits_range` : the first splits of what is written down.
-/

namespace TriggerScript

open Text Pattern

variable {p : Pattern} {before : Option Char} {after text cs : List Char} {way : Way}
  {ways : List Way} {element : Element} {elements : List Element}

namespace Pattern

/-! ### Ways to match -/

theorem allFit_cons_iff : AllFit p before (element :: elements) ways after ↔
    ∃ way rest, ways = way :: rest ∧ Fits p before element way (waysText rest ++ after) ∧
      AllFit p (way.text.getLast?.or before) elements rest after := by
  constructor
  · intro h
    cases h with
    | cons hfit hrest => exact ⟨_, _, rfl, hfit, hrest⟩
  · rintro ⟨way, rest, rfl, hfit, hrest⟩
    exact .cons hfit hrest

theorem allFit_nil_iff : AllFit p before [] ways after ↔ ways = [] := by
  constructor
  · intro h
    cases h
    rfl
  · rintro rfl
    exact .nil

theorem fits_literal_iff : Fits p before (.literal cs) way after ↔ ∃ text, way = .literal text ∧
    List.Forall₂ (fun c expected => sameLetter c expected = true) text cs := by
  constructor
  · intro h
    cases h with
    | literal h => exact ⟨_, rfl, h⟩
  · rintro ⟨text, rfl, h⟩
    exact .literal h

theorem fits_space_iff : Fits p before .space way after ↔
    ∃ text, way = .space text ∧ TakesBlanks before text after := by
  constructor
  · intro h
    cases h with
    | space h => exact ⟨_, rfl, h⟩
  · rintro ⟨text, rfl, h⟩
    exact .space h

theorem fits_slot_iff {i : Nat} : Fits p before (.slot i) way after ↔
    ∃ text, way = .slot i text ∧ Admissible text := by
  constructor
  · intro h
    cases h with
    | slot h => exact ⟨_, rfl, h⟩
  · rintro ⟨text, rfl, h⟩
    exact .slot h

theorem fits_regex_iff {i : Nat} {r : Regex} (hr : p.regexes[i]? = some r) :
    Fits p before (.regex i) way after ↔
      ∃ text, way = .regex i text ∧ text ≠ [] ∧ r.accepts text = true := by
  constructor
  · intro h
    cases h with
    | regex hr' hne h =>
      cases hr.symm.trans hr'
      exact ⟨_, rfl, hne, h⟩
  · rintro ⟨text, rfl, hne, h⟩
    exact .regex hr hne h

/-- A group that has to be there is one of its alternatives. -/
theorem fits_group_iff {alternatives : List Alternative} :
    Fits p before (.group alternatives false) way after ↔ ∃ number mark elements ways,
      way = .taken number mark ways ∧ alternatives[number]? = some (.mk mark elements) ∧
        AllFit p before elements ways after := by
  constructor
  · intro h
    cases h with
    | taken hnumber h => exact ⟨_, _, _, _, rfl, hnumber, h⟩
  · rintro ⟨number, mark, elements, ways, rfl, hnumber, h⟩
    exact .taken hnumber h

/-- A part that may be left out is there or not. -/
theorem fits_optional_iff {alternatives : List Alternative} :
    Fits p before (.group alternatives true) way after ↔
      Fits p before (.group alternatives false) way after ∨ way = .skipped := by
  constructor
  · intro h
    cases h with
    | taken hnumber h => exact .inl (.taken hnumber h)
    | skipped => exact .inr rfl
  · rintro (h | rfl)
    · cases h with
      | taken hnumber h => exact .taken hnumber h
    · exact .skipped

/-- The first way to match a text is the one that no other one comes before. -/
theorem head?_splits (h : p.Complete text ways)
    (hfirst : ∀ ways', p.Complete text ways' → ¬ WaysPrecede p ways' ways) :
    (p.splits text).head? = some (recordAll 0 p.blankSplit ways) := by
  have hmem := mem_completeWays_iff.2 h
  have hpairwise : (p.completeWays text).Pairwise (WaysPrecede p) := pairwise_completeWays
  rw [splits_eq_map, List.head?_map]
  cases hways : p.completeWays text with
  | nil =>
    rw [hways] at hmem
    cases hmem
  | cons head rest =>
    rw [hways] at hmem hpairwise
    rcases List.mem_cons.1 hmem with rfl | hmem
    · rfl
    · have hhead : head ∈ p.completeWays text := hways ▸ List.mem_cons_self
      exact absurd ((List.pairwise_cons.1 hpairwise).1 _ hmem)
        (hfirst head (mem_completeWays_iff.1 hhead))

end Pattern

/-! ### Words -/

/-- A character that has no other case, no braces and no percent signs. -/
def isNeutral (c : Char) : Bool :=
  c.toNat < 128 && c.toLower == c && !isMark c && !isBlank c

/-- A word that is told by its letters only. -/
def Neutral (cs : List Char) : Prop := cs.all isNeutral = true

instance (cs : List Char) : Decidable (Neutral cs) :=
  inferInstanceAs (Decidable (_ = true))

theorem basic_of_isMark {c : Char} (h : isMark c = true) :
    c.toNat < 128 ∧ c.toLower = c ∧ isBlank c = false := by
  simp only [isMark, Bool.or_eq_true, beq_iff_eq] at h
  rcases h with (rfl | rfl) | rfl <;> decide

theorem basic_of_isNeutral {c : Char} (h : isNeutral c = true) :
    c.toNat < 128 ∧ c.toLower = c := by
  simp only [isNeutral, Bool.and_eq_true, decide_eq_true_eq, beq_iff_eq] at h
  exact h.1.1

/-- Blanks have no marks. -/
theorem not_isMark_of_isBlank {c : Char} (h : isBlank c = true) : isMark c = false := by
  rw [Bool.eq_false_iff]
  intro hmark
  rw [(basic_of_isMark hmark).2.2] at h
  cases h

/-- What stands where a word is expected has no marks. -/
theorem not_isMark_of_forall₂ {word : List Char} (hword : Neutral word)
    (h : List.Forall₂ (fun c expected => sameLetter c expected = true) text word) :
    ∀ c ∈ text, isMark c = false := by
  induction h with
  | nil => simp
  | @cons c expected _ _ hc _ ih =>
    obtain ⟨hexpected, hword⟩ := Bool.and_eq_true_iff.1 hword
    refine List.forall_mem_cons.2 ⟨?_, ih hword⟩
    rw [Bool.eq_false_iff]
    intro hmark
    have hbasic := basic_of_isMark hmark
    obtain rfl := eq_of_sameLetter hc ⟨hbasic.1, hbasic.2.1⟩ (basic_of_isNeutral hexpected)
    simp [isNeutral, hmark] at hexpected

/-- What is no letter is the same letter as itself only. -/
theorem eq_of_forall₂_mark {expected : Char} (hbasic : expected.toNat < 128)
    (halpha : expected.isAlpha = false)
    (h : List.Forall₂ (fun c expected => sameLetter c expected = true) text [expected]) :
    text = [expected] := by
  obtain ⟨c, _, hc, hnil, rfl⟩ := List.forall₂_cons_right_iff.1 h
  obtain rfl := List.forall₂_nil_right_iff.1 hnil
  rw [sameLetter, Bool.or_eq_true, beq_iff_eq, beq_iff_eq] at hc
  rcases hc with rfl | hc
  · rfl
  · have hlower : expected.toLower = expected := by
      rcases toLower_eq_or_isAlpha hbasic with h | h
      · exact h
      · rw [h.1] at halpha
        cases halpha
    rw [lowerChar_of_basic hbasic, hlower] at hc
    rw [eq_of_not_isAlpha_mem_lowerChar (hc ▸ List.mem_singleton_self expected) hbasic halpha]

/-- What stands where a word is expected has no blanks. -/
theorem not_isBlank_of_forall₂ {word : List Char} (hword : Neutral word)
    (h : List.Forall₂ (fun c expected => sameLetter c expected = true) text word) :
    ∀ c ∈ text, isBlank c = false := by
  induction h with
  | nil => simp
  | @cons c expected _ _ hc _ ih =>
    obtain ⟨hexpected, hword⟩ := Bool.and_eq_true_iff.1 hword
    refine List.forall_mem_cons.2 ⟨?_, ih hword⟩
    rw [Bool.eq_false_iff]
    intro hblank
    obtain rfl := eq_of_sameLetter_of_isBlank hc hblank
    simp [isNeutral, hblank] at hexpected

theorem not_isBlank_of_neutral {word : List Char} (h : Neutral word) :
    ∀ c ∈ word, isBlank c = false := by
  intro c hc
  have := List.all_eq_true.1 h c hc
  simp only [isNeutral, Bool.and_eq_true, Bool.not_eq_true'] at this
  exact this.2

/-- Where an expression begins that is written down, the words of patterns do not begin. -/
theorem mem_openings_of_forall₂ {first second : Char} {word : List Char}
    (hleads : leads (text ++ after) = true) (hfirst : first.isLower = true)
    (hsecond : isNeutral second = true)
    (h : List.Forall₂ (fun c expected => sameLetter c expected = true) text
      (first :: second :: word)) : (first, second) ∈ openings := by
  cases h with
  | cons hc h =>
  cases h with
  | cons hd _ => exact mem_openings_of_sameLetter hleads hc hd hfirst (basic_of_isNeutral hsecond)

namespace Vocabulary

section Article

variable {source : String} {slots : List Slot} {regexes : List Regex}

/-- What an article and the blanks behind it take has no marks, and an expression that is written
down has no article. -/
theorem exists_of_complete_withArticle'
    (h : (withArticle source elements slots regexes).Complete text ways) :
    ∃ front before behind, AllFit (withArticle source elements slots regexes) before elements behind [] ∧
      text = front ++ waysText behind ∧ (∀ c ∈ front, isMark c = false) ∧
      (leads text = true → front = []) ∧
      ∀ split, recordAll 0 split ways = recordAll (byteSize front) split behind := by
  obtain ⟨hfit, htext⟩ := h
  obtain ⟨first, rest, rfl, hfirst, hfit⟩ := allFit_cons_iff.1 hfit
  obtain ⟨second, behind, rfl, hsecond, hfit⟩ := allFit_cons_iff.1 hfit
  obtain ⟨blanks, rfl, hblanks, -, -⟩ := fits_space_iff.1 hsecond
  have hunmarked : ∀ c ∈ blanks, isMark c = false := fun c hc => not_isMark_of_isBlank (hblanks c hc)
  rcases fits_optional_iff.1 hfirst with hfirst | rfl
  · obtain ⟨number, mark, elements, ways, rfl, hnumber, hinside⟩ := fits_group_iff.1 hfirst
    cases number with
    | succ number => cases hnumber
    | zero =>
    cases hnumber
    obtain ⟨_, _, rfl, hliteral, hnil⟩ := allFit_cons_iff.1 hinside
    obtain rfl := allFit_nil_iff.1 hnil
    obtain ⟨article, rfl, harticle⟩ := fits_literal_iff.1 hliteral
    refine ⟨article ++ blanks, _, behind, hfit, ?_, ?_, ?_, ?_⟩
    · simp [← htext, waysText, Way.text]
    · rw [List.forall_mem_append]
      exact ⟨not_isMark_of_forall₂ (by decide) harticle, hunmarked⟩
    · intro hleads
      have htext' : text = article ++ (blanks ++ waysText behind) := by
        simp [← htext, waysText, Way.text]
      rw [htext'] at hleads
      exact absurd (mem_openings_of_forall₂ hleads (by decide) (by decide) harticle) (by decide)
    · intro split
      simp [recordAll, Way.record, Way.text, waysText, byteSize_append]
  · refine ⟨blanks, _, behind, hfit, ?_, hunmarked, ?_, ?_⟩
    · simp [← htext, waysText, Way.text]
    · intro hleads
      have htext' : text = blanks ++ waysText behind := by simp [← htext, waysText, Way.text]
      cases blanks with
      | nil => rfl
      | cons c blanks =>
        have hc := hblanks c List.mem_cons_self
        rw [not_isBlank_of_leads hleads c (by simp [htext'])] at hc
        cases hc
    · intro split
      simp [recordAll, Way.record, Way.text, byteSize]

/-- What a regular expression takes behind a word. -/
theorem exists_of_mem_splits_named {word : List Char} (hword : Neutral word) {re : Regex}
    {split : Split}
    (h : split ∈ (withArticle source [.literal word, .regex 0] [] [re]).splits text) :
    ∃ front name, text = front ++ name ∧ (∀ c ∈ front, isMark c = false) ∧ name ≠ [] ∧
      re.accepts name = true ∧ split = ⟨0, [], [some name]⟩ ∧
      (leads text = true →
        List.Forall₂ (fun c expected => sameLetter c expected = true) front word) := by
  rw [splits_eq_map, List.mem_map] at h
  obtain ⟨ways, hways, rfl⟩ := h
  obtain ⟨front, before, behind, hfit, htext, hunmarked, hleads, hrecord⟩ :=
    exists_of_complete_withArticle' (mem_completeWays_iff.1 hways)
  obtain ⟨_, rest, rfl, hliteral, hfit⟩ := allFit_cons_iff.1 hfit
  obtain ⟨found, rfl, hfound⟩ := fits_literal_iff.1 hliteral
  obtain ⟨_, rest, rfl, hregex, hfit⟩ := allFit_cons_iff.1 hfit
  obtain rfl := allFit_nil_iff.1 hfit
  obtain ⟨name, rfl, hne, haccepts⟩ := (fits_regex_iff (r := re) rfl).1 hregex
  refine ⟨front ++ found, name, ?_, ?_, hne, haccepts, ?_, ?_⟩
  · simp [htext, waysText, Way.text]
  · rw [List.forall_mem_append]
    exact ⟨hunmarked, not_isMark_of_forall₂ hword hfound⟩
  · rw [hrecord]
    rfl
  · intro h
    rw [hleads h]
    exact hfound

/-- What bare words take. -/
theorem exists_of_mem_splits_bare {re : Regex} {split : Split}
    (h : split ∈ (withArticle source [.regex 0] [] [re]).splits text) :
    ∃ front name, text = front ++ name ∧ (∀ c ∈ front, isMark c = false) ∧ 
      split = ⟨0, [], [some name]⟩ ∧ (leads text = true → front = []) := by
  rw [splits_eq_map, List.mem_map] at h
  obtain ⟨ways, hways, rfl⟩ := h
  obtain ⟨front, before, behind, hfit, htext, hunmarked, hleads, hrecord⟩ :=
    exists_of_complete_withArticle' (mem_completeWays_iff.1 hways)
  obtain ⟨_, rest, rfl, hregex, hfit⟩ := allFit_cons_iff.1 hfit
  obtain rfl := allFit_nil_iff.1 hfit
  obtain ⟨name, rfl, -, -⟩ := (fits_regex_iff (r := re) rfl).1 hregex
  refine ⟨front, name, by simp [htext, waysText, Way.text], hunmarked, ?_, hleads⟩
  rw [hrecord]
  rfl

end Article

/-- What the name of a loop takes. -/
theorem exists_of_mem_splits_loop {split : Split} (h : split ∈ loopPattern.splits text) :
    ∃ front name, text = front ++ name ∧ (∀ c ∈ front, isMark c = false) ∧ name ≠ [] ∧
      anyText.accepts name = true ∧ split = ⟨0, [], [some name]⟩ ∧ (leads text = true →
        List.Forall₂ (fun c expected => sameLetter c expected = true) front
          ['l', 'o', 'o', 'p', '-']) :=
  exists_of_mem_splits_named (by decide) h

/-- What the name of a value of the event takes. -/
theorem exists_of_mem_splits_event {split : Split} (h : split ∈ eventPattern.splits text) :
    ∃ front name, text = front ++ name ∧ (∀ c ∈ front, isMark c = false) ∧ name ≠ [] ∧
      anyText.accepts name = true ∧ split = ⟨0, [], [some name]⟩ ∧ (leads text = true →
        List.Forall₂ (fun c expected => sameLetter c expected = true) front
          ['e', 'v', 'e', 'n', 't', '-']) :=
  exists_of_mem_splits_named (by decide) h

/-- What a variable takes. -/
theorem exists_of_mem_splits_variable {split : Split} (h : split ∈ variablePattern.splits text) :
    ∃ name, NameText name ∧ text = braced name ∧ split = ⟨0, [], [some name]⟩ := by
  rw [splits_eq_map, List.mem_map] at h
  obtain ⟨ways, hways, rfl⟩ := h
  obtain ⟨hfit, htext⟩ := mem_completeWays_iff.1 hways
  obtain ⟨_, rest, rfl, hopen, hfit⟩ := allFit_cons_iff.1 hfit
  obtain ⟨_, rest, rfl, hregex, hfit⟩ := allFit_cons_iff.1 hfit
  obtain ⟨_, rest, rfl, hclose, hfit⟩ := allFit_cons_iff.1 hfit
  obtain rfl := allFit_nil_iff.1 hfit
  obtain ⟨first, rfl, hfirst⟩ := fits_literal_iff.1 hopen
  obtain ⟨name, rfl, -, haccepts⟩ := (fits_regex_iff (r := anyText) rfl).1 hregex
  obtain ⟨last, rfl, hlast⟩ := fits_literal_iff.1 hclose
  -- Both literals take one character, and the name what is left.
  obtain rfl := eq_of_forall₂_mark (by decide) (by decide) hfirst
  obtain rfl := eq_of_forall₂_mark (by decide) (by decide) hlast
  exact ⟨name, accepts_anyText_iff.1 haccepts,
    by simp [← htext, waysText, Way.text, braced], rfl⟩

/-! ### Slots with words behind them -/

/-- Blanks that have to be there, up to what stands behind them. -/
structure Gap (blanks after : List Char) : Prop where
  ne_nil : blanks ≠ []
  blank : ∀ c ∈ blanks, isBlank c = true
  after : ∀ c ∈ after.head?, isBlank c = false

theorem gap_of_takesBlanks {blanks : List Char} (h : TakesBlanks before blanks after)
    (hbefore : ∃ c ∈ before, isBlank c = false) (hafter : after ≠ []) : Gap blanks after where
  ne_nil := by
    rintro rfl
    obtain ⟨c, hc, hblank⟩ := hbefore
    rcases h.2.2 rfl with h | h
    · exact hafter h
    · rw [h c hc] at hblank
      cases hblank
  blank := h.1
  after := h.2.1

/-- Where blanks end is determined. -/
theorem Gap.eq {xs ys rest rest' : List Char} (h : Gap xs rest) (h' : Gap ys rest')
    (heq : xs ++ rest = ys ++ rest') : xs = ys ∧ rest = rest' := by
  have htake := congrArg (List.takeWhile isBlank) heq
  rw [takeWhile_isBlank_eq h.blank h.after, takeWhile_isBlank_eq h'.blank h'.after] at htake
  subst htake
  exact ⟨rfl, List.append_cancel_left heq⟩

theorem Gap.head?_append {blanks : List Char} (h : Gap blanks after) (rest : List Char) :
    (blanks ++ rest).head?.any isBlank = true := by
  obtain ⟨c, blanks, rfl⟩ := List.exists_cons_of_ne_nil h.ne_nil
  exact h.blank c List.mem_cons_self

/-- One blank in front of something else. -/
theorem gap_blank (h : ∀ c ∈ after.head?, isBlank c = false) : Gap [' '] after :=
  ⟨by decide, by simp [isBlank], h⟩

/-- One of two words. -/
def IsEither (first second found : List Char) : Prop :=
  List.Forall₂ (fun c expected => sameLetter c expected = true) found first ∨
    List.Forall₂ (fun c expected => sameLetter c expected = true) found second

theorem exists_last_of_word {found word : List Char} (before : Option Char) (hword : Neutral word)
    (hne : word ≠ [])
    (h : List.Forall₂ (fun c expected => sameLetter c expected = true) found word) :
    found ≠ [] ∧ ∃ c ∈ found.getLast?.or before, isBlank c = false := by
  have hfound : found ≠ [] := by
    rintro rfl
    cases h
    exact hne rfl
  refine ⟨hfound, found.getLast hfound, ?_,
    not_isBlank_of_forall₂ hword h _ (List.getLast_mem hfound)⟩
  rw [List.getLast?_eq_getLast_of_ne_nil hfound]
  rfl

theorem fits_eitherWord {first second : List Char}
    (h : Fits p before (eitherWord first second) way after) :
    ∃ number found, way = .taken number 0 [.literal found] ∧ IsEither first second found := by
  obtain ⟨number, mark, elements, ways, rfl, hnumber, hinside⟩ := fits_group_iff.1 h
  match number, hnumber with
  | 0, hnumber =>
    cases hnumber
    obtain ⟨_, _, rfl, hliteral, hnil⟩ := allFit_cons_iff.1 hinside
    obtain rfl := allFit_nil_iff.1 hnil
    obtain ⟨found, rfl, hfound⟩ := fits_literal_iff.1 hliteral
    exact ⟨0, found, rfl, .inl hfound⟩
  | 1, hnumber =>
    cases hnumber
    obtain ⟨_, _, rfl, hliteral, hnil⟩ := allFit_cons_iff.1 hinside
    obtain rfl := allFit_nil_iff.1 hnil
    obtain ⟨found, rfl, hfound⟩ := fits_literal_iff.1 hliteral
    exact ⟨1, found, rfl, .inr hfound⟩
  | _ + 2, hnumber => cases hnumber

/-- Two words of which one stands behind a slot. -/
structure Words (first second : List Char) : Prop where
  first_neutral : Neutral first
  second_neutral : Neutral second
  first_ne_nil : first ≠ []
  second_ne_nil : second ≠ []

theorem Words.last {first second found : List Char} (h : Words first second)
    (hfound : IsEither first second found) (before : Option Char) :
    found ≠ [] ∧ ∃ c ∈ found.getLast?.or before, isBlank c = false :=
  hfound.elim (exists_last_of_word before h.first_neutral h.first_ne_nil)
    (exists_last_of_word before h.second_neutral h.second_ne_nil)

/-- Nothing shorter than a text without such words stands in front of one of them. -/
theorem Words.length_le {first second found blanks more rest low part tail : List Char}
    {words : List (List Char)} (h : Words first second) (hfirst : first ∈ words)
    (hsecond : second ∈ words) (hfree : Free words part) (htrimmed : Trimmed part)
    (htail : tail.head?.any isBlank = true) (hlow : Balanced low)
    (htext : part ++ tail = low ++ (blanks ++ (found ++ (more ++ rest))))
    (hgap : Gap blanks (found ++ (more ++ rest))) (hfound : IsEither first second found)
    (hgap' : Gap more rest) : part.length ≤ low.length := by
  have hafter := hgap'.head?_append rest
  rcases hfound with hfound | hfound
  · exact hfree.length_le htrimmed htail hlow htext hgap.ne_nil hgap.blank hfirst h.first_ne_nil
      (not_isBlank_of_neutral h.first_neutral) hfound hafter
  · exact hfree.length_le htrimmed htail hlow htext hgap.ne_nil hgap.blank hsecond h.second_ne_nil
      (not_isBlank_of_neutral h.second_neutral) hfound hafter

/-- What a slot takes that has one of two words behind it. -/
theorem exists_of_slot_word {i : Nat} {first second : List Char} (hwords : Words first second)
    (h : AllFit p before (.slot i :: .space :: eitherWord first second :: .space :: elements) ways
      []) :
    ∃ low blanks number found more rest last, ways = .slot i low :: .space blanks ::
        .taken number 0 [.literal found] :: .space more :: rest ∧
      Admissible low ∧ Gap blanks (found ++ (more ++ waysText rest)) ∧
      IsEither first second found ∧ TakesBlanks last more (waysText rest) ∧
      (∃ c ∈ last, isBlank c = false) ∧ AllFit p (more.getLast?.or last) elements rest [] := by
  obtain ⟨_, rest, rfl, hslot, hfit⟩ := allFit_cons_iff.1 h
  obtain ⟨low, rfl, hlow⟩ := fits_slot_iff.1 hslot
  obtain ⟨_, rest, rfl, hspace, hfit⟩ := allFit_cons_iff.1 hfit
  obtain ⟨blanks, rfl, hgap⟩ := fits_space_iff.1 hspace
  obtain ⟨_, rest, rfl, heither, hfit⟩ := allFit_cons_iff.1 hfit
  obtain ⟨number, found, rfl, hfound⟩ := fits_eitherWord heither
  obtain ⟨_, rest, rfl, hspace', hfit⟩ := allFit_cons_iff.1 hfit
  obtain ⟨more, rfl, hmore⟩ := fits_space_iff.1 hspace'
  obtain ⟨hne, hlast⟩ := hwords.last hfound (blanks.getLast?.or (low.getLast?.or before))
  simp only [Way.text, waysText, List.append_nil] at hgap hmore hfit
  refine ⟨low, blanks, number, found, more, rest, _, rfl, hlow, ?_, hfound, hmore, hlast, hfit⟩
  obtain ⟨c, hc, hblank⟩ := hlow.2.2
  refine gap_of_takesBlanks hgap ⟨c, ?_, hblank⟩ (by simp [hne])
  rw [Option.mem_def] at hc ⊢
  rw [hc]
  rfl

/-- A slot in front of one of two words takes no less than a text without such words. -/
theorem length_le_of_slot_word {i : Nat} {first second low part tail : List Char}
    {words : List (List Char)} (hwords : Words first second) (hfirst : first ∈ words)
    (hsecond : second ∈ words) (hfree : Free words part) (htrimmed : Trimmed part)
    (htail : tail.head?.any isBlank = true)
    (h : AllFit p before (.slot i :: .space :: eitherWord first second :: .space :: elements)
      (.slot i low :: ways) [])
    (hrest : ∀ {before ways}, AllFit p before elements ways [] → waysText ways ≠ [])
    (htext : low ++ waysText ways = part ++ tail) : part.length ≤ low.length := by
  obtain ⟨_, blanks, number, found, more, rest, last, heq, hlow, hgap, hfound, hmore, hlast, hfit⟩ :=
    exists_of_slot_word hwords h
  cases heq
  simp only [waysText, Way.text, List.append_nil] at htext
  exact hwords.length_le hfirst hsecond hfree htrimmed htail hlow.2.1 htext.symm hgap hfound
    (gap_of_takesBlanks hmore hlast (hrest hfit))

/-! ### Ranges -/

theorem words_range : Words ['f', 'r', 'o', 'm'] ['b', 'e', 't', 'w', 'e', 'e', 'n'] :=
  ⟨by decide, by decide, by decide, by decide⟩

theorem words_bounds : Words ['t', 'o'] ['a', 'n', 'd'] :=
  ⟨by decide, by decide, by decide, by decide⟩

/-- A text with blanks, one of two words and blanks between two parts of it. -/
def Joined (first second low high text : List Char) : Prop :=
  ∃ blanks found more, text = low ++ (blanks ++ (found ++ (more ++ high))) ∧
    Gap blanks (found ++ (more ++ high)) ∧ IsEither first second found ∧ Gap more high

/-- Of two words that begin otherwise the first one is told by its text. -/
theorem eq_of_isEither {a b : Char} {first second found rest more : List Char}
    (hab : sameLetter a b = false) (h : IsEither (a :: first) (b :: second) found)
    (heq : found ++ rest = a :: first ++ more) : rest = more := by
  rcases h with h | h
  · exact (List.append_inj heq h.length_eq).2
  · cases h with
    | cons hc _ =>
    rw [List.cons_append, List.cons_append, List.cons.injEq] at heq
    rw [heq.1, hab] at hc
    cases hc

theorem exists_record_range (offset : Nat) {words blanks found more low gap found' gap' high : List Char}
    {number number' : Nat} : ∃ a b : Span, recordAll offset rangePattern.blankSplit
      [.literal words, .space blanks, .taken number 0 [.literal found], .space more, .slot 0 low,
        .space gap, .taken number' 0 [.literal found'], .space gap', .slot 1 high] =
      ⟨0, [some a, some b], []⟩ ∧ a.text = low ∧ b.text = high := by
  have hmark : (0 : Int32) ||| 0 = 0 := by decide
  simp only [recordAll, Way.record, blankSplit, hmark]
  exact ⟨_, _, rfl, rfl, rfl⟩

/-- What a range takes. -/
theorem exists_of_mem_splits_range {split : Split} (h : split ∈ rangePattern.splits text) :
    ∃ (front rest : List Char) (low high : Span), text = front ++ rest ∧
      (∀ c ∈ front, isMark c = false) ∧ Admissible low.text ∧ Admissible high.text ∧
      Joined ['t', 'o'] ['a', 'n', 'd'] low.text high.text rest ∧
      (∀ more, text = ['n', 'u', 'm', 'b', 'e', 'r', 's', ' ', 'f', 'r', 'o', 'm', ' '] ++ more →
        (∀ c ∈ more.head?, isBlank c = false) → rest = more) ∧
      split = ⟨0, [some low, some high], []⟩ := by
  rw [splits_eq_map, List.mem_map] at h
  obtain ⟨ways, hways, rfl⟩ := h
  obtain ⟨front, before, behind, hfit, htext, hunmarked, hleads, hrecord⟩ :=
    exists_of_complete_withArticle' (mem_completeWays_iff.1 hways)
  obtain ⟨_, rest, rfl, hnumbers, hfit⟩ := allFit_cons_iff.1 hfit
  obtain ⟨words, rfl, hwords⟩ := fits_literal_iff.1 hnumbers
  obtain ⟨_, rest, rfl, hspace, hfit⟩ := allFit_cons_iff.1 hfit
  obtain ⟨blanks, rfl, hblanks⟩ := fits_space_iff.1 hspace
  obtain ⟨_, rest, rfl, heither, hfit⟩ := allFit_cons_iff.1 hfit
  obtain ⟨number, found, rfl, hfound⟩ := fits_eitherWord heither
  obtain ⟨_, rest, rfl, hspace', hfit⟩ := allFit_cons_iff.1 hfit
  obtain ⟨more, rfl, hmore⟩ := fits_space_iff.1 hspace'
  obtain ⟨low, gap, number', found', gap', rest, last, rfl, hlow, hgap, hfound', hgap', hlast, hfit⟩ :=
    exists_of_slot_word words_bounds hfit
  obtain ⟨_, rest, rfl, hslot, hfit⟩ := allFit_cons_iff.1 hfit
  obtain rfl := allFit_nil_iff.1 hfit
  obtain ⟨high, rfl, hhigh⟩ := fits_slot_iff.1 hslot
  simp only [Way.text, waysText, List.append_nil] at hgap hgap' htext hblanks hmore
  obtain ⟨hfound_ne, hfound_last⟩ := words_range.last hfound (blanks.getLast?.or (words.getLast?.or before))
  have hnumbers_last := exists_last_of_word before
    (show Neutral ['n', 'u', 'm', 'b', 'e', 'r', 's'] by decide) (by decide) hwords
  have hgap_found : Gap blanks (found ++ (more ++ (low ++ (gap ++ (found' ++ (gap' ++ high)))))) :=
    gap_of_takesBlanks hblanks hnumbers_last.2 (by simp [hfound_ne])
  have hgap_low : Gap more (low ++ (gap ++ (found' ++ (gap' ++ high)))) :=
    gap_of_takesBlanks hmore hfound_last (by simp [(trimmed_of_admissible hlow).1])
  obtain ⟨a, b, hsplit, ha, hb⟩ := exists_record_range (byteSize front)
  rw [← hrecord] at hsplit
  subst ha hb
  refine ⟨front ++ (words ++ (blanks ++ (found ++ more))), _, a, b, ?_, ?_, hlow, hhigh,
    ⟨gap, found', gap', rfl, hgap, hfound',
      gap_of_takesBlanks hgap' hlast (trimmed_of_admissible hhigh).1⟩, ?_, hsplit⟩
  · simp [htext]
  · simp only [List.forall_mem_append]
    exact ⟨hunmarked, not_isMark_of_forall₂ (by decide) hwords,
      fun c hc => not_isMark_of_isBlank (hgap_found.blank c hc),
      hfound.elim (not_isMark_of_forall₂ (by decide)) (not_isMark_of_forall₂ (by decide)),
      fun c hc => not_isMark_of_isBlank (hgap_low.blank c hc)⟩
  · -- What is written down has single blanks, so it is known what each part has taken of it.
    intro rest hrest hfirst
    obtain rfl : front = [] := hleads (by rw [hrest]; rfl)
    have hlength : words.length = ['n', 'u', 'm', 'b', 'e', 'r', 's'].length := hwords.length_eq
    have hboth : words ++
          (blanks ++ (found ++ (more ++ (a.text ++ (gap ++ (found' ++ (gap' ++ b.text))))))) =
        ['n', 'u', 'm', 'b', 'e', 'r', 's'] ++
          ([' '] ++ 'f' :: 'r' :: 'o' :: 'm' :: ([' '] ++ rest)) :=
      htext.symm.trans hrest
    obtain ⟨-, heq⟩ := hgap_found.eq (gap_blank (by simp [isBlank]))
      (List.append_inj hboth hlength).2
    exact (hgap_low.eq (gap_blank hfirst) (eq_of_isEither (by decide) hfound heq)).2

theorem forall₂_sameLetter (cs : List Char) :
    List.Forall₂ (fun c expected => sameLetter c expected = true) cs cs :=
  List.forall₂_same.2 fun c _ => by simp [sameLetter]

theorem admissible_of_free {words : List (List Char)} (h : Free words cs) (htrimmed : Trimmed cs)
    (hne : cs ≠ []) : Admissible cs :=
  ⟨htrimmed.first, scan_of_unbroken h, cs.getLast hne, List.getLast?_eq_getLast_of_ne_nil hne,
    htrimmed.last _ (List.getLast?_eq_getLast_of_ne_nil hne)⟩

/-- A range as it is written down. -/
def rangeText (low high : List Char) : List Char :=
  ['n', 'u', 'm', 'b', 'e', 'r', 's', ' ', 'f', 'r', 'o', 'm', ' '] ++
    (low ++ ([' ', 't', 'o', ' '] ++ high))

/-- A word between blanks, as it is taken first. -/
def spacedWord (word : List Char) : List Way :=
  [.space [' '], .taken 0 0 [.literal word], .space [' ']]

/-- The first word of a range. -/
def numbersWord : List Char := ['n', 'u', 'm', 'b', 'e', 'r', 's']

/-- How a range is taken apart that is written down. -/
def rangeWays (low high : List Char) : List Way :=
  .skipped :: .space [] :: .literal numbersWord :: (spacedWord ['f', 'r', 'o', 'm'] ++
    .slot 0 low :: (spacedWord ['t', 'o'] ++ [.slot 1 high]))

theorem takesBlanks_blank {before : Option Char} (h : ∀ c ∈ after.head?, isBlank c = false) :
    TakesBlanks before [' '] after :=
  ⟨by simp [isBlank], h, by simp⟩

theorem fits_eitherWord_first (first second : List Char) :
    Fits p before (eitherWord first second) (.taken 0 0 [.literal first]) after :=
  fits_group_iff.2 ⟨0, 0, [.literal first], _, rfl, rfl,
    .cons (.literal (forall₂_sameLetter first)) .nil⟩

/-- One of two words between blanks. -/
theorem allFit_word {first second : List Char} (hwords : Words first second)
    (hrest : ∀ c ∈ (waysText ways).head?, isBlank c = false)
    (hfit : AllFit p (some ' ') elements ways []) :
    AllFit p before (.space :: eitherWord first second :: .space :: elements)
      (spacedWord first ++ ways) [] := by
  rw [spacedWord, List.cons_append, List.cons_append, List.cons_append, List.nil_append]
  refine .cons (.space (takesBlanks_blank ?_)) (.cons (fits_eitherWord_first first second)
    (.cons (.space (takesBlanks_blank ?_)) hfit))
  · rw [waysText, Way.text, waysText, Way.text, waysText, List.append_nil, List.append_assoc,
      List.head?_append_of_ne_nil _ hwords.first_ne_nil]
    exact fun c hc => not_isBlank_of_neutral hwords.first_neutral c (List.mem_of_mem_head? hc)
  · rwa [List.append_nil]

theorem not_isBlank_of_slot {i : Nat} (h : Admissible cs) :
    ∀ c ∈ (waysText (.slot i cs :: ways)).head?, isBlank c = false := by
  rw [waysText, Way.text, List.head?_append_of_ne_nil _ (trimmed_of_admissible h).1]
  exact h.1

/-- A word in front of something else. -/
theorem allFit_literal (word : List Char) (h : ∀ before, AllFit p before elements ways []) :
    AllFit p before (.literal word :: elements) (.literal word :: ways) [] :=
  .cons (.literal (forall₂_sameLetter word)) (h _)

/-- No article is there. -/
theorem allFit_withoutArticle (hbegins : ∀ c ∈ (waysText ways).head?, isBlank c = false)
    (h : AllFit p none elements ways []) :
    AllFit p none (.group [.mk 0 [.literal ['t', 'h', 'e']]] true :: .space :: elements)
      (.skipped :: .space [] :: ways) [] := by
  refine .cons .skipped (.cons (.space ⟨by simp, ?_, fun _ => .inr ?_⟩) ?_)
  · rwa [List.append_nil]
  · simp [Way.text]
  · simpa [Way.text] using h

theorem complete_rangeWays {low high : List Char} (hlow : Admissible low) (hhigh : Admissible high) :
    rangePattern.Complete (rangeText low high) (rangeWays low high) := by
  have hupper : AllFit rangePattern (some ' ') [.slot 1] [.slot 1 high] [] :=
    .cons (.slot hhigh) .nil
  have hbounds : AllFit rangePattern (some ' ') (.slot 0 :: _) (.slot 0 low :: _) [] :=
    .cons (.slot hlow) (allFit_word words_bounds (not_isBlank_of_slot hhigh) hupper)
  have hnumbers : AllFit rangePattern none _ _ [] :=
    allFit_literal ['n', 'u', 'm', 'b', 'e', 'r', 's'] fun _ =>
      allFit_word words_range (not_isBlank_of_slot hlow) hbounds
  have hall := allFit_withoutArticle (by simp [waysText, Way.text, isBlank]) hnumbers
  have htext : waysText (rangeWays low high) = rangeText low high := by
    simp only [rangeWays, spacedWord, List.cons_append, List.nil_append, waysText, Way.text,
      List.append_nil]
    rfl
  exact ⟨hall, htext⟩

/-- What comes before some ways comes before the first one, or has it in common with them. -/
theorem exists_of_waysPrecede {way : Way} {ways' : List Way}
    (h : WaysPrecede p ways' (way :: ways)) : ∃ way' rest, ways' = way' :: rest ∧
      (way'.Precedes p way ∨ way' = way ∧ WaysPrecede p rest ways) := by
  cases h with
  | head h => exact ⟨_, _, rfl, .inl h⟩
  | tail h => exact ⟨_, _, rfl, .inr ⟨rfl, h⟩⟩

/-- Some ways have nothing before them. -/
theorem exists_of_waysPrecede_first {way : Way} {ways' : List Way}
    (hway : ∀ way', ¬ Way.Precedes p way' way) (h : WaysPrecede p ways' (way :: ways)) :
    ∃ rest, ways' = way :: rest ∧ WaysPrecede p rest ways := by
  obtain ⟨way', rest, rfl, hless | ⟨rfl, hrest⟩⟩ := exists_of_waysPrecede h
  · exact absurd hless (hway _)
  · exact ⟨rest, rfl, hrest⟩

/-- Ways that have nothing before them are shared by all that comes before them and more. -/
theorem exists_of_waysPrecede_append {front ways' : List Way}
    (hfront : ∀ way ∈ front, ∀ way', ¬ Way.Precedes p way' way)
    (h : WaysPrecede p ways' (front ++ ways)) :
    ∃ rest, ways' = front ++ rest ∧ WaysPrecede p rest ways := by
  induction front generalizing ways' with
  | nil => exact ⟨ways', rfl, h⟩
  | cons way front ih =>
    obtain ⟨hway, hfront⟩ := List.forall_mem_cons.1 hfront
    obtain ⟨more, rfl, hmore⟩ := exists_of_waysPrecede_first hway h
    obtain ⟨rest, rfl, hrest⟩ := ih hfront hmore
    exact ⟨rest, rfl, hrest⟩

theorem not_precedes_space (blanks : List Char) (way : Way) :
    ¬ way.Precedes p (.space blanks) := by
  intro h
  cases h

theorem not_precedes_literal (word : List Char) (way : Way) :
    ¬ way.Precedes p (.literal word) := by
  intro h
  cases h

/-- Groups are taken by their first alternative first. -/
theorem not_precedes_taken {mark : Int32} {inside : List Way}
    (hinside : ∀ way ∈ inside, ∀ way', ¬ Way.Precedes p way' way) (way : Way) :
    ¬ way.Precedes p (.taken 0 mark inside) := by
  intro h
  cases h with
  | number h => exact absurd h (Nat.not_lt_zero _)
  | inside h =>
    rw [← List.append_nil inside] at h
    obtain ⟨rest, -, hrest⟩ := exists_of_waysPrecede_append hinside h
    cases hrest

theorem not_precedes_either (first : List Char) (way : Way) :
    ¬ way.Precedes p (.taken 0 0 [.literal first]) :=
  not_precedes_taken (List.forall_mem_singleton.2 (not_precedes_literal first)) way

theorem not_precedes_spacedWord (word : List Char) :
    ∀ way ∈ spacedWord word, ∀ way', ¬ Way.Precedes p way' way :=
  List.forall_mem_cons.2 ⟨not_precedes_space _, List.forall_mem_cons.2
    ⟨not_precedes_either word, List.forall_mem_singleton.2 (not_precedes_space _)⟩⟩

/-- What comes before a slot takes less. -/
theorem length_lt_of_precedes {i : Nat} {way : Way} (hgreedy : isGreedy p i = false)
    (h : way.Precedes p (.slot i text)) : ∃ less, way = .slot i less ∧ less.length < text.length := by
  cases h with
  | shorter _ h => exact ⟨_, rfl, h⟩
  | longer h _ =>
    rw [hgreedy] at h
    cases h

/-- An expression that is written down has no article. -/
theorem not_taken_article {optional : Bool} {number : Nat} {mark : Int32}
    (h : Fits p before (.group [.mk 0 [.literal ['t', 'h', 'e']]] optional)
      (.taken number mark ways) after) : leads (waysText ways ++ after) = false := by
  cases h with
  | taken hnumber hinside =>
  cases number with
  | succ number => cases hnumber
  | zero =>
  cases hnumber
  obtain ⟨_, _, rfl, hliteral, hnil⟩ := allFit_cons_iff.1 hinside
  obtain rfl := allFit_nil_iff.1 hnil
  obtain ⟨article, rfl, harticle⟩ := fits_literal_iff.1 hliteral
  rw [Bool.eq_false_iff]
  intro hleads
  rw [waysText, Way.text, waysText, List.append_nil] at hleads
  exact absurd (mem_openings_of_forall₂ hleads (by decide) (by decide) harticle) (by decide)

theorem waysText_ne_nil_of_slot {i : Nat} (h : AllFit p before [.slot i] ways []) :
    waysText ways ≠ [] := by
  obtain ⟨_, _, rfl, hslot, hnil⟩ := allFit_cons_iff.1 h
  obtain rfl := allFit_nil_iff.1 hnil
  obtain ⟨text, rfl, hadmissible⟩ := fits_slot_iff.1 hslot
  simpa [waysText, Way.text] using (trimmed_of_admissible hadmissible).1

/-- What is left of the elements behind some ways. -/
theorem allFit_of_append {first second : List Element} {front rest : List Way}
    (h : AllFit p before (first ++ second) (front ++ rest) []) (hlength : first.length = front.length) :
    ∃ before, AllFit p before second rest [] := by
  induction front generalizing first before with
  | nil =>
    obtain rfl := List.length_eq_zero_iff.1 hlength
    exact ⟨before, h⟩
  | cons way front ih =>
    obtain ⟨element, first, rfl⟩ := List.exists_cons_of_length_eq_add_one hlength
    obtain ⟨_, _, heq, -, hfit⟩ := allFit_cons_iff.1 h
    cases heq
    exact ih hfit (Nat.succ_inj.1 hlength)

/-- Nothing else takes as much by one slot. -/
theorem not_waysPrecede_slot {i : Nat} {ways' : List Way} (hgreedy : isGreedy p i = false)
    (h : AllFit p before [.slot i] ways' []) (htext : waysText ways' = text) :
    ¬ WaysPrecede p ways' [.slot i text] := by
  intro hprecedes
  obtain ⟨_, rest, rfl, hless | ⟨-, hnone⟩⟩ := exists_of_waysPrecede hprecedes
  · obtain ⟨less, rfl, hshort⟩ := length_lt_of_precedes hgreedy hless
    obtain ⟨_, hfit⟩ := @allFit_of_append p before [.slot i] [] [.slot i less] rest h rfl
    obtain rfl := allFit_nil_iff.1 hfit
    rw [waysText, Way.text, waysText, List.append_nil] at htext
    exact absurd hshort (by rw [htext]; exact lt_irrefl _)
  · cases hnone

/-- **A slot in front of a word takes what is free of it,** and nothing comes before that. -/
theorem exists_of_waysPrecede_slot_word {i : Nat} {first second low tail : List Char}
    {words : List (List Char)} {ways' : List Way} (hgreedy : isGreedy p i = false)
    (hwords : Words first second) (hfirst : first ∈ words) (hsecond : second ∈ words)
    (hlow : Free words low) (htrimmed : Trimmed low)
    (hrest : ∀ {before ways}, AllFit p before elements ways [] → waysText ways ≠ [])
    (hfit : AllFit p before (.slot i :: .space :: eitherWord first second :: .space :: elements)
      ways' [])
    (htext : waysText ways' = low ++ (' ' :: (first ++ ' ' :: tail)))
    (h : WaysPrecede p ways' (.slot i low :: (spacedWord first ++ ways))) :
    ∃ rest before, AllFit p before elements rest [] ∧ waysText rest = tail ∧
      WaysPrecede p rest ways := by
  obtain ⟨_, more, rfl, hless | ⟨rfl, hmore⟩⟩ := exists_of_waysPrecede h
  · obtain ⟨less, rfl, hshort⟩ := length_lt_of_precedes hgreedy hless
    have hlong := length_le_of_slot_word hwords hfirst hsecond hlow htrimmed rfl hfit hrest htext
    exact absurd hlong (Nat.not_le_of_gt hshort)
  · obtain ⟨rest, rfl, hbefore⟩ := exists_of_waysPrecede_append (not_precedes_spacedWord first) hmore
    obtain ⟨last, hrest⟩ := @allFit_of_append p before
      [.slot i, .space, eitherWord first second, .space] elements
      (.slot i low :: spacedWord first) rest hfit rfl
    refine ⟨rest, last, hrest, ?_, hbefore⟩
    simp only [spacedWord, waysText, Way.text, List.cons_append, List.nil_append, List.append_nil]
      at htext
    simpa using htext

/-- No other way to take a range apart comes before the one in which its first part is whole. -/
theorem not_precedes_rangeWays {low high : List Char} {words : List (List Char)}
    (hto : ['t', 'o'] ∈ words) (hand : ['a', 'n', 'd'] ∈ words) (hlow : Free words low)
    (htrimmed : Trimmed low) {ways : List Way}
    (h : rangePattern.Complete (rangeText low high) ways) :
    ¬ WaysPrecede rangePattern ways (rangeWays low high) := by
  obtain ⟨hfit, htext⟩ := h
  intro hprecedes
  obtain ⟨article, _, rfl, harticle | ⟨rfl, hspace⟩⟩ := exists_of_waysPrecede hprecedes
  · -- With an article the text would begin with it, and no expression does.
    cases harticle with
    | skipped =>
    obtain ⟨_, _, heq, hfirst, -⟩ := allFit_cons_iff.1 hfit
    cases heq
    have hleads := not_taken_article hfirst
    rw [List.append_nil] at hleads
    rw [waysText, Way.text] at htext
    rw [htext] at hleads
    cases hleads
  -- Up to the slots nothing comes before the ways that are taken.
  have hfront : ∀ way ∈ Way.space [] :: .literal numbersWord :: spacedWord ['f', 'r', 'o', 'm'],
      ∀ way', ¬ Way.Precedes rangePattern way' way :=
    List.forall_mem_cons.2 ⟨not_precedes_space _, List.forall_mem_cons.2
      ⟨not_precedes_literal _, not_precedes_spacedWord _⟩⟩
  obtain ⟨rest, rfl, hslots⟩ := exists_of_waysPrecede_append hfront hspace
  obtain ⟨_, hfit⟩ := @allFit_of_append _ _ (_ :: .space :: .literal numbersWord :: .space ::
    eitherWord ['f', 'r', 'o', 'm'] ['b', 'e', 't', 'w', 'e', 'e', 'n'] :: [.space]) _ (.skipped ::
      .space [] :: .literal numbersWord :: spacedWord ['f', 'r', 'o', 'm']) rest hfit rfl
  have hbounds : waysText rest = low ++ (' ' :: (['t', 'o'] ++ ' ' :: high)) := by
    simp only [spacedWord, waysText, Way.text, List.append_nil, List.nil_append,
      List.cons_append] at htext
    exact @List.append_cancel_left _ "numbers from ".toList _ _ htext
  obtain ⟨rest, _, hhigh, htext, hnone⟩ := exists_of_waysPrecede_slot_word rfl words_bounds hto hand
    hlow htrimmed waysText_ne_nil_of_slot hfit hbounds hslots
  exact not_waysPrecede_slot rfl hhigh htext hnone

/-- The first way to take a range apart that is written down. -/
theorem head?_splits_range {low high : List Char} {words : List (List Char)}
    (hto : ['t', 'o'] ∈ words) (hand : ['a', 'n', 'd'] ∈ words) (hlow : Free words low)
    (htrimmed : Trimmed low) (hne : low ≠ []) (hhigh : Admissible high) :
    ∃ a b : Span, (rangePattern.splits (rangeText low high)).head? = some ⟨0, [some a, some b], []⟩ ∧
      a.text = low ∧ b.text = high := by
  have hcomplete := complete_rangeWays (admissible_of_free hlow htrimmed hne) hhigh
  have hhead := head?_splits hcomplete fun _ => not_precedes_rangeWays hto hand hlow htrimmed
  have hmark : (0 : Int32) ||| 0 = 0 := by decide
  simp only [rangeWays, spacedWord, List.cons_append, List.nil_append, recordAll, Way.record,
    blankSplit, hmark] at hhead
  exact ⟨_, _, hhead, rfl, rfl⟩

/-- A range that is written down begins with its first word. -/
theorem exists_numbers_of_mem_splits_range {split : Split} (hleads : leads text = true)
    (h : split ∈ rangePattern.splits text) :
    ∃ front, List.Forall₂ (fun c expected => sameLetter c expected = true) front
        ['n', 'u', 'm', 'b', 'e', 'r', 's'] ∧ ∃ rest, text = front ++ rest := by
  rw [splits_eq_map, List.mem_map] at h
  obtain ⟨ways, hways, rfl⟩ := h
  obtain ⟨front, before, behind, hfit, htext, -, hnone, -⟩ :=
    exists_of_complete_withArticle' (mem_completeWays_iff.1 hways)
  obtain ⟨_, rest, rfl, hnumbers, -⟩ := allFit_cons_iff.1 hfit
  obtain ⟨words, rfl, hwords⟩ := fits_literal_iff.1 hnumbers
  refine ⟨words, hwords, waysText rest, ?_⟩
  rw [htext, hnone hleads]
  rfl

/-- A word with a name behind it is taken apart in one way. -/
theorem head?_splits_named {source : String} {name front : List Char} {re : Regex}
    (hfront : Neutral front) (hleads : leads (front ++ name) = true) (hne : front ≠ [])
    (hname : name ≠ []) (haccepts : re.accepts name = true) :
    ((withArticle source [.literal front, .regex 0] [] [re]).splits (front ++ name)).head? =
      some ⟨0, [], [some name]⟩ := by
  have hregex : AllFit (withArticle source [.literal front, .regex 0] [] [re])
      (front.getLast?.or none) [.regex 0] [.regex 0 name] [] :=
    .cons (.regex rfl hname haccepts) .nil
  have hall := allFit_withoutArticle (by
    rw [waysText, Way.text, List.head?_append_of_ne_nil _ hne]
    exact fun c hc => not_isBlank_of_neutral hfront c (List.mem_of_mem_head? hc))
    (.cons (.literal (forall₂_sameLetter front)) hregex)
  have hcomplete : (withArticle source [.literal front, .regex 0] [] [re]).Complete (front ++ name)
      [.skipped, .space [], .literal front, .regex 0 name] :=
    ⟨hall, by simp [waysText, Way.text]⟩
  have hmem := List.mem_map_of_mem (f := recordAll 0
    (withArticle source [.literal front, .regex 0] [] [re]).blankSplit) (mem_completeWays_iff.2 hcomplete)
  rw [← splits_eq_map] at hmem
  -- There is a split, and any other one is the same.
  obtain ⟨split, rest, hsplits⟩ := List.exists_cons_of_ne_nil (List.ne_nil_of_mem hmem)
  obtain ⟨found, taken, htext, -, -, -, rfl, hfound⟩ := exists_of_mem_splits_named hfront
    (hsplits ▸ List.mem_cons_self : split ∈ _)
  obtain ⟨-, rfl⟩ := List.append_inj htext (hfound hleads).length_eq.symm
  rw [hsplits]
  rfl

end Vocabulary

end TriggerScript

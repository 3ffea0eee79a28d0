import TriggerScript.Proofs.Vocabulary.Spellings

/-!
# Comparisons as they are written down

The built-in conditions are comparisons: of numbers by their order, and of any values by whether
they are equal. Both begin with a slot and one of two words, so that a text is compared as soon as
these words stand free in it.

* `comparisonPattern`, `isPattern`, `isntPattern` : the patterns of the conditions.
* `conditions_of_builtIn` : these are all conditions that are built in.
* `mark_of_mem_splits_comparison`, `mark_of_mem_splits_is`, `mark_of_mem_splits_isnt` : the marks
  that they leave.
* `head?_splits_comparison`, `head?_splits_is` : how a comparison is taken apart that is written
  down.
* `splits_comparison_eq_nil` : no order is found where none is written down.
-/

namespace TriggerScript

open Text Pattern

namespace Vocabulary

variable {p : Pattern} {before : Option Char} {after text cs : List Char} {way : Way}
  {ways : List Way} {element : Element} {elements : List Element}

/-! ### The patterns -/

/-- Words that may be left out in front of the second slot. -/
def optionalWords (mark : Int32) (inside : List Element) : List Element :=
  [.group [.mk mark inside] true, .space, .slot 1]

def orEqualTo : List Element :=
  [.literal ['o', 'r'], .space, .literal ['e', 'q', 'u', 'a', 'l'], .space, .literal ['t', 'o']]

/-- What tells the order that is asked for. -/
def orderGroup : Element :=
  .group [.mk 1 [.literal ['g', 'r', 'e', 'a', 't', 'e', 'r']], .mk 1 [.literal ['m', 'o', 'r', 'e']],
    .mk 2 [.literal ['l', 'e', 's', 's']], .mk 2 [.literal ['s', 'm', 'a', 'l', 'l', 'e', 'r']]] false

/-- The elements of a comparison with one of two words. -/
def relating (first second : List Char) (elements : List Element) : List Element :=
  .slot 0 :: .space :: eitherWord first second :: .space :: elements

def comparisonPattern : Pattern where
  source := "%number% (is|are) (1¦greater|1¦more|2¦less|2¦smaller) than [4¦or equal to] %number%"
  elements := relating ['i', 's'] ['a', 'r', 'e'] (orderGroup :: .space ::
    .literal ['t', 'h', 'a', 'n'] :: .space :: optionalWords 4 orEqualTo)
  slots := [numberSlot, numberSlot]
  regexes := []

/-- A place for any objects. -/
def objectsSlot : Slot := .many [objectType]

def isPattern : Pattern where
  source := "%objects% (is|are) [8¦not] %objects%"
  elements := relating ['i', 's'] ['a', 'r', 'e'] (optionalWords 8 [.literal ['n', 'o', 't']])
  slots := [objectsSlot, objectsSlot]
  regexes := []

def isntPattern : Pattern where
  source := "%objects% (isn't|aren't) %objects%"
  elements := relating ['i', 's', 'n', '\'', 't'] ['a', 'r', 'e', 'n', '\'', 't'] [.slot 1]
  slots := [objectsSlot, objectsSlot]
  regexes := []

/-- The tokens of a word. -/
def letters (cs : List Char) : List Token := cs.map .char

theorem compile_comparisonPattern :
    compile builtInTypes comparisonPattern.source = .ok comparisonPattern := by
  have htokens : tokens comparisonPattern.source.toList = List.flatten
      [[.slot ['n', 'u', 'm', 'b', 'e', 'r'] 8, .blank, .opening '('], letters ['i', 's'],
        [.delimiter '|' 12], letters ['a', 'r', 'e'], [.delimiter ')' 16, .blank, .opening '('],
        .mark 1 :: letters ['g', 'r', 'e', 'a', 't', 'e', 'r'], [.delimiter '|' 28],
        .mark 1 :: letters ['m', 'o', 'r', 'e'], [.delimiter '|' 35],
        .mark 2 :: letters ['l', 'e', 's', 's'], [.delimiter '|' 42],
        .mark 2 :: letters ['s', 'm', 'a', 'l', 'l', 'e', 'r'], [.delimiter ')' 52, .blank],
        letters ['t', 'h', 'a', 'n'], [.blank, .opening '['], .mark 4 :: letters ['o', 'r'],
        .blank :: letters ['e', 'q', 'u', 'a', 'l'], .blank :: letters ['t', 'o'],
        [.delimiter ']' 73, .blank, .slot ['n', 'u', 'm', 'b', 'e', 'r'] 83]] := by
    decide +kernel
  rw [compile, htokens]
  rfl

theorem compile_isPattern : compile builtInTypes isPattern.source = .ok isPattern := by
  have htokens : tokens isPattern.source.toList = List.flatten
      [[.slot ['o', 'b', 'j', 'e', 'c', 't', 's'] 9, .blank, .opening '('], letters ['i', 's'],
        [.delimiter '|' 13], letters ['a', 'r', 'e'], [.delimiter ')' 17, .blank, .opening '['],
        .mark 8 :: letters ['n', 'o', 't'],
        [.delimiter ']' 25, .blank, .slot ['o', 'b', 'j', 'e', 'c', 't', 's'] 36]] := by
    decide +kernel
  rw [compile, htokens]
  rfl

theorem compile_isntPattern : compile builtInTypes isntPattern.source = .ok isntPattern := by
  have htokens : tokens isntPattern.source.toList = List.flatten
      [[.slot ['o', 'b', 'j', 'e', 'c', 't', 's'] 9, .blank, .opening '('],
        letters ['i', 's', 'n', '\'', 't'], [.delimiter '|' 16],
        letters ['a', 'r', 'e', 'n', '\'', 't'],
        [.delimiter ')' 23, .blank, .slot ['o', 'b', 'j', 'e', 'c', 't', 's'] 34]] := by
    decide +kernel
  rw [compile, htokens]
  rfl

/-! ### The conditions -/

def comparisonEntry : StatementEntry Pattern :=
  ⟨"comparison", [comparisonPattern], .condition comparison⟩

def isEntry : StatementEntry Pattern :=
  ⟨"is", [isPattern, isntPattern], .condition comparison⟩

theorem setup_of_closeStatement {types : TypeTable} {s : StatementEntry String}
    {entry : StatementEntry Pattern} (h : Registration.closeStatement types s = .ok entry) :
    entry.setup = s.setup := by
  rw [Registration.closeStatement] at h
  cases hpatterns : Registration.compileAll types s.name s.patterns with
  | error fault =>
    rw [hpatterns] at h
    cases h
  | ok patterns =>
    rw [hpatterns] at h
    cases h
    rfl

/-- Effects are no conditions once they are compiled. -/
theorem filter_isCondition_of_effects {types : TypeTable} {sources : List (StatementEntry String)}
    {entries : List (StatementEntry Pattern)}
    (h : List.Forall₂ (fun s entry => Registration.closeStatement types s = .ok entry) sources
      entries) (heffects : sources.all (!·.setup.isCondition) = true) :
    entries.filter (·.setup.isCondition) = [] := by
  induction h with
  | nil => rfl
  | cons hfirst _ ih =>
    rw [List.all_cons, Bool.and_eq_true, Bool.not_eq_true'] at heffects
    rw [List.filter_cons_of_neg (by simp [setup_of_closeStatement hfirst, heffects.1]),
      ih heffects.2]

theorem closeStatement_comparison :
    Registration.closeStatement builtInTypes ⟨"comparison", [comparisonPattern.source],
      .condition comparison⟩ = .ok comparisonEntry := by
  rw [Registration.closeStatement, Registration.compileAll]
  simp only [Bool.false_eq_true, if_false, List.isEmpty_cons, List.mapM_cons,
    compile_comparisonPattern]
  rfl

theorem closeStatement_is :
    Registration.closeStatement builtInTypes ⟨"is", [isPattern.source, isntPattern.source],
      .condition comparison⟩ = .ok isEntry := by
  rw [Registration.closeStatement, Registration.compileAll]
  simp only [Bool.false_eq_true, if_false, List.isEmpty_cons, List.mapM_cons, compile_isPattern,
    compile_isntPattern]
  rfl

/-- **The built-in conditions.** -/
theorem conditions_of_builtIn {registry : Registry} (h : builtIn = .ok registry) :
    registry.statements.filter (·.setup.isCondition) = [comparisonEntry, isEntry] := by
  rw [builtIn, addAll_empty, Except.bind] at h
  obtain ⟨entries, hclosed⟩ := Registration.closed_of_close h
  have hstatements := hclosed.statements
  obtain ⟨first, _, hfirst, hrest, heq⟩ := List.forall₂_cons_left_iff.1 hstatements
  obtain ⟨second, effects, hsecond, heffects, rfl⟩ := List.forall₂_cons_left_iff.1 hrest
  cases hfirst.symm.trans closeStatement_comparison
  cases hsecond.symm.trans closeStatement_is
  have hnone := filter_isCondition_of_effects heffects rfl
  rw [heq, List.filter_cons_of_pos rfl, List.filter_cons_of_pos rfl, hnone]

/-! ### Marks

What a comparison is taken apart into are its two sides and the marks of the words between them. -/

theorem words_verbs : Words ['i', 's'] ['a', 'r', 'e'] :=
  ⟨by decide, by decide, by decide, by decide⟩

theorem words_denials : Words ['i', 's', 'n', '\'', 't'] ['a', 'r', 'e', 'n', '\'', 't'] :=
  ⟨by decide, by decide, by decide, by decide⟩

/-- The word of an order: its number in the group, its mark and its letters. -/
def orderWord (less : Bool) : Nat × Int32 × List Char :=
  if less then (2, 2, ['l', 'e', 's', 's']) else (0, 1, ['g', 'r', 'e', 'a', 't', 'e', 'r'])

/-- The mark of an order. -/
def orderMark (less orEqual : Bool) : Int32 :=
  (orderWord less).2.1 ||| if orEqual then 4 else 0

/-- The mark of the word `not`. -/
def denialMark (negated : Bool) : Int32 :=
  if negated then 8 else 0

theorem split_congr {m n : Int32} {spans : List (Option Span)}
    {regexes : List (Option (List Char))} (h : m = n) :
    Split.mk m spans regexes = ⟨n, spans, regexes⟩ := by
  rw [h]

/-- Elements that are only words and blanks. -/
def OnlyWords (elements : List Element) : Prop :=
  ∀ e ∈ elements, e = .space ∨ ∃ word, e = .literal word

theorem onlyWords_singleton (word : List Char) : OnlyWords [.literal word] := by
  simp [OnlyWords]

theorem onlyWords_orEqualTo : OnlyWords orEqualTo := by
  simp [OnlyWords, orEqualTo]

/-- Words leave nothing behind. -/
theorem recordAll_of_words {inside : List Element} {offset : Nat} {split : Split}
    (hinside : OnlyWords inside)
    (h : AllFit p before inside ways after) : recordAll offset split ways = split := by
  induction inside generalizing before ways offset with
  | nil =>
    obtain rfl := allFit_nil_iff.1 h
    rfl
  | cons element inside ih =>
    obtain ⟨helement, hmore⟩ := List.forall_mem_cons.1 hinside
    obtain ⟨way, rest, rfl, hfirst, hrest⟩ := allFit_cons_iff.1 h
    rcases helement with rfl | ⟨word, rfl⟩
    · obtain ⟨blanks, rfl, -⟩ := fits_space_iff.1 hfirst
      rw [recordAll, Way.record, ih hmore hrest]
    · obtain ⟨found, rfl, -⟩ := fits_literal_iff.1 hfirst
      rw [recordAll, Way.record, ih hmore hrest]

/-- What is known of a comparison behind its first side. -/
theorem exists_of_mem_splits_relating {first second : List Char} {split : Split}
    (helements : p.elements = relating first second elements)
    (hblank : p.blankSplit = ⟨0, [none, none], []⟩) (hwords : Words first second)
    (h : split ∈ p.splits text) : ∃ (low : Span) (before : Option Char) (rest : List Way)
      (offset : Nat), AllFit p before elements rest [] ∧
        split = recordAll offset ⟨0, [some low, none], []⟩ rest := by
  rw [splits_eq_map, List.mem_map] at h
  obtain ⟨ways, hways, rfl⟩ := h
  obtain ⟨hfit, -⟩ := mem_completeWays_iff.1 hways
  rw [helements] at hfit
  obtain ⟨low, blanks, number, found, more, rest, last, rfl, -, -, -, -, -, hrest⟩ :=
    exists_of_slot_word hwords hfit
  have hmark : (0 : Int32) ||| 0 = 0 := by decide
  simp only [hblank, recordAll, Way.record, hmark, List.set_cons_zero]
  exact ⟨_, _, rest, _, hrest, rfl⟩

/-- What is known of the second side, with words in front of it or without. -/
theorem exists_of_optionalWords {mark m : Int32} {inside : List Element} {low : Span} {offset : Nat}
    (hinside : OnlyWords inside) (h : AllFit p before (optionalWords mark inside) ways []) : ∃ high : Span,
      recordAll offset ⟨m, [some low, none], []⟩ ways = ⟨m ||| mark, [some low, some high], []⟩ ∨
        recordAll offset ⟨m, [some low, none], []⟩ ways = ⟨m, [some low, some high], []⟩ := by
  obtain ⟨group, _, rfl, hgroup, hrest⟩ := allFit_cons_iff.1 h
  obtain ⟨_, _, rfl, hspace, hrest⟩ := allFit_cons_iff.1 hrest
  obtain ⟨blanks, rfl, -⟩ := fits_space_iff.1 hspace
  obtain ⟨_, _, rfl, hslot, hnil⟩ := allFit_cons_iff.1 hrest
  obtain rfl := allFit_nil_iff.1 hnil
  obtain ⟨high, rfl, -⟩ := fits_slot_iff.1 hslot
  rcases fits_optional_iff.1 hgroup with htaken | rfl
  · obtain ⟨number, mark', elements, taken, rfl, hnumber, hall⟩ := fits_group_iff.1 htaken
    obtain ⟨rfl, rfl⟩ : mark = mark' ∧ inside = elements := by
      cases number with
      | zero =>
        cases hnumber
        exact ⟨rfl, rfl⟩
      | succ number => cases hnumber
    rw [recordAll, Way.record, recordAll_of_words hinside hall]
    exact ⟨_, .inl rfl⟩
  · exact ⟨_, .inr rfl⟩

/-- The marks of an order. -/
theorem mark_of_mem_splits_comparison {split : Split}
    (h : split ∈ comparisonPattern.splits text) : ∃ low high less orEqual,
      split = ⟨orderMark less orEqual, [some low, some high], []⟩ := by
  obtain ⟨low, before, rest, offset, hfit, rfl⟩ :=
    exists_of_mem_splits_relating rfl rfl words_verbs h
  obtain ⟨_, _, rfl, horder, hrest⟩ := allFit_cons_iff.1 hfit
  obtain ⟨_, _, rfl, hspace, hrest⟩ := allFit_cons_iff.1 hrest
  obtain ⟨blanks, rfl, -⟩ := fits_space_iff.1 hspace
  obtain ⟨_, _, rfl, hthan, hrest⟩ := allFit_cons_iff.1 hrest
  obtain ⟨than, rfl, -⟩ := fits_literal_iff.1 hthan
  obtain ⟨_, _, rfl, hspace', hrest⟩ := allFit_cons_iff.1 hrest
  obtain ⟨more, rfl, -⟩ := fits_space_iff.1 hspace'
  obtain ⟨number, mark, inside, taken, rfl, hnumber, hinside⟩ := fits_group_iff.1 horder
  obtain ⟨word, less, rfl, rfl⟩ : ∃ word less, inside = [.literal word] ∧
      mark = (orderWord less).2.1 := by
    match number, hnumber with
    | 0, hnumber => cases hnumber; exact ⟨_, false, rfl, rfl⟩
    | 1, hnumber => cases hnumber; exact ⟨_, false, rfl, rfl⟩
    | 2, hnumber => cases hnumber; exact ⟨_, true, rfl, rfl⟩
    | 3, hnumber => cases hnumber; exact ⟨_, true, rfl, rfl⟩
    | _ + 4, hnumber => cases hnumber
  simp only [recordAll, Way.record]
  rw [recordAll_of_words (onlyWords_singleton word) hinside]
  obtain ⟨high, hsplit | hsplit⟩ := exists_of_optionalWords onlyWords_orEqualTo hrest
  · exact ⟨low, high, less, true, hsplit.trans (split_congr (by cases less <;> decide))⟩
  · exact ⟨low, high, less, false, hsplit.trans (split_congr (by cases less <;> decide))⟩

theorem mark_of_mem_splits_is {split : Split} (h : split ∈ isPattern.splits text) :
    ∃ low high negated, split = ⟨denialMark negated, [some low, some high], []⟩ := by
  obtain ⟨low, before, rest, offset, hfit, rfl⟩ :=
    exists_of_mem_splits_relating rfl rfl words_verbs h
  obtain ⟨high, hsplit | hsplit⟩ := exists_of_optionalWords (onlyWords_singleton _) hfit
  · exact ⟨low, high, true, hsplit.trans (split_congr (by decide))⟩
  · exact ⟨low, high, false, hsplit⟩

theorem mark_of_mem_splits_isnt {split : Split} (h : split ∈ isntPattern.splits text) :
    ∃ low high negated, split = ⟨denialMark negated, [some low, some high], []⟩ := by
  obtain ⟨low, before, rest, offset, hfit, rfl⟩ :=
    exists_of_mem_splits_relating rfl rfl words_denials h
  obtain ⟨_, _, rfl, hslot, hnil⟩ := allFit_cons_iff.1 hfit
  obtain rfl := allFit_nil_iff.1 hnil
  obtain ⟨high, rfl, -⟩ := fits_slot_iff.1 hslot
  exact ⟨low, _, false, rfl⟩

/-! ### Comparisons that are written down -/

/-- The words behind the first side of a comparison. -/
def verbs : List (List Char) := [['i', 's'], ['a', 'r', 'e']]

/-- A comparison as it is written down; `rest` is its second side with the words in front of it. -/
def comparedText (low rest : List Char) : List Char :=
  low ++ (' ' :: (['i', 's'] ++ ' ' :: rest))

/-- Elements that end in a slot take something. -/
theorem waysText_ne_nil_of_last {i : Nat} (h : AllFit p before (elements ++ [.slot i]) ways []) :
    waysText ways ≠ [] := by
  induction elements generalizing before ways with
  | nil => exact waysText_ne_nil_of_slot h
  | cons element elements ih =>
    obtain ⟨way, rest, rfl, -, hrest⟩ := allFit_cons_iff.1 h
    rw [waysText]
    exact List.append_ne_nil_of_right_ne_nil _ (ih hrest)

/-- How a comparison is taken apart first, if nothing comes before the way to take what stands
behind its word. -/
theorem head?_splits_relating {low : List Char} (front : List Element)
    (helements : p.elements = relating ['i', 's'] ['a', 'r', 'e'] (front ++ [.slot 1]))
    (hgreedy : isGreedy p 0 = false) (hlow : Free verbs low) (htrimmed : Trimmed low)
    (hne : low ≠ []) (hbegins : ∀ c ∈ (waysText ways).head?, isBlank c = false)
    (hfit : AllFit p (some ' ') (front ++ [.slot 1]) ways [])
    (hfirst : ∀ before ways', AllFit p before (front ++ [.slot 1]) ways' [] →
      waysText ways' = waysText ways → ¬ WaysPrecede p ways' ways) :
    (p.splits (comparedText low (waysText ways))).head? =
      some (recordAll 0 p.blankSplit (.slot 0 low :: (spacedWord ['i', 's'] ++ ways))) := by
  have hcomplete : p.Complete (comparedText low (waysText ways))
      (.slot 0 low :: (spacedWord ['i', 's'] ++ ways)) := by
    refine ⟨?_, ?_⟩
    · rw [helements]
      exact .cons (.slot (admissible_of_free hlow htrimmed hne))
        (allFit_word words_verbs hbegins hfit)
    · simp [spacedWord, waysText, Way.text, comparedText]
  refine head?_splits hcomplete fun ways' hways' hprecedes => ?_
  obtain ⟨hfit', htext'⟩ := hways'
  rw [helements] at hfit'
  obtain ⟨rest, before, hrest, htext, hless⟩ := exists_of_waysPrecede_slot_word hgreedy words_verbs
    (by decide) (by decide) hlow htrimmed waysText_ne_nil_of_last hfit' htext' hprecedes
  exact hfirst before rest hrest htext hless

/-- A word with other first letters begins no expression. -/
theorem not_leads_of_literal {a b : Char} {word : List Char} (ha : a.isLower = true)
    (hb : isNeutral b = true) (hab : (a, b) ∉ openings)
    (h : AllFit p before (.literal (a :: b :: word) :: elements) ways after) :
    leads (waysText ways ++ after) = false := by
  obtain ⟨_, rest, rfl, hliteral, -⟩ := allFit_cons_iff.1 h
  obtain ⟨found, rfl, hfound⟩ := fits_literal_iff.1 hliteral
  rw [Bool.eq_false_iff]
  intro hleads
  rw [waysText, Way.text, List.append_assoc] at hleads
  exact hab (mem_openings_of_forall₂ hleads ha hb hfound)

section Optional

variable {mark : Int32} {inside : List Element} {taken ways' : List Way} {high : List Char}

/-- The words are there. -/
theorem allFit_optional_taken (htaken : AllFit p before inside taken (' ' :: high))
    (hhigh : Admissible high) :
    AllFit p before (optionalWords mark inside) [.taken 0 mark taken, .space [' '], .slot 1 high]
      [] := by
  have hbegins : ∀ c ∈ high.head?, isBlank c = false := hhigh.1
  refine .cons (fits_optional_iff.2 (.inl (fits_group_iff.2 ⟨0, mark, inside, taken, rfl, rfl, ?_⟩)))
    (.cons (.space (takesBlanks_blank ?_)) (.cons (.slot hhigh) .nil))
  · simpa [waysText, Way.text] using htaken
  · simpa [waysText, Way.text] using hbegins

theorem not_waysPrecede_optional_taken (hgreedy : isGreedy p 1 = false)
    (htaken : ∀ way ∈ taken, ∀ way', ¬ Way.Precedes p way' way)
    (hfit : AllFit p before (optionalWords mark inside) ways' [])
    (htext : waysText ways' = waysText [.taken 0 mark taken, .space [' '], .slot 1 high]) :
    ¬ WaysPrecede p ways' [.taken 0 mark taken, .space [' '], .slot 1 high] := by
  intro hprecedes
  have hfront : ∀ way ∈ [Way.taken 0 mark taken, .space [' ']], ∀ way', ¬ Way.Precedes p way' way :=
    List.forall_mem_cons.2 ⟨not_precedes_taken htaken,
      List.forall_mem_singleton.2 (not_precedes_space _)⟩
  obtain ⟨rest, rfl, hless⟩ := exists_of_waysPrecede_append hfront
    (show WaysPrecede p ways' (_ ++ [.slot 1 high]) from hprecedes)
  obtain ⟨_, hslot⟩ := @allFit_of_append p before [.group [.mk mark inside] true, .space] [.slot 1]
    [.taken 0 mark taken, .space [' ']] rest hfit rfl
  refine not_waysPrecede_slot hgreedy hslot ?_ hless
  simpa [waysText, Way.text] using htext

/-- The words are left out. -/
theorem allFit_optional_skipped (hhigh : Admissible high) :
    AllFit p (some ' ') (optionalWords mark inside) [.skipped, .space [], .slot 1 high] [] := by
  have hbegins : ∀ c ∈ high.head?, isBlank c = false := hhigh.1
  refine .cons .skipped (.cons (.space ⟨by simp, ?_, fun _ => .inr ?_⟩) (.cons (.slot hhigh) .nil))
  · simpa [waysText, Way.text] using hbegins
  · simp [Way.text, isBlank]

theorem not_waysPrecede_optional_skipped (hgreedy : isGreedy p 1 = false)
    (hhigh : leads high = true)
    (hinside : ∀ {before ways after}, AllFit p before inside ways after →
      leads (waysText ways ++ after) = false)
    (hfit : AllFit p before (optionalWords mark inside) ways' []) (htext : waysText ways' = high) :
    ¬ WaysPrecede p ways' [.skipped, .space [], .slot 1 high] := by
  intro hprecedes
  obtain ⟨_, rest, rfl, hless | ⟨rfl, hless⟩⟩ := exists_of_waysPrecede hprecedes
  · cases hless with
    | skipped =>
    -- The words would have to stand where the second side begins.
    obtain ⟨_, _, heq, hgroup, -⟩ := allFit_cons_iff.1 hfit
    cases heq
    cases hgroup with
    | taken hnumber hall =>
    rename_i number _ _ _
    cases number with
    | succ number => cases hnumber
    | zero =>
    cases hnumber
    have hnone := hinside hall
    rw [List.append_nil] at hnone
    rw [waysText, Way.text] at htext
    rw [htext, hhigh] at hnone
    cases hnone
  · obtain ⟨more, rfl, hmore⟩ := exists_of_waysPrecede_first (not_precedes_space []) hless
    obtain ⟨_, hslot⟩ := @allFit_of_append p before [.group [.mk mark inside] true, .space] [.slot 1]
      [.skipped, .space []] more hfit rfl
    exact not_waysPrecede_slot hgreedy hslot (by simpa [waysText, Way.text] using htext) hmore

end Optional

section Ordered

variable {less : Bool} {high low : List Char}

/-- How an order is taken. -/
def orderWays (less : Bool) : List Way :=
  [.taken (orderWord less).1 (orderWord less).2.1 [.literal (orderWord less).2.2], .space [' '],
    .literal ['t', 'h', 'a', 'n'], .space [' ']]

theorem waysText_orderWays (less : Bool) (ways : List Way) : waysText (orderWays less ++ ways) =
    (orderWord less).2.2 ++ (' ' :: (['t', 'h', 'a', 'n'] ++ ' ' :: waysText ways)) := by
  simp [orderWays, waysText, Way.text]

theorem allFit_order (hbegins : ∀ c ∈ (waysText ways).head?, isBlank c = false)
    (hfit : AllFit p (some ' ') elements ways []) :
    AllFit p before (orderGroup :: .space :: .literal ['t', 'h', 'a', 'n'] :: .space :: elements)
      (orderWays less ++ ways) [] := by
  have hthan : AllFit p (some ' ') (.literal ['t', 'h', 'a', 'n'] :: .space :: elements)
      (.literal ['t', 'h', 'a', 'n'] :: .space [' '] :: ways) [] :=
    .cons (.literal (forall₂_sameLetter _)) (.cons (.space (takesBlanks_blank (by simpa))) hfit)
  have hgroup (after : List Char) : Fits p before orderGroup (.taken (orderWord less).1
      (orderWord less).2.1 [.literal (orderWord less).2.2]) after := by
    cases less
    · exact fits_group_iff.2 ⟨0, _, _, _, rfl, rfl, .cons (.literal (forall₂_sameLetter _)) .nil⟩
    · exact fits_group_iff.2 ⟨2, _, _, _, rfl, rfl, .cons (.literal (forall₂_sameLetter _)) .nil⟩
  exact .cons (hgroup _) (.cons (.space (takesBlanks_blank (by simp [waysText, Way.text, isBlank]))) hthan)

/-- The words in front of the one that stands there begin otherwise. -/
theorem not_precedes_order {rest : List Char} (hfit : Fits p before orderGroup way after)
    (htext : way.text ++ after = (orderWord less).2.2 ++ rest) :
    ¬ way.Precedes p (.taken (orderWord less).1 (orderWord less).2.1
      [.literal (orderWord less).2.2]) := by
  obtain ⟨number, mark, elements, taken, rfl, hnumber, hinside⟩ := fits_group_iff.1 hfit
  intro hless
  cases hless with
  | inside h =>
    obtain ⟨_, -, hnone⟩ := exists_of_waysPrecede_first (not_precedes_literal _) h
    cases hnone
  | number h =>
    cases less with
    | false => exact absurd h (Nat.not_lt_zero _)
    | true =>
      obtain ⟨c, word, hne, helements⟩ : ∃ c word, sameLetter 'l' c = false ∧
          elements = [.literal (c :: word)] := by
        match number, hnumber, h with
        | 0, hnumber, _ => cases hnumber; exact ⟨_, _, by decide, rfl⟩
        | 1, hnumber, _ => cases hnumber; exact ⟨_, _, by decide, rfl⟩
      obtain ⟨_, _, rfl, hliteral, hnil⟩ := allFit_cons_iff.1 (helements ▸ hinside)
      obtain rfl := allFit_nil_iff.1 hnil
      obtain ⟨found, rfl, hfound⟩ := fits_literal_iff.1 hliteral
      cases hfound with
      | cons hc _ =>
      simp only [Way.text, waysText, List.cons_append, orderWord, if_true, List.cons.injEq] at htext
      rw [htext.1, hne] at hc
      cases hc

theorem exists_of_waysPrecede_order {ways' : List Way}
    (hfit : AllFit p before (orderGroup :: .space :: .literal ['t', 'h', 'a', 'n'] :: .space ::
      elements) ways' []) (htext : waysText ways' = waysText (orderWays less ++ ways))
    (h : WaysPrecede p ways' (orderWays less ++ ways)) :
    ∃ rest before, AllFit p before elements rest [] ∧ waysText rest = waysText ways ∧
      WaysPrecede p rest ways := by
  obtain ⟨first, more, rfl, hless | ⟨rfl, hmore⟩⟩ := exists_of_waysPrecede h
  · obtain ⟨_, _, heq, hgroup, -⟩ := allFit_cons_iff.1 hfit
    cases heq
    rw [waysText_orderWays] at htext
    exact absurd hless (not_precedes_order hgroup (by rw [List.append_nil]; exact htext))
  · have hfront : ∀ way ∈ [Way.space [' '], .literal ['t', 'h', 'a', 'n'], .space [' ']],
        ∀ way', ¬ Way.Precedes p way' way :=
      List.forall_mem_cons.2 ⟨not_precedes_space _, List.forall_mem_cons.2
        ⟨not_precedes_literal _, List.forall_mem_singleton.2 (not_precedes_space _)⟩⟩
    obtain ⟨rest, rfl, hbefore⟩ := exists_of_waysPrecede_append hfront hmore
    obtain ⟨last, hrest⟩ := @allFit_of_append p before
      [orderGroup, .space, .literal ['t', 'h', 'a', 'n'], .space] elements (orderWays less) rest
      hfit rfl
    exact ⟨rest, last, hrest, by simpa [orderWays, waysText, Way.text] using htext, hbefore⟩

end Ordered

/-! ### How they are taken apart -/

section Written

variable {low high : List Char} {less : Bool}

theorem takes_orEqualTo : AllFit p before orEqualTo [.literal ['o', 'r'], .space [' '],
    .literal ['e', 'q', 'u', 'a', 'l'], .space [' '], .literal ['t', 'o']] after :=
  .cons (.literal (forall₂_sameLetter _)) (.cons (.space (takesBlanks_blank
    (by simp [waysText, Way.text, isBlank]))) (.cons (.literal (forall₂_sameLetter _))
      (.cons (.space (takesBlanks_blank (by simp [waysText, Way.text, isBlank])))
        (.cons (.literal (forall₂_sameLetter _)) .nil))))

/-- How the second side of a comparison is taken, with the words `or equal to` or without. -/
def orEqualWays (orEqual : Bool) (high : List Char) : List Way :=
  if orEqual then [.taken 0 4 [.literal ['o', 'r'], .space [' '],
    .literal ['e', 'q', 'u', 'a', 'l'], .space [' '], .literal ['t', 'o']], .space [' '],
    .slot 1 high]
  else [.skipped, .space [], .slot 1 high]

/-- How the second side is taken with the word `not` or without. -/
def notWays (negated : Bool) (high : List Char) : List Way :=
  if negated then [.taken 0 8 [.literal ['n', 'o', 't']], .space [' '], .slot 1 high]
  else [.skipped, .space [], .slot 1 high]

theorem head?_splits_is (negated : Bool) (hlow : Free verbs low) (htrimmed : Trimmed low)
    (hne : low ≠ []) (hhigh : Admissible high) (hleads : leads high = true) :
    ∃ a b : Span, (isPattern.splits (comparedText low (waysText (notWays negated high)))).head? =
        some ⟨denialMark negated, [some a, some b], []⟩ ∧ a.text = low ∧ b.text = high := by
  have hnot {before ways after} (h : AllFit isPattern before [.literal ['n', 'o', 't']] ways after) :
      leads (waysText ways ++ after) = false :=
    not_leads_of_literal (by decide) (by decide) (by decide) h
  have hbegins : ∀ c ∈ (waysText (notWays negated high)).head?, isBlank c = false := by
    cases negated
    · simpa [notWays, waysText, Way.text] using hhigh.1
    · simp [notWays, waysText, Way.text, isBlank]
  have hfit : AllFit isPattern (some ' ') (optionalWords 8 [.literal ['n', 'o', 't']])
      (notWays negated high) [] := by
    cases negated
    · exact allFit_optional_skipped hhigh
    · exact allFit_optional_taken (.cons (.literal (forall₂_sameLetter _)) .nil) hhigh
  have hhead := head?_splits_relating [.group [.mk 8 [.literal ['n', 'o', 't']]] true, .space] rfl rfl
    hlow htrimmed hne hbegins hfit fun before ways' hways' htext => by
      cases negated
      · exact not_waysPrecede_optional_skipped rfl hleads hnot hways'
          (by simpa [notWays, waysText, Way.text] using htext)
      · exact not_waysPrecede_optional_taken rfl
          (List.forall_mem_singleton.2 (not_precedes_literal _)) hways' htext
  simp only [spacedWord, List.cons_append, List.nil_append, recordAll, Way.record] at hhead
  cases negated
  · simp only [notWays, Bool.false_eq_true, if_false, recordAll, Way.record] at hhead
    exact ⟨_, _, hhead.trans (congrArg some (split_congr (by decide))), rfl, rfl⟩
  · simp only [notWays, if_true, recordAll, Way.record] at hhead
    exact ⟨_, _, hhead.trans (congrArg some (split_congr (by decide))), rfl, rfl⟩

theorem head?_splits_comparison (less orEqual : Bool) (hlow : Free verbs low)
    (htrimmed : Trimmed low) (hne : low ≠ []) (hhigh : Admissible high) (hleads : leads high = true) :
    ∃ a b : Span, (comparisonPattern.splits (comparedText low
        (waysText (orderWays less ++ orEqualWays orEqual high)))).head? =
      some ⟨orderMark less orEqual, [some a, some b], []⟩ ∧ a.text = low ∧ b.text = high := by
  have hor {before ways after} (h : AllFit comparisonPattern before orEqualTo ways after) :
      leads (waysText ways ++ after) = false :=
    not_leads_of_literal (by decide) (by decide) (by decide) h
  have hbegins : ∀ c ∈ (waysText (orEqualWays orEqual high)).head?, isBlank c = false := by
    cases orEqual
    · simpa [orEqualWays, waysText, Way.text] using hhigh.1
    · simp [orEqualWays, waysText, Way.text, isBlank]
  have hfit : AllFit comparisonPattern (some ' ') (optionalWords 4 orEqualTo)
      (orEqualWays orEqual high) [] := by
    cases orEqual
    · exact allFit_optional_skipped hhigh
    · exact allFit_optional_taken takes_orEqualTo hhigh
  have horder : AllFit comparisonPattern (some ' ') (orderGroup :: .space ::
      .literal ['t', 'h', 'a', 'n'] :: .space :: optionalWords 4 orEqualTo)
      (orderWays less ++ orEqualWays orEqual high) [] :=
    allFit_order hbegins hfit
  have hhead := head?_splits_relating
    [orderGroup, .space, .literal ['t', 'h', 'a', 'n'], .space, .group [.mk 4 orEqualTo] true, .space]
    rfl rfl hlow htrimmed hne
    (by rw [waysText_orderWays]; cases less <;> simp [orderWord, isBlank])
    horder fun before ways' hways' htext hprecedes => by
      obtain ⟨rest, last, hrest, hsame, hless⟩ := exists_of_waysPrecede_order hways' htext hprecedes
      cases orEqual
      · exact not_waysPrecede_optional_skipped rfl hleads hor hrest
          (by simpa [orEqualWays, waysText, Way.text] using hsame) hless
      · refine not_waysPrecede_optional_taken rfl ?_ hrest hsame hless
        exact List.forall_mem_cons.2 ⟨not_precedes_literal _, List.forall_mem_cons.2
          ⟨not_precedes_space _, List.forall_mem_cons.2 ⟨not_precedes_literal _,
            List.forall_mem_cons.2 ⟨not_precedes_space _,
              List.forall_mem_singleton.2 (not_precedes_literal _)⟩⟩⟩⟩
  simp only [spacedWord, orderWays, List.cons_append, List.nil_append, recordAll, Way.record] at hhead
  cases orEqual
  · simp only [orEqualWays, Bool.false_eq_true, if_false, recordAll, Way.record] at hhead
    exact ⟨_, _, hhead.trans (congrArg some (split_congr (by cases less <;> decide))), rfl, rfl⟩
  · simp only [orEqualWays, if_true, recordAll, Way.record] at hhead
    exact ⟨_, _, hhead.trans (congrArg some (split_congr (by cases less <;> decide))), rfl, rfl⟩

/-- The words of an order begin neither an expression nor a denial. -/
theorem exists_of_fits_order (h : Fits p before orderGroup way after) : ∃ a b word,
    (a, b) ∈ [('g', 'r'), ('m', 'o'), ('l', 'e'), ('s', 'm')] ∧
      List.Forall₂ (fun c expected => sameLetter c expected = true) way.text (a :: b :: word) := by
  obtain ⟨number, mark, elements, taken, rfl, hnumber, hinside⟩ := fits_group_iff.1 h
  obtain ⟨a, b, word, hmem, rfl⟩ : ∃ a b word,
      (a, b) ∈ [('g', 'r'), ('m', 'o'), ('l', 'e'), ('s', 'm')] ∧
        elements = [.literal (a :: b :: word)] := by
    match number, hnumber with
    | 0, hnumber => cases hnumber; exact ⟨_, _, _, by decide, rfl⟩
    | 1, hnumber => cases hnumber; exact ⟨_, _, _, by decide, rfl⟩
    | 2, hnumber => cases hnumber; exact ⟨_, _, _, by decide, rfl⟩
    | 3, hnumber => cases hnumber; exact ⟨_, _, _, by decide, rfl⟩
    | _ + 4, hnumber => cases hnumber
  obtain ⟨_, _, rfl, hliteral, hnil⟩ := allFit_cons_iff.1 hinside
  obtain rfl := allFit_nil_iff.1 hnil
  obtain ⟨found, rfl, hfound⟩ := fits_literal_iff.1 hliteral
  exact ⟨a, b, word, hmem, by simpa [Way.text, waysText] using hfound⟩

/-- What stands behind a verb has none in front of it. -/
theorem free_space {rest : List Char} (hrest : Free verbs rest)
    (hfirst : ∀ c ∈ rest.head?, isBlank c = false)
    (hstarts : ∀ word ∈ verbs, startsWord word (rest ++ [' ']) = false) :
    Free verbs (' ' :: rest) := by
  refine hrest.cons rfl ?_
  rw [breaksWords, List.any_eq_false.2, Bool.and_false]
  intro word hword
  rw [List.dropWhile_cons_of_pos (by decide), dropWhile_isBlank_of_first hfirst, hstarts word hword]
  exact Bool.false_ne_true

theorem free_letter {c : Char} {rest : List Char} (hrest : Free verbs rest)
    (hc : scanChar (0, false) c = some (0, false)) (hblank : isBlank c = false) :
    Free verbs (c :: rest) := by
  refine hrest.cons hc ?_
  rw [breaksWords, List.head?_cons, Option.any_some, hblank, Bool.false_and]

theorem startsWord_of_leads (hleads : leads high = true) :
    ∀ word ∈ verbs, startsWord word (high ++ [' ']) = false := by
  intro word hword
  rw [Bool.eq_false_iff]
  intro hstarts
  simp only [verbs, List.mem_cons, List.not_mem_nil, or_false] at hword
  rcases hword with rfl | rfl
  · exact absurd (mem_openings_of_startsWord hleads (by decide) (by decide) hstarts) (by decide)
  · exact absurd (mem_openings_of_startsWord hleads (by decide) (by decide) hstarts) (by decide)

/-- The word in front of the second side of a denial. -/
def denial (negated : Bool) : List Char :=
  if negated then ['n', 'o', 't', ' '] else []

theorem waysText_notWays (negated : Bool) (high : List Char) :
    waysText (notWays negated high) = denial negated ++ high := by
  cases negated <;> simp [notWays, denial, waysText, Way.text]

/-- The verb and what stands behind it have no other verb. -/
theorem free_verb (negated : Bool) (hhigh : Free verbs high) (hleads : leads high = true) :
    Free verbs ('i' :: 's' :: ' ' :: waysText (notWays negated high)) := by
  have hspace := free_space hhigh (not_isBlank_of_leads hleads) (startsWord_of_leads hleads)
  rw [waysText_notWays]
  cases negated with
  | false => exact free_letter (free_letter hspace rfl rfl) rfl rfl
  | true =>
    have hnot : Free verbs ('n' :: 'o' :: 't' :: ' ' :: high) :=
      free_letter (free_letter (free_letter hspace rfl rfl) rfl rfl) rfl rfl
    refine free_letter (free_letter (free_space hnot (by simp [denial, isBlank]) ?_) rfl rfl) rfl rfl
    simp [denial, verbs, startsWord, show sameLetter 'n' 'i' = false by decide,
      show sameLetter 'n' 'a' = false by decide]

/-- **No order is found where none is written down.** -/
theorem splits_comparison_eq_nil (negated : Bool) (hlow : Free verbs low) (htrimmed : Trimmed low)
    (hhigh : Free verbs high) (hleads : leads high = true) (hlast : Trimmed high) :
    comparisonPattern.splits (comparedText low (waysText (notWays negated high))) = [] := by
  rw [splits_eq_map, List.map_eq_nil_iff, List.eq_nil_iff_forall_not_mem]
  intro ways hways
  obtain ⟨hfit, htext⟩ := mem_completeWays_iff.1 hways
  obtain ⟨part, blanks, number, found, more, rest, last, rfl, hpart, hgap, hfound, hmore, hlast', hrest⟩ :=
    exists_of_slot_word words_verbs hfit
  obtain ⟨way, rest, rfl, horder, hfit'⟩ := allFit_cons_iff.1 hrest
  obtain ⟨a, b, word, hmem, hword⟩ := exists_of_fits_order horder
  simp only [waysText, Way.text, List.append_nil] at htext hgap hmore
  have hne : way.text ≠ [] := by
    intro hnil
    rw [hnil] at hword
    cases hword
  have hgap' : Gap more (way.text ++ waysText rest) :=
    gap_of_takesBlanks hmore hlast' (List.append_ne_nil_of_left_ne_nil hne _)
  have hafter := hgap'.head?_append (way.text ++ waysText rest)
  have htrimmed' : Trimmed ('i' :: 's' :: ' ' :: waysText (notWays negated high)) := by
    rw [waysText_notWays, show 'i' :: 's' :: ' ' :: (denial negated ++ high) =
      ('i' :: 's' :: ' ' :: denial negated) ++ high from rfl]
    refine ⟨by simp [isBlank], ?_⟩
    rw [List.getLast?_append_of_ne_nil _ (ne_nil_of_leads hleads)]
    exact hlast.2
  -- The verb is the one behind the first side, so the order would have to stand behind it.
  obtain rfl : part = low := by
    have hverb := free_verb negated hhigh hleads
    rcases hfound with hfound | hfound
    · exact hlow.eq_of_split htrimmed hverb htrimmed' hpart.2.1 htext.symm hgap.ne_nil hgap.blank
        (by decide) (by decide) (not_isBlank_of_neutral words_verbs.first_neutral) hfound hafter
    · exact hlow.eq_of_split htrimmed hverb htrimmed' hpart.2.1 htext.symm hgap.ne_nil hgap.blank
        (by decide) (by decide) (not_isBlank_of_neutral words_verbs.second_neutral) hfound hafter
  have hverb : Gap [' '] ('i' :: 's' :: ' ' :: waysText (notWays negated high)) :=
    gap_blank (by simp [isBlank])
  have hrest : Gap [' '] (waysText (notWays negated high)) := by
    refine gap_blank ?_
    rw [waysText_notWays]
    cases negated
    · exact hlast.1
    · simp [denial, isBlank]
  -- Behind the verb there is a denial or the second side, and neither begins as an order.
  obtain ⟨-, hwords⟩ := hgap.eq hverb (List.append_cancel_left htext)
  obtain ⟨-, hbehind⟩ := hgap'.eq hrest (eq_of_isEither (by decide) hfound hwords)
  rw [waysText_notWays] at hbehind
  simp only [List.mem_cons, Prod.mk.injEq, List.not_mem_nil, or_false] at hmem
  cases negated with
  | false =>
    rw [denial, if_neg Bool.false_ne_true, List.nil_append] at hbehind
    rw [← hbehind] at hleads
    rcases hmem with ⟨rfl, rfl⟩ | ⟨rfl, rfl⟩ | ⟨rfl, rfl⟩ | ⟨rfl, rfl⟩ <;>
      exact absurd (mem_openings_of_forall₂ hleads (by decide) (by decide) hword) (by decide)
  | true =>
    generalize way.text = found at hword hbehind
    cases hword with
    | cons hc _ =>
    rw [(List.cons.inj hbehind).1] at hc
    rcases hmem with ⟨rfl, rfl⟩ | ⟨rfl, rfl⟩ | ⟨rfl, rfl⟩ | ⟨rfl, rfl⟩ <;> exact absurd hc (by decide)

end Written

end Vocabulary

end TriggerScript

import TriggerScript.Proofs.Text.Trimming
import TriggerScript.Text.Enumeration

/-!
# Where lists are cut

A text is scanned from its beginning. Where no quote and no bracket is open it is cut at every
separator; a separator that begins within a piece stands in quotes or in brackets.

* `level` : the bracket depth and whether a quote is open behind a text.
* `Separates` : how a separator is written in front of a text.
* `separator?_eq_some_iff` : these are the separators that are found.
* `Cuts` : a text as pieces and what stands between them.
* `cutList_of_cuts`, `cuts_cutList` : there is one way to cut a text, and it is the one taken.
* `splitList_cuts` : the enumeration that a text is, by its pieces.
-/

namespace TriggerScript.Text

/-! ### Levels -/

/-- The bracket depth and whether a quote is open behind a character. A bracket may close more than
is open. -/
def track (state : Int × Bool) (c : Char) : Int × Bool :=
  if state.2 then (state.1, c != '"')
  else if c == '"' then (state.1, true)
  else if c == '(' || c == '{' then (state.1 + 1, false)
  else if c == ')' || c == '}' then (state.1 - 1, false)
  else (state.1, false)

/-- The bracket depth and whether a quote is open behind a text. -/
def level (cs : List Char) : Int × Bool :=
  cs.foldl track (0, false)

theorem level_append (xs ys : List Char) : level (xs ++ ys) = ys.foldl track (level xs) :=
  List.foldl_append

theorem level_concat (xs : List Char) (c : Char) : level (xs ++ [c]) = track (level xs) c :=
  level_append xs [c]

/-- Behind a text that leaves nothing open the scan is where it began. -/
theorem level_append_of_closed {xs : List Char} (h : level xs = (0, false)) (ys : List Char) :
    level (xs ++ ys) = level ys := by
  rw [level_append, h, level]

/-- Whether a character neither opens nor closes anything. -/
def isPlain (c : Char) : Bool :=
  !(['"', '(', '{', ')', '}'].contains c)

theorem track_of_isPlain {c : Char} (h : isPlain c = true) : track (0, false) c = (0, false) := by
  simp only [isPlain, List.contains_cons, List.contains_nil, Bool.or_false, Bool.not_eq_true',
    Bool.or_eq_false_iff] at h
  obtain ⟨hquote, hparen, hbrace, hparen', hbrace'⟩ := h
  simp [track, hquote, hparen, hbrace, hparen', hbrace']

theorem level_of_isPlain {cs : List Char} (h : ∀ c ∈ cs, isPlain c = true) :
    level cs = (0, false) := by
  induction cs with
  | nil => rfl
  | cons c cs ih =>
    obtain ⟨hc, hcs⟩ := List.forall_mem_cons.1 h
    rw [level, List.foldl_cons, track_of_isPlain hc]
    exact ih hcs

theorem isPlain_of_isBlank {c : Char} (h : isBlank c = true) : isPlain c = true := by
  by_contra hplain
  simp only [isPlain, List.contains_cons, List.contains_nil, Bool.or_false, Bool.not_eq_true,
    Bool.not_eq_false', Bool.or_eq_true, beq_iff_eq] at hplain
  rcases hplain with rfl | rfl | rfl | rfl | rfl <;> cases h

theorem isBlank_of_isAsciiBlank {c : Char} (h : isAsciiBlank c = true) : isBlank c = true := by
  simp only [isAsciiBlank, Bool.or_eq_true, beq_iff_eq] at h
  rcases h with (((rfl | rfl) | rfl) | rfl) | rfl <;> rfl

/-! ### Separators -/

theorem sameAscii_cons {a b : Char} {as bs : List Char} :
    sameAscii (a :: as) (b :: bs) = (a.toLower == b.toLower && sameAscii as bs) := by
  simp [sameAscii, Bool.beq_eq_decide_eq]

theorem afterWord?_eq_none_iff {word cs : List Char} :
    afterWord? word cs = none ↔ sameAscii (cs.take word.length) word = false := by
  unfold afterWord?
  split <;> simp_all

theorem afterWord?_eq_some_iff {word cs after : List Char} : afterWord? word cs = some after ↔
    ∃ first, cs = first ++ after ∧ sameAscii first word = true := by
  constructor
  · intro h
    refine ⟨cs.take word.length, ?_, ?_⟩
    · rw [afterWord?_eq_some h, List.take_append_drop]
    · by_contra hsame
      rw [Bool.not_eq_true, ← afterWord?_eq_none_iff] at hsame
      rw [hsame] at h
      cases h
  · rintro ⟨first, rfl, hsame⟩
    have hlength : first.length = word.length := by
      simpa [sameAscii] using congrArg List.length (beq_iff_eq.1 hsame)
    rw [afterWord?, ← hlength, List.take_left, List.drop_left, if_pos hsame]

theorem afterWord?_cons_eq_none {w c : Char} (word cs : List Char) (h : c.toLower ≠ w.toLower) :
    afterWord? (w :: word) (c :: cs) = none := by
  rw [afterWord?_eq_none_iff, List.length_cons, List.take_succ_cons, sameAscii_cons]
  simp [h]

/-- The word of a separator in some letter case, with the blank behind it. -/
inductive SpellsWord : Separator → List Char → Prop where
  | and {word : List Char} (h : sameAscii word ['a', 'n', 'd', ' '] = true) : SpellsWord .and word
  | or {word : List Char} (h : sameAscii word ['o', 'r', ' '] = true) : SpellsWord .or word

/-- How a separator is written in front of a text. A comma takes the blanks behind it along, and
also a word that follows them; a word without a comma stands behind a blank. -/
inductive Separates : Separator → List Char → List Char → Prop where
  | comma {blanks after : List Char} (hblanks : ∀ c ∈ blanks, isAsciiBlank c = true)
    (hnext : ∀ c ∈ after.head?, isAsciiBlank c = false)
    (hword : ∀ sep word rest, SpellsWord sep word → after ≠ word ++ rest) :
    Separates .comma (',' :: blanks) after
  | commaWord {sep : Separator} {blanks word after : List Char}
    (hblanks : ∀ c ∈ blanks, isAsciiBlank c = true) (hword : SpellsWord sep word) :
    Separates sep (',' :: (blanks ++ word)) after
  | word {sep : Separator} {word after : List Char} (hword : SpellsWord sep word) :
    Separates sep (' ' :: word) after

/-- Whether a separator begins a text. -/
def Begins (cs : List Char) : Prop :=
  ∃ sep mark after, cs = mark ++ after ∧ Separates sep mark after

/-- The word of a separator that a text starts with, and the text behind it. -/
def word? (cs : List Char) : Option (Separator × List Char) :=
  ((afterWord? ['a', 'n', 'd', ' '] cs).map (Separator.and, ·)).or
    ((afterWord? ['o', 'r', ' '] cs).map (Separator.or, ·))

theorem word?_eq_some_iff {cs after : List Char} {sep : Separator} :
    word? cs = some (sep, after) ↔ ∃ word, cs = word ++ after ∧ SpellsWord sep word := by
  constructor
  · intro h
    rcases Option.or_eq_some_iff.1 h with h | ⟨-, h⟩
    · obtain ⟨rest, hrest, heq⟩ := Option.map_eq_some_iff.1 h
      cases heq
      obtain ⟨word, hsplit, hsame⟩ := afterWord?_eq_some_iff.1 hrest
      exact ⟨word, hsplit, .and hsame⟩
    · obtain ⟨rest, hrest, heq⟩ := Option.map_eq_some_iff.1 h
      cases heq
      obtain ⟨word, hsplit, hsame⟩ := afterWord?_eq_some_iff.1 hrest
      exact ⟨word, hsplit, .or hsame⟩
  · rintro ⟨word, rfl, hword⟩
    cases hword with
    | and hsame => rw [word?, afterWord?_eq_some_iff.2 ⟨word, rfl, hsame⟩]; rfl
    | or hsame =>
      have hand : afterWord? ['a', 'n', 'd', ' '] (word ++ after) = none := by
        cases word with
        | nil => cases hsame
        | cons c word =>
          rw [sameAscii_cons, Bool.and_eq_true, beq_iff_eq] at hsame
          refine afterWord?_cons_eq_none _ _ ?_
          rw [hsame.1]
          decide
      rw [word?, hand, afterWord?_eq_some_iff.2 ⟨word, rfl, hsame⟩]
      rfl

theorem separator?_blank (cs : List Char) : separator? (' ' :: cs) = word? cs := by
  unfold separator? word?
  simp only
  cases afterWord? ['a', 'n', 'd', ' '] cs <;> cases afterWord? ['o', 'r', ' '] cs <;> rfl

theorem separator?_comma (cs : List Char) : separator? (',' :: cs) =
    some ((word? (cs.dropWhile isAsciiBlank)).getD (.comma, cs.dropWhile isAsciiBlank)) := by
  unfold separator? word?
  simp only
  cases afterWord? ['a', 'n', 'd', ' '] (cs.dropWhile isAsciiBlank) <;>
    cases afterWord? ['o', 'r', ' '] (cs.dropWhile isAsciiBlank) <;> rfl

theorem separator?_eq_none {c : Char} (cs : List Char) (hblank : c ≠ ' ') (hcomma : c ≠ ',') :
    separator? (c :: cs) = none := by
  unfold separator?
  split
  · next h => exact absurd (List.cons.inj h).1 hcomma
  · next h => exact absurd (List.cons.inj h).1 hblank
  · rfl

/-- A separator begins with a comma or a blank. -/
theorem exists_cons_of_separator? {cs after : List Char} {sep : Separator}
    (h : separator? cs = some (sep, after)) : ∃ rest, cs = ',' :: rest ∨ cs = ' ' :: rest := by
  cases cs with
  | nil => simp [separator?] at h
  | cons c cs =>
    by_contra hne
    simp only [List.cons.injEq, not_exists, not_or, not_and_or] at hne
    have hcomma : c ≠ ',' := fun hc => (hne cs).1.elim (· hc) (· rfl)
    have hblank : c ≠ ' ' := fun hc => (hne cs).2.elim (· hc) (· rfl)
    rw [separator?_eq_none cs hblank hcomma] at h
    cases h

theorem dropWhile_isAsciiBlank_append {blanks after : List Char}
    (hblanks : ∀ c ∈ blanks, isAsciiBlank c = true)
    (hnext : ∀ c ∈ after.head?, isAsciiBlank c = false) :
    (blanks ++ after).dropWhile isAsciiBlank = after := by
  rw [List.dropWhile_append_of_pos hblanks]
  cases after with
  | nil => rfl
  | cons c after => rw [List.dropWhile_cons_of_neg (by simp [hnext c rfl])]

/-- No word of a separator begins with a blank. -/
theorem SpellsWord.not_isAsciiBlank {sep : Separator} {word : List Char} (h : SpellsWord sep word)
    (after : List Char) : ∀ c ∈ (word ++ after).head?, isAsciiBlank c = false := by
  have hfirst : ∃ c rest, word = c :: rest ∧ (c.toLower = 'a' ∨ c.toLower = 'o') := by
    cases h with
    | and h | or h =>
      cases word with
      | nil => cases h
      | cons c rest =>
        rw [sameAscii_cons, Bool.and_eq_true, beq_iff_eq] at h
        exact ⟨c, rest, rfl, by simp [h.1]⟩
  obtain ⟨c, rest, rfl, hc⟩ := hfirst
  rintro _ ⟨⟩
  rw [Bool.eq_false_iff]
  intro hblank
  simp only [isAsciiBlank, Bool.or_eq_true, beq_iff_eq] at hblank
  rcases hblank with (((rfl | rfl) | rfl) | rfl) | rfl <;> revert hc <;> decide

/-- **The separators that are found are those that are written.** -/
theorem separator?_eq_some_iff {cs after : List Char} {sep : Separator} :
    separator? cs = some (sep, after) ↔ ∃ mark, cs = mark ++ after ∧ Separates sep mark after := by
  constructor
  · intro h
    obtain ⟨rest, rfl | rfl⟩ := exists_cons_of_separator? h
    · have hsplit : rest = rest.takeWhile isAsciiBlank ++ rest.dropWhile isAsciiBlank :=
        List.takeWhile_append_dropWhile.symm
      have hblanks : ∀ c ∈ rest.takeWhile isAsciiBlank, isAsciiBlank c = true :=
        fun c hc => List.mem_takeWhile_imp hc
      rw [separator?_comma, Option.some.injEq] at h
      cases hword : word? (rest.dropWhile isAsciiBlank) with
      | none =>
        rw [hword, Option.getD_none, Prod.mk.injEq] at h
        obtain ⟨rfl, rfl⟩ := h
        refine ⟨_, congrArg (',' :: ·) hsplit, .comma hblanks (fun c hc => ?_) ?_⟩
        · have := List.head?_dropWhile_not isAsciiBlank rest
          rw [hc] at this
          simpa using this
        · intro sep word more hspells heq
          rw [word?_eq_some_iff.2 ⟨word, heq, hspells⟩] at hword
          cases hword
      | some found =>
        rw [hword, Option.getD_some] at h
        subst h
        obtain ⟨word, heq, hspells⟩ := word?_eq_some_iff.1 hword
        refine ⟨',' :: (rest.takeWhile isAsciiBlank ++ word), ?_, .commaWord hblanks hspells⟩
        rw [List.cons_append, List.append_assoc, ← heq, ← hsplit]
    · rw [separator?_blank, word?_eq_some_iff] at h
      obtain ⟨word, rfl, hspells⟩ := h
      exact ⟨_, rfl, .word hspells⟩
  · rintro ⟨mark, rfl, h⟩
    cases h with
    | @comma blanks after hblanks hnext hword =>
      have hnone : word? after = none := by
        cases hfound : word? after with
        | none => rfl
        | some found =>
          obtain ⟨word, heq, hspells⟩ := word?_eq_some_iff.1 hfound
          exact absurd heq (hword _ _ _ hspells)
      rw [List.cons_append, separator?_comma, dropWhile_isAsciiBlank_append hblanks hnext, hnone]
      rfl
    | commaWord hblanks hspells =>
      rw [List.cons_append, List.append_assoc, separator?_comma,
        dropWhile_isAsciiBlank_append hblanks (hspells.not_isAsciiBlank after),
        word?_eq_some_iff.2 ⟨_, rfl, hspells⟩]
      rfl
    | word hspells =>
      rw [List.cons_append, separator?_blank]
      exact word?_eq_some_iff.2 ⟨_, rfl, hspells⟩

theorem begins_iff {cs : List Char} : Begins cs ↔ (separator? cs).isSome = true := by
  rw [Option.isSome_iff_exists]
  constructor
  · rintro ⟨sep, mark, after, hsplit, h⟩
    exact ⟨(sep, after), separator?_eq_some_iff.2 ⟨mark, hsplit, h⟩⟩
  · rintro ⟨⟨sep, after⟩, h⟩
    obtain ⟨mark, hsplit, h⟩ := separator?_eq_some_iff.1 h
    exact ⟨sep, mark, after, hsplit, h⟩

theorem not_begins_iff {cs : List Char} : ¬ Begins cs ↔ separator? cs = none := by
  rw [begins_iff, Option.not_isSome_iff_eq_none]

/-- Whatever follows, a separator begins where one began. -/
theorem Begins.append {cs : List Char} (h : Begins cs) (tail : List Char) : Begins (cs ++ tail) := by
  rw [begins_iff, Option.isSome_iff_exists] at h
  obtain ⟨⟨sep, after⟩, h⟩ := h
  rw [begins_iff]
  obtain ⟨rest, rfl | rfl⟩ := exists_cons_of_separator? h
  · rw [List.cons_append, separator?_comma]
    rfl
  · rw [separator?_blank, word?_eq_some_iff] at h
    obtain ⟨word, rfl, hspells⟩ := h
    rw [List.cons_append, separator?_blank, List.append_assoc,
      word?_eq_some_iff.2 ⟨word, rfl, hspells⟩]
    rfl

/-- Whether a character can be part of a separator. -/
def inSeparator (c : Char) : Bool :=
  isAsciiBlank c || [' ', ',', 'a', 'n', 'd', 'o', 'r'].contains c.toLower

theorem isPlain_of_inSeparator {c : Char} (h : inSeparator c = true) : isPlain c = true := by
  by_contra hplain
  simp only [isPlain, List.contains_cons, List.contains_nil, Bool.or_false, Bool.not_eq_true,
    Bool.not_eq_false', Bool.or_eq_true, beq_iff_eq] at hplain
  rcases hplain with rfl | rfl | rfl | rfl | rfl <;> revert h <;> decide

theorem inSeparator_of_sameAscii {first word : List Char} (h : sameAscii first word = true)
    (hword : ∀ c ∈ word, [' ', ',', 'a', 'n', 'd', 'o', 'r'].contains c.toLower = true) :
    ∀ c ∈ first, inSeparator c = true := by
  rw [sameAscii, beq_iff_eq] at h
  intro c hc
  have hmem : c.toLower ∈ word.map Char.toLower := h ▸ List.mem_map_of_mem hc
  obtain ⟨w, hw, heq⟩ := List.mem_map.1 hmem
  rw [inSeparator, ← heq, hword w hw, Bool.or_true]

theorem SpellsWord.inSeparator {sep : Separator} {word : List Char} (h : SpellsWord sep word) :
    ∀ c ∈ word, inSeparator c = true := by
  cases h with
  | and h | or h => exact inSeparator_of_sameAscii h (by simp)

/-- A separator is made of commas, blanks and the letters of the two words. -/
theorem Separates.inSeparator {sep : Separator} {mark after : List Char}
    (h : Separates sep mark after) : ∀ c ∈ mark, inSeparator c = true := by
  have hblank {blanks : List Char} (h : ∀ c ∈ blanks, isAsciiBlank c = true) :
      ∀ c ∈ blanks, Text.inSeparator c = true := fun c hc => by
    rw [Text.inSeparator, h c hc, Bool.true_or]
  cases h with
  | comma hblanks => exact List.forall_mem_cons.2 ⟨rfl, hblank hblanks⟩
  | commaWord hblanks hword =>
    exact List.forall_mem_cons.2
      ⟨rfl, List.forall_mem_append.2 ⟨hblank hblanks, hword.inSeparator⟩⟩
  | word hword => exact List.forall_mem_cons.2 ⟨rfl, hword.inSeparator⟩

/-- Nothing is opened or closed by a separator. -/
theorem Separates.level_append {sep : Separator} {mark after before : List Char}
    (h : Separates sep mark after) (hbefore : level before = (0, false)) :
    level (before ++ mark) = (0, false) := by
  rw [level_append_of_closed hbefore]
  exact level_of_isPlain fun c hc => isPlain_of_inSeparator (h.inSeparator c hc)

/-! ### Cutting -/

theorem cutList_nil {depth : Int} {quoted : Bool} {piece : List Char} :
    cutList depth quoted piece [] = ([piece.reverse], []) := by
  rw [cutList]

/-- A character at which no list is cut goes to the piece. -/
theorem cutList_cons {state : Int × Bool} {piece : List Char} {c : Char} {rest : List Char}
    (h : state = (0, false) → ¬ Begins (c :: rest)) :
    cutList state.1 state.2 piece (c :: rest) =
      cutList (track state c).1 (track state c).2 (c :: piece) rest := by
  obtain ⟨depth, quoted⟩ := state
  rw [cutList.eq_def]
  simp only [track]
  cases quoted with
  | true => rfl
  | false =>
    simp only [Bool.false_eq_true, if_false]
    split
    · rfl
    split
    · rfl
    split
    · rfl
    split
    · rfl
    next hdepth =>
    obtain rfl : depth = 0 := by simpa using hdepth
    split
    · next hsome =>
      rw [not_begins_iff.1 (h rfl)] at hsome
      cases hsome
    · rfl

/-- A list is cut at a separator. -/
theorem cutList_of_separates {sep : Separator} {mark after piece : List Char}
    (h : Separates sep mark after) : cutList 0 false piece (mark ++ after) =
      (piece.reverse :: (cutList 0 false [] after).1, sep :: (cutList 0 false [] after).2) := by
  have hseparator : separator? (mark ++ after) = some (sep, after) :=
    separator?_eq_some_iff.2 ⟨mark, rfl, h⟩
  obtain ⟨rest, hrest | hrest⟩ := exists_cons_of_separator? hseparator
  all_goals
    rw [hrest] at hseparator ⊢
    rw [cutList.eq_def]
    simp only [Bool.false_eq_true, if_false, show (',' == '"') = false from rfl,
      show (' ' == '"') = false from rfl, show (',' == '(' || ',' == '{') = false from rfl,
      show (' ' == '(' || ' ' == '{') = false from rfl,
      show (',' == ')' || ',' == '}') = false from rfl,
      show (' ' == ')' || ' ' == '}') = false from rfl, bne_self_eq_false]
    split
    · next hsome =>
      rw [hseparator] at hsome
      cases hsome
      rfl
    · next hnone =>
      rw [hseparator] at hnone
      cases hnone

/-- No separator begins within a piece outside of quotes and brackets. The piece stands behind one
text and in front of another. -/
def Whole (before piece after : List Char) : Prop :=
  ∀ inside rest, piece = inside ++ rest → rest ≠ [] → level (before ++ inside) = (0, false) →
    ¬ Begins (rest ++ after)

/-- A text as pieces and separators. The text stands behind another one, and everything is scanned
from the beginning. -/
inductive Cuts : List Char → List Char → List (List Char) → List Separator → Prop where
  | last {before piece : List Char} (hwhole : Whole before piece []) : Cuts before piece [piece] []
  | cons {before piece mark after : List Char} {sep : Separator} {pieces : List (List Char)}
    {separators : List Separator} (hwhole : Whole before piece (mark ++ after))
    (hlevel : level (before ++ piece) = (0, false)) (hmark : Separates sep mark after)
    (hrest : Cuts (before ++ piece ++ mark) after pieces separators) :
    Cuts before (piece ++ mark ++ after) (piece :: pieces) (sep :: separators)

section Cutting

variable {before piece text after : List Char} {pieces : List (List Char)}
  {separators : List Separator}

theorem whole_nil : Whole before [] after := by
  rintro inside rest hsplit hne
  exact absurd (List.append_eq_nil_iff.1 hsplit.symm).2 hne

theorem whole_cons_iff {c : Char} : Whole before (c :: piece) after ↔
    (level before = (0, false) → ¬ Begins (c :: (piece ++ after))) ∧
      Whole (before ++ [c]) piece after := by
  constructor
  · intro h
    refine ⟨fun hlevel => ?_, fun inside rest hsplit hne hlevel => ?_⟩
    · exact h [] (c :: piece) rfl (List.cons_ne_nil _ _) (by rwa [List.append_nil])
    · rw [List.append_assoc] at hlevel
      exact h (c :: inside) rest (by rw [hsplit, List.cons_append]) hne hlevel
  · rintro ⟨hfirst, hpiece⟩ inside rest hsplit hne hlevel
    cases inside with
    | nil =>
      rw [List.append_nil] at hlevel
      rw [List.nil_append] at hsplit
      rw [← hsplit]
      exact hfirst hlevel
    | cons d inside =>
      obtain ⟨rfl, rfl⟩ := List.cons.inj hsplit
      exact hpiece inside rest rfl hne (by rwa [List.append_assoc])

theorem Whole.concat {c : Char} (h : Whole before piece (c :: after))
    (hc : level (before ++ piece) = (0, false) → ¬ Begins (c :: after)) :
    Whole before (piece ++ [c]) after := by
  intro inside rest hsplit hne hlevel
  obtain rfl | ⟨rest, d, rfl⟩ := rest.eq_nil_or_concat
  · exact absurd rfl hne
  rw [List.concat_eq_append, ← List.append_assoc] at hsplit
  obtain ⟨rfl, hd⟩ := List.append_inj' hsplit rfl
  obtain rfl := (List.cons.inj hd).1
  rw [List.concat_eq_append, List.append_assoc]
  by_cases hrest : rest = []
  · subst hrest
    exact hc (by rwa [List.append_nil])
  · exact h inside rest rfl hrest hlevel

/-- A whole piece goes to one piece. -/
theorem cutList_of_whole (taken : List Char) (h : Whole before piece after) :
    cutList (level before).1 (level before).2 taken (piece ++ after) =
      cutList (level (before ++ piece)).1 (level (before ++ piece)).2 (piece.reverse ++ taken)
        after := by
  induction piece generalizing before taken with
  | nil => rw [List.append_nil]; rfl
  | cons c piece ih =>
    obtain ⟨hfirst, hpiece⟩ := whole_cons_iff.1 h
    rw [List.cons_append, cutList_cons hfirst, ← level_concat, ih _ hpiece, List.append_assoc]
    simp

/-- **A text can be cut in one way only**, which is the one taken. -/
theorem cutList_of_cuts (h : Cuts before text pieces separators)
    (hbefore : level before = (0, false)) : cutList 0 false [] text = (pieces, separators) := by
  induction h with
  | @last before piece hwhole =>
    have hcut := cutList_of_whole [] hwhole
    rw [hbefore, List.append_nil, cutList_nil] at hcut
    simpa using hcut
  | cons hwhole hlevel hmark _ ih =>
    have hcut := cutList_of_whole [] hwhole
    rw [hbefore, hlevel, cutList_of_separates hmark, ih (hmark.level_append hlevel)] at hcut
    simpa using hcut

/-- **Every text can be cut.** -/
theorem cuts_cutList {before piece cs : List Char} (h : Whole before piece cs) :
    Cuts before (piece ++ cs)
      (cutList (level (before ++ piece)).1 (level (before ++ piece)).2 piece.reverse cs).1
      (cutList (level (before ++ piece)).1 (level (before ++ piece)).2 piece.reverse cs).2 := by
  match cs with
  | [] =>
    rw [List.append_nil, cutList_nil, List.reverse_reverse]
    exact .last h
  | c :: rest =>
    by_cases hcut : level (before ++ piece) = (0, false) ∧ Begins (c :: rest)
    · obtain ⟨hlevel, sep, mark, after, hsplit, hmark⟩ := hcut
      have hseparator : separator? (c :: rest) = some (sep, after) :=
        separator?_eq_some_iff.2 ⟨mark, hsplit, hmark⟩
      have hshorter : after.length ≤ rest.length :=
        Nat.le_of_lt_succ (separator?_length hseparator)
      have hrest := cuts_cutList (@whole_nil (before ++ piece ++ mark) after)
      rw [List.append_nil, hmark.level_append hlevel] at hrest
      rw [hsplit] at h
      rw [hlevel, hsplit, cutList_of_separates hmark, List.reverse_reverse, ← List.append_assoc]
      exact .cons h hlevel hmark hrest
    · rw [not_and] at hcut
      have hrest := cuts_cutList (h.concat hcut)
      rw [← List.append_assoc, level_concat, List.reverse_append, List.append_assoc] at hrest
      rwa [cutList_cons hcut]
  termination_by cs.length

/-- Each piece is whole where it stands. -/
theorem Cuts.exists_whole (h : Cuts before text pieces separators)
    (hbefore : level before = (0, false)) {piece : List Char} (hpiece : piece ∈ pieces) :
    ∃ front back, level front = (0, false) ∧ Whole front piece back := by
  induction h with
  | @last before _ hwhole =>
    obtain rfl := List.mem_singleton.1 hpiece
    exact ⟨before, [], hbefore, hwhole⟩
  | @cons before _ mark after _ _ _ hwhole hlevel hmark _ ih =>
    rcases List.mem_cons.1 hpiece with rfl | hpiece
    · exact ⟨before, mark ++ after, hbefore, hwhole⟩
    · exact ih (hmark.level_append hlevel) hpiece

/-- A whole piece stays whole without the blanks around it, and without what stands around them. -/
theorem Whole.trim (h : Whole before piece after) (hbefore : level before = (0, false)) :
    Whole [] (trim piece) [] := by
  obtain ⟨front, back, hfront, -, heq⟩ := exists_of_trim piece
  intro inside rest hsplit hne hlevel hbegins
  have hlevel' : level (before ++ (front ++ inside)) = (0, false) := by
    rw [level_append_of_closed hbefore, level_append_of_closed]
    · exact hlevel
    · exact level_of_isPlain fun c hc => isPlain_of_isBlank (hfront c hc)
  rw [List.append_nil] at hbegins
  refine h (front ++ inside) (rest ++ back) ?_ ?_ hlevel' ?_
  · rw [heq, hsplit]
    simp only [List.append_assoc]
  · exact fun hnil => hne (List.append_eq_nil_iff.1 hnil).1
  · rw [List.append_assoc]
    exact hbegins.append _

/-- A text that is whole by itself is one piece. -/
theorem splitList_of_whole (h : Whole [] text []) (htrim : trim text = text) (hne : text ≠ []) :
    splitList text = some ⟨[text], []⟩ := by
  have hcut : cutList 0 false [] text = ([text], []) := cutList_of_cuts (.last h) rfl
  have hempty : text.isEmpty = false := by simpa using hne
  simp [splitList, hcut, htrim, hempty]

end Cutting

theorem trim_eq_nil_iff {cs : List Char} : trim cs = [] ↔ ∀ c ∈ cs, isBlank c = true := by
  constructor
  · intro h c hc
    by_contra hblank
    have := mem_trim_of_not_isBlank hc (Bool.eq_false_iff.2 hblank)
    rw [h] at this
    cases this
  · intro h
    rw [trim, trimStart, ← List.append_nil cs, List.dropWhile_append_of_pos h]
    rfl

/-- **A text is cut into pieces in one way. It is an enumeration unless a piece is blank, and then
its items are the trimmed pieces.** No item can be cut any further. -/
theorem splitList_cuts (text : List Char) :
    ∃ pieces separators, Cuts [] text pieces separators ∧
      (∀ pieces' separators', Cuts [] text pieces' separators' →
        pieces' = pieces ∧ separators' = separators) ∧
      (splitList text = none ↔ ∃ piece ∈ pieces, ∀ c ∈ piece, isBlank c = true) ∧
      ∀ e, splitList text = some e → e = ⟨pieces.map trim, separators⟩ ∧
        ∀ item ∈ e.items, splitList item = some ⟨[item], []⟩ := by
  have hcuts : Cuts [] text (cutList 0 false [] text).1 (cutList 0 false [] text).2 :=
    cuts_cutList whole_nil
  refine ⟨_, _, hcuts, fun pieces' separators' h => ?_, ?_, fun e he => ?_⟩
  · rw [cutList_of_cuts h rfl]
    exact ⟨rfl, rfl⟩
  · simp only [splitList, ite_eq_left_iff, reduceCtorEq, imp_false, not_not, List.any_map,
      List.any_eq_true, Function.comp_apply, List.isEmpty_iff, trim_eq_nil_iff]
  · rw [splitList] at he
    split at he
    · cases he
    next hfull =>
    cases he
    refine ⟨rfl, fun item hitem => ?_⟩
    obtain ⟨piece, hpiece, rfl⟩ := List.mem_map.1 hitem
    obtain ⟨front, back, hfront, hwhole⟩ := hcuts.exists_whole rfl hpiece
    have hne : trim piece ≠ [] := fun hnil => hfull (List.any_eq_true.2 ⟨_, hitem, by simp [hnil]⟩)
    exact splitList_of_whole (hwhole.trim hfront) (trim_of_trimmed (trimmed_trim piece)) hne

end TriggerScript.Text

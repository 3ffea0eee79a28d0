import Mathlib
import TriggerScript.Proofs.Pattern.Cursor
import TriggerScript.Proofs.Text.Cuts

/-!
# Splitting lists and spelling them

Outside quotes and brackets a list is split at commas and at the words `and` and `or`. Parts that
hold no separator there, and leave nothing open, are found again in a list of them.

* `unbroken`, `Undivided` : a text in which nothing stands outside quotes and brackets that breaks
  it, wherever it stands in a list.
* `Joinable` : a part that is no list itself, with no separator at its ends.
* `Fitting` : what both kinds of parts have in common.
* `enumerate`, `toList_joinList` : a list as it is written.
* `splitList_joinList` : splitting a written list yields its parts again.
* `filter_splitList` : only commas, blanks and the two words are lost by splitting.
-/

namespace TriggerScript.Text

/-! ### Unbroken texts -/

/-- Whether what is found outside quotes and brackets never breaks a text, and whether all quotes
and brackets are closed at its end; `breaks` is asked about the rest of the text from each place
on. -/
def unbroken (breaks : List Char → Bool) (state : Nat × Bool) : List Char → Bool
  | [] => state == (0, false)
  | c :: rest =>
    !(state == (0, false) && breaks (c :: rest)) &&
      (scanChar state c).any fun state => unbroken breaks state rest

/-- Whether a text begins with a separator of lists, if it is followed by a blank. -/
def breaksList (cs : List Char) : Bool :=
  (separator? (cs ++ [' '])).isSome

/-- A text that can be a part of a list as it stands. -/
def Undivided (cs : List Char) : Prop :=
  unbroken breaksList (0, false) cs = true

instance (cs : List Char) : Decidable (Undivided cs) :=
  inferInstanceAs (Decidable (_ = true))

variable {breaks : List Char → Bool} {state : Nat × Bool} {c : Char} {cs rest : List Char}

theorem unbroken_cons_iff : unbroken breaks state (c :: rest) = true ↔
    (state = (0, false) → breaks (c :: rest) = false) ∧
      ∃ state', scanChar state c = some state' ∧ unbroken breaks state' rest = true := by
  simp only [unbroken, Bool.and_eq_true, Bool.not_eq_true', Bool.and_eq_false_iff,
    beq_eq_false_iff_ne, Option.any_eq_true]
  exact and_congr_left' (by tauto)

/-- In an unbroken text all quotes and brackets are closed. -/
theorem scan_of_unbroken (h : unbroken breaks state cs = true) :
    scan state cs = some (0, false) := by
  induction cs generalizing state with
  | nil =>
    rw [unbroken, beq_iff_eq] at h
    rw [scan, h]
  | cons c cs ih =>
    obtain ⟨-, state', hstate, hrest⟩ := unbroken_cons_iff.1 h
    rw [scan, hstate]
    exact ih hrest

/-! ### The ends of parts -/

/-- What may stand behind a part of a list. -/
def endsPart : List Char → Bool
  | [] => true
  | c :: _ => c == ' ' || c == ','

/-- What stands behind a part does not make its end the beginning of a word. -/
theorem sameAscii_of_endsPart {word cs tail : List Char}
    (hword : ∀ c ∈ word, c.toLower ≠ ' ' ∧ c.toLower ≠ ',') (htail : endsPart tail = true)
    (h : sameAscii ((cs ++ tail).take (word.length + 1)) (word ++ [' ']) = true) :
    sameAscii ((cs ++ [' ']).take (word.length + 1)) (word ++ [' ']) = true := by
  induction word generalizing cs with
  | nil =>
    cases cs with
    | nil => rfl
    | cons c cs => simpa [sameAscii] using h
  | cons w word ih =>
    obtain ⟨hw, hword⟩ := List.forall_mem_cons.1 hword
    cases cs with
    | nil =>
      cases tail with
      | nil => simp [sameAscii] at h
      | cons c tail =>
        rw [List.nil_append, List.length_cons, List.take_succ_cons, List.cons_append,
          sameAscii_cons, Bool.and_eq_true, beq_iff_eq] at h
        simp only [endsPart, Bool.or_eq_true, beq_iff_eq] at htail
        rcases htail with rfl | rfl
        · exact absurd h.1.symm hw.1
        · exact absurd h.1.symm hw.2
    | cons c cs =>
      rw [List.cons_append, List.length_cons, List.take_succ_cons, List.cons_append,
        sameAscii_cons, Bool.and_eq_true] at h ⊢
      exact ⟨h.1, ih hword h.2⟩

/-- A word that would begin behind the end of a part begins within it. -/
theorem afterWord?_eq_none_of_endsPart {word cs tail : List Char}
    (hword : ∀ c ∈ word, c.toLower ≠ ' ' ∧ c.toLower ≠ ',') (htail : endsPart tail = true)
    (h : afterWord? (word ++ [' ']) (cs ++ [' ']) = none) :
    afterWord? (word ++ [' ']) (cs ++ tail) = none := by
  rw [afterWord?_eq_none_iff, List.length_append, List.length_singleton, Bool.eq_false_iff] at h ⊢
  exact fun hsame => h (sameAscii_of_endsPart hword htail hsame)

theorem word?_eq_none_of_endsPart {cs tail : List Char} (htail : endsPart tail = true)
    (h : word? (cs ++ [' ']) = none) : word? (cs ++ tail) = none := by
  rw [word?, Option.or_eq_none_iff, Option.map_eq_none_iff, Option.map_eq_none_iff] at h ⊢
  have hand : ∀ c ∈ ['a', 'n', 'd'], c.toLower ≠ ' ' ∧ c.toLower ≠ ',' := by simp
  have hor : ∀ c ∈ ['o', 'r'], c.toLower ≠ ' ' ∧ c.toLower ≠ ',' := by simp
  exact ⟨afterWord?_eq_none_of_endsPart hand htail h.1,
    afterWord?_eq_none_of_endsPart hor htail h.2⟩

/-- No separator begins within a part that stands in a list. -/
theorem not_begins_of_breaksList {cs tail : List Char} (htail : endsPart tail = true)
    (hne : cs ≠ []) (h : breaksList cs = false) : ¬ Begins (cs ++ tail) := by
  obtain ⟨c, cs, rfl⟩ := List.exists_cons_of_ne_nil hne
  rw [breaksList, ← Bool.not_eq_true, Option.not_isSome_iff_eq_none] at h
  rw [not_begins_iff]
  by_cases hcomma : c = ','
  · subst hcomma
    rw [List.cons_append, separator?_comma] at h
    cases h
  by_cases hblank : c = ' '
  · subst hblank
    rw [List.cons_append, separator?_blank] at h ⊢
    exact word?_eq_none_of_endsPart htail h
  exact separator?_eq_none _ hblank hcomma

/-- A part that stays in one piece where it stands in a list. -/
structure Fitting (part : List Char) : Prop where
  ne_nil : part ≠ []
  trimmed : Trimmed part
  closed : level part = (0, false)
  /-- No separator begins within it. -/
  whole : ∀ tail, endsPart tail = true → Whole [] part tail
  /-- It does not make the comma before it stand for a word. -/
  first : ∀ tail, endsPart tail = true → word? (part ++ tail) = none

/-- The level that is tracked is the one that is scanned, as long as no bracket is closed that was
never opened. -/
theorem track_of_scanChar {state' : Nat × Bool} (h : scanChar state c = some state') :
    track (state.1, state.2) c = (↑state'.1, state'.2) := by
  obtain ⟨depth, quoted⟩ := state
  cases quoted with
  | true =>
    cases h
    rfl
  | false =>
    simp only [scanChar, Bool.false_eq_true, if_false] at h
    simp only [track, Bool.false_eq_true, if_false]
    split at h
    · next hquote =>
      cases h
      rw [if_pos hquote]
    next hquote =>
    rw [if_neg hquote]
    split at h
    · next hopen =>
      cases h
      rw [if_pos hopen]
      rfl
    next hopen =>
    rw [if_neg hopen]
    split at h
    · next hclose =>
      rw [if_pos hclose]
      cases depth with
      | zero => cases h
      | succ depth =>
        cases h
        rw [show ((depth + 1 : Nat) : Int) - 1 = depth by omega]
    next hclose =>
    cases h
    rw [if_neg hclose]

theorem foldl_track_of_scan {state' : Nat × Bool} (h : scan state cs = some state') :
    cs.foldl track (↑state.1, state.2) = (↑state'.1, state'.2) := by
  induction cs generalizing state with
  | nil =>
    cases h
    rfl
  | cons c cs ih =>
    obtain ⟨next, hnext, hrest⟩ := Option.bind_eq_some_iff.1 h
    rw [List.foldl_cons, track_of_scanChar hnext, ih hrest]

theorem whole_of_unbroken {before tail : List Char} (htail : endsPart tail = true)
    (hbefore : level before = (↑state.1, state.2)) (h : unbroken breaksList state cs = true) :
    Whole before cs tail := by
  induction cs generalizing state before with
  | nil => exact whole_nil
  | cons c cs ih =>
    obtain ⟨hbreak, state', hscan, hrest⟩ := unbroken_cons_iff.1 h
    refine whole_cons_iff.2 ⟨fun hlevel => ?_, ih ?_ hrest⟩
    · obtain ⟨depth, quoted⟩ := state
      rw [hbefore, Prod.mk.injEq, Int.natCast_eq_zero] at hlevel
      obtain ⟨rfl, rfl⟩ := hlevel
      exact not_begins_of_breaksList htail (List.cons_ne_nil c cs) (hbreak rfl)
    · rw [level_concat, hbefore, track_of_scanChar hscan]

/-- An undivided part fits into a list unless its first letter is one of the two words'. -/
theorem Undivided.fitting {part : List Char} (h : Undivided part) (htrimmed : Trimmed part)
    (hne : part ≠ []) (hfirst : ∀ c ∈ part.head?, c.toLower ≠ 'a' ∧ c.toLower ≠ 'o') :
    Fitting part where
  ne_nil := hne
  trimmed := htrimmed
  closed := foldl_track_of_scan (scan_of_unbroken h)
  whole := fun _ htail => whole_of_unbroken htail rfl h
  first := by
    intro tail _
    obtain ⟨c, rest, rfl⟩ := List.exists_cons_of_ne_nil hne
    obtain ⟨ha, ho⟩ := hfirst c rfl
    rw [List.cons_append, word?, afterWord?_cons_eq_none _ _ ha, afterWord?_cons_eq_none _ _ ho]
    rfl

/-! ### Parts that are no lists -/

/-- The text up to its first blank. -/
def firstWord (cs : List Char) : List Char :=
  cs.takeWhile (· != ' ')

/-- The text behind its last blank. -/
def lastWord (cs : List Char) : List Char :=
  (cs.reverse.takeWhile (· != ' ')).reverse

/-- Whether a text is one of the words that separate parts, in some letter case. -/
def isConjunction (cs : List Char) : Bool :=
  sameAscii cs ['a', 'n', 'd'] || sameAscii cs ['o', 'r']

/-- A part that is no list itself: everything is closed in it, and it neither begins nor ends with
a word that separates parts. -/
structure Joinable (part : List Char) : Prop where
  ne_nil : part ≠ []
  trimmed : trim part = part
  closed : level part = (0, false)
  single : ∃ e, splitList part = some e ∧ e.items.length = 1
  first : isConjunction (firstWord part) = false
  last : isConjunction (lastWord part) = false

theorem not_mem_of_isConjunction {cs : List Char} (h : isConjunction cs = true) : ' ' ∉ cs := by
  intro hmem
  have hlower : ' ' ∈ cs.map Char.toLower := List.mem_map.2 ⟨' ', hmem, rfl⟩
  simp only [isConjunction, sameAscii, Bool.or_eq_true, beq_iff_eq] at h
  rcases h with h | h <;> rw [h] at hlower <;> simp at hlower

theorem bne_blank_of_not_mem {word : List Char} (hword : ' ' ∉ word) :
    ∀ c ∈ word, (c != ' ') = true := by
  intro c hc
  rw [bne_iff_ne]
  rintro rfl
  exact hword hc

theorem firstWord_of_not_mem {word : List Char} (hword : ' ' ∉ word) : firstWord word = word :=
  List.takeWhile_eq_self_iff.2 (bne_blank_of_not_mem hword)

theorem firstWord_append {word : List Char} (hword : ' ' ∉ word) (rest : List Char) :
    firstWord (word ++ ' ' :: rest) = word := by
  rw [firstWord, List.takeWhile_append_of_pos (bne_blank_of_not_mem hword)]
  simp

theorem lastWord_append {word : List Char} (hword : ' ' ∉ word) (front : List Char) :
    lastWord (front ++ ' ' :: word) = word := by
  rw [← List.mem_reverse] at hword
  have hfirst := firstWord_append hword front.reverse
  rw [firstWord] at hfirst
  simp [lastWord, hfirst]

theorem eq_blank_of_toLower {c : Char} (h : c.toLower = ' ') : c = ' ' := by
  unfold Char.toLower at h
  split at h
  · next hcapital =>
    have hval := congrArg UInt32.toNat (congrArg Char.val h)
    simp only [UInt32.toNat_add, ge_iff_le, UInt32.le_iff_toNat_le] at hval hcapital
    change (c.val.toNat + 32) % 2 ^ 32 = 32 at hval
    change 65 ≤ c.val.toNat ∧ c.val.toNat ≤ 90 at hcapital
    omega
  · exact h

theorem exists_of_sameAscii_concat {cs : List Char} (stem : List Char)
    (h : sameAscii cs (stem ++ [' ']) = true) :
    ∃ front, cs = front ++ [' '] ∧ sameAscii front stem = true := by
  rw [sameAscii, beq_iff_eq, List.map_append, List.map_eq_append_iff] at h
  obtain ⟨front, back, rfl, hfront, hback⟩ := h
  obtain ⟨c, rfl, hc⟩ := List.map_eq_singleton_iff.1 hback
  exact ⟨front, by rw [eq_blank_of_toLower hc], by rw [sameAscii, hfront, beq_self_eq_true]⟩

/-- The word of a separator is one of the two words with a blank behind it. -/
theorem SpellsWord.exists_concat {sep : Separator} {word : List Char} (h : SpellsWord sep word) :
    ∃ stem, word = stem ++ [' '] ∧ isConjunction stem = true := by
  cases h with
  | and h =>
    obtain ⟨stem, hsplit, hsame⟩ := exists_of_sameAscii_concat ['a', 'n', 'd'] h
    exact ⟨stem, hsplit, by rw [isConjunction, hsame, Bool.true_or]⟩
  | or h =>
    obtain ⟨stem, hsplit, hsame⟩ := exists_of_sameAscii_concat ['o', 'r'] h
    exact ⟨stem, hsplit, by rw [isConjunction, hsame, Bool.or_true]⟩

/-- A word of a separator that is found in front of a blank is the whole text in front of it, or
is found there without the blank. -/
theorem exists_of_word?_concat {cs after : List Char} {sep : Separator}
    (h : word? (cs ++ [' ']) = some (sep, after)) : ∃ stem, isConjunction stem = true ∧
      (cs = stem ∨ ∃ rest, cs = stem ++ ' ' :: rest ∧ word? cs = some (sep, rest)) := by
  obtain ⟨word, hsplit, hspells⟩ := word?_eq_some_iff.1 h
  obtain ⟨stem, rfl, hstem⟩ := hspells.exists_concat
  refine ⟨stem, hstem, ?_⟩
  obtain rfl | ⟨rest, c, rfl⟩ := after.eq_nil_or_concat
  · rw [List.append_nil] at hsplit
    exact .inl (List.append_inj' hsplit rfl).1
  · rw [List.concat_eq_append, ← List.append_assoc] at hsplit
    have hcs := (List.append_inj' hsplit rfl).1
    exact .inr ⟨rest, by rw [hcs, List.append_assoc]; rfl, word?_eq_some_iff.2 ⟨_, hcs, hspells⟩⟩

/-- A text that is split into one item is whole. -/
theorem whole_of_single {text : List Char} {e : Enumeration} (h : splitList text = some e)
    (hlength : e.items.length = 1) : Whole [] text [] := by
  have hcuts : Cuts [] text (cutList 0 false [] text).1 (cutList 0 false [] text).2 :=
    cuts_cutList whole_nil
  rw [splitList] at h
  split at h
  · cases h
  cases h
  rw [List.length_map] at hlength
  generalize cutList 0 false [] text = cut at hcuts hlength
  obtain ⟨pieces, separators⟩ := cut
  cases hcuts with
  | last hwhole => exact hwhole
  | cons _ _ _ hrest => cases hrest <;> simp at hlength

namespace Joinable

variable {part : List Char}

/-- With a blank behind it no separator begins in a part that begins in none without. -/
theorem breaksList_eq_false (h : Joinable part) {inside rest : List Char}
    (hsplit : part = inside ++ rest) (hbegins : ¬ Begins rest) : breaksList rest = false := by
  rw [not_begins_iff] at hbegins
  rw [breaksList, ← Bool.not_eq_true, Option.not_isSome_iff_eq_none]
  cases rest with
  | nil => rfl
  | cons c rest =>
    by_cases hcomma : c = ','
    · subst hcomma
      rw [separator?_comma] at hbegins
      cases hbegins
    by_cases hblank : c = ' '
    · subst hblank
      rw [separator?_blank] at hbegins
      rw [List.cons_append, separator?_blank]
      cases hword : word? (rest ++ [' ']) with
      | none => rfl
      | some found =>
        obtain ⟨stem, hstem, rfl | ⟨more, -, hmore⟩⟩ := exists_of_word?_concat hword
        · have hlast := h.last
          rw [hsplit, lastWord_append (not_mem_of_isConjunction hstem), hstem] at hlast
          cases hlast
        · rw [hmore] at hbegins
          cases hbegins
    exact separator?_eq_none _ hblank hcomma

theorem fitting (h : Joinable part) : Fitting part where
  ne_nil := h.ne_nil
  trimmed := h.trimmed ▸ trimmed_trim part
  closed := h.closed
  whole := by
    obtain ⟨e, he, hlength⟩ := h.single
    have hwhole := whole_of_single he hlength
    intro tail htail inside rest hsplit hne hlevel
    have hbegins := hwhole inside rest hsplit hne hlevel
    rw [List.append_nil] at hbegins
    exact not_begins_of_breaksList htail hne (h.breaksList_eq_false hsplit hbegins)
  first := by
    intro tail htail
    refine word?_eq_none_of_endsPart htail ?_
    cases hword : word? (part ++ [' ']) with
    | none => rfl
    | some found =>
      obtain ⟨stem, hstem, hpart⟩ := exists_of_word?_concat hword
      have hmem := not_mem_of_isConjunction hstem
      have hfirst := h.first
      rcases hpart with rfl | ⟨rest, rfl, -⟩
      · rw [firstWord_of_not_mem hmem, hstem] at hfirst
        cases hfirst
      · rw [firstWord_append hmem, hstem] at hfirst
        cases hfirst

end Joinable

/-! ### Lists as they are written -/

/-- The separator that a list has before its last part. -/
def lastSeparator (together : Bool) : Separator :=
  if together then .and else .or

/-- The separators of a list of so many parts. -/
def listSeparators (together : Bool) (count : Nat) : List Separator :=
  List.replicate (count - 2) .comma ++ [lastSeparator together]

/-- Parts as a list: commas, and a word before the last part. -/
def enumerate (together : Bool) : List (List Char) → List Char
  | [] => []
  | [part] => part
  | [part, last] => part ++ ' ' :: (conjunction together).toList ++ ' ' :: last
  | part :: rest => part ++ ',' :: ' ' :: enumerate together rest

theorem enumerate_pair (together : Bool) (part last : List Char) :
    enumerate together [part, last] =
      part ++ ' ' :: (conjunction together).toList ++ ' ' :: last := rfl

theorem enumerate_cons (together : Bool) (part second third : List Char)
    (rest : List (List Char)) : enumerate together (part :: second :: third :: rest) =
      part ++ ',' :: ' ' :: enumerate together (second :: third :: rest) :=
  rfl

theorem joinList_cons (word part second third : String) (rest : List String) :
    joinList word (part :: second :: third :: rest) =
      part ++ ", " ++ joinList word (second :: third :: rest) := by
  obtain ⟨init, last, hlast⟩ := (third :: rest).eq_nil_or_concat.resolve_left (by simp)
  obtain ⟨middle, hmiddle⟩ : ∃ middle, second :: init = middle := ⟨_, rfl⟩
  simp [joinList, hlast, String.intercalate_cons_of_ne_nil, String.append_assoc]

/-- The written list, character by character. -/
theorem toList_joinList (together : Bool) (parts : List (List Char)) :
    (joinList (conjunction together) (parts.map String.ofList)).toList =
      enumerate together parts := by
  match parts with
  | [] => rfl
  | [part] => simp [joinList, enumerate]
  | [part, last] => simp [joinList, enumerate]
  | part :: second :: third :: rest =>
    rw [enumerate_cons, ← toList_joinList together (second :: third :: rest)]
    rw [List.map_cons, List.map_cons, List.map_cons, joinList_cons]
    simp

/-- A comma before a part is a separator of its own. -/
theorem separates_comma {part tail : List Char} (h : Fitting part) (htail : endsPart tail = true) :
    Separates .comma [',', ' '] (part ++ tail) := by
  refine .comma (by simp [isAsciiBlank]) (fun c hc => ?_) fun sep word rest hspells heq => ?_
  · obtain ⟨d, rest, rfl⟩ := List.exists_cons_of_ne_nil h.ne_nil
    have hblank := h.trimmed.first c hc
    rw [Bool.eq_false_iff] at hblank ⊢
    exact fun hascii => hblank (isBlank_of_isAsciiBlank hascii)
  · have hnone := h.first tail htail
    rw [word?_eq_some_iff.2 ⟨word, heq, hspells⟩] at hnone
    cases hnone

theorem separates_conjunction (together : Bool) (part : List Char) :
    Separates (lastSeparator together) (' ' :: ((conjunction together).toList ++ [' '])) part := by
  cases together
  · exact .word (.or rfl)
  · exact .word (.and rfl)

/-- A fitting part goes to one piece. -/
theorem cutList_of_fitting {part tail : List Char} (h : Fitting part)
    (htail : endsPart tail = true) :
    cutList 0 false [] (part ++ tail) = cutList 0 false part.reverse tail := by
  have hcut := cutList_of_whole [] (h.whole tail htail)
  rwa [List.nil_append, h.closed, List.append_nil] at hcut

theorem cutList_part {part : List Char} (h : Fitting part) :
    cutList 0 false [] part = ([part], []) := by
  rw [← List.append_nil part, cutList_of_fitting h rfl, cutList_nil, List.reverse_reverse]
  simp

/-- A list begins with its first part. -/
theorem exists_enumerate_cons (together : Bool) (part : List Char) (rest : List (List Char)) :
    ∃ tail, enumerate together (part :: rest) = part ++ tail ∧ endsPart tail = true := by
  match rest with
  | [] => exact ⟨[], (List.append_nil part).symm, rfl⟩
  | [last] => exact ⟨_, List.append_assoc .., rfl⟩
  | second :: third :: rest => exact ⟨_, enumerate_cons together part second third rest, rfl⟩

/-- A written list is cut into its parts. -/
theorem cutList_enumerate (together : Bool) {parts : List (List Char)} (hcount : 2 ≤ parts.length)
    (h : ∀ part ∈ parts, Fitting part) : cutList 0 false [] (enumerate together parts) =
      (parts, listSeparators together parts.length) := by
  match parts with
  | [part, last] =>
    have hmark := separates_conjunction together last
    have htext : enumerate together [part, last] =
        part ++ (' ' :: ((conjunction together).toList ++ [' ']) ++ last) := by
      simp [enumerate_pair]
    rw [htext, cutList_of_fitting (h part (by simp)) rfl, cutList_of_separates hmark,
      cutList_part (h last (by simp)), List.reverse_reverse]
    rfl
  | part :: second :: third :: rest =>
    obtain ⟨hpart, hrest⟩ := List.forall_mem_cons.1 h
    have htail := cutList_enumerate together (by simp) hrest
    obtain ⟨tail, hhead, hends⟩ := exists_enumerate_cons together second (third :: rest)
    have hmark := separates_comma (hrest second (by simp)) hends
    rw [← hhead] at hmark
    have htext : enumerate together (part :: second :: third :: rest) =
        part ++ ([',', ' '] ++ enumerate together (second :: third :: rest)) := rfl
    rw [htext, cutList_of_fitting hpart rfl, cutList_of_separates hmark, htail,
      List.reverse_reverse]
    rfl

/-- Splitting a written list yields its parts again. -/
theorem splitList_enumerate (together : Bool) {parts : List (List Char)} (hcount : 2 ≤ parts.length)
    (h : ∀ part ∈ parts, Fitting part) : splitList (enumerate together parts) =
      some ⟨parts, listSeparators together parts.length⟩ := by
  have htrim : parts.map trim = parts :=
    (List.map_congr_left fun part hpart => trim_of_trimmed (h part hpart).trimmed).trans
      (List.map_id' parts)
  have hfull : (parts.any List.isEmpty) = false := by
    rw [List.any_eq_false]
    intro part hpart hempty
    exact (h part hpart).ne_nil (List.isEmpty_iff.1 hempty)
  rw [splitList, cutList_enumerate together hcount h]
  simp only [htrim, hfull, Bool.false_eq_true, if_false]

/-- A list is meant as it is written: together or not, and neither is left open. -/
theorem kind_of_listSeparators (together : Bool) (parts : List (List Char)) (count : Nat) :
    Enumeration.isMixed ⟨parts, listSeparators together count⟩ = false ∧
      Enumeration.isCommaOnly ⟨parts, listSeparators together count⟩ = false ∧
      Enumeration.isAnd ⟨parts, listSeparators together count⟩ = together := by
  cases together <;>
    simp [Enumeration.isMixed, Enumeration.isCommaOnly, Enumeration.isAnd, Enumeration.hasAnd,
      Enumeration.hasOr, listSeparators, lastSeparator, List.mem_replicate]

/-- **Splitting undoes joining**: the parts are found again, with commas between them and the word
before the last one. -/
theorem splitList_joinList (together : Bool) {parts : List String} (hcount : 2 ≤ parts.length)
    (h : ∀ part ∈ parts, Joinable part.toList) :
    ∃ e, splitList (joinList (conjunction together) parts).toList = some e ∧
      e.items = parts.map String.toList ∧
      e.separators = List.replicate (parts.length - 2) .comma ++ [lastSeparator together] ∧
      e.isMixed = false ∧ e.isCommaOnly = false ∧ e.isAnd = together := by
  have htext : (joinList (conjunction together) parts).toList =
      enumerate together (parts.map String.toList) := by
    rw [← toList_joinList, List.map_map]
    simp [Function.comp_def]
  have hparts : ∀ part ∈ parts.map String.toList, Fitting part :=
    List.forall_mem_map.2 fun part hpart => (h part hpart).fitting
  have hsplit := splitList_enumerate together (by simpa using hcount) hparts
  rw [List.length_map] at hsplit
  exact ⟨_, htext ▸ hsplit, rfl, rfl, kind_of_listSeparators together _ _⟩

/-- A list with quotes, brackets and a word that only ends like a separator. -/
theorem splitList_joinList_sand :
    (∀ part ∈ ["\"a, b\"", "\x7bx or y\x7d", "sand"], Joinable part.toList) ∧
      ∃ e, splitList "\"a, b\", \x7bx or y\x7d and sand".toList = some e ∧
        e.items = ["\"a, b\"".toList, "\x7bx or y\x7d".toList, "sand".toList] ∧
        e.separators = [.comma, .and] := by
  have hquoted : Joinable "\"a, b\"".toList :=
    ⟨by decide, by decide, by decide, ⟨_, by cbv, rfl⟩, by decide, by decide⟩
  have hbraced : Joinable "\x7bx or y\x7d".toList :=
    ⟨by decide, by decide, by decide, ⟨_, by cbv, rfl⟩, by decide, by decide⟩
  have hword : Joinable "sand".toList :=
    ⟨by decide, by decide, by decide, ⟨_, by cbv, rfl⟩, by decide, by decide⟩
  have hparts : ∀ part ∈ ["\"a, b\"", "\x7bx or y\x7d", "sand"], Joinable part.toList :=
    List.forall_mem_cons.2
      ⟨hquoted, List.forall_mem_cons.2 ⟨hbraced, List.forall_mem_singleton.2 hword⟩⟩
  obtain ⟨e, he, hitems, hseparators, -⟩ := splitList_joinList true (by decide) hparts
  exact ⟨hparts, e, he, hitems, hseparators⟩

/-! ### What splitting keeps -/

/-- Characters of no separator are kept by cutting, and no others come in. -/
theorem filter_cutList {p : Char → Bool} (hp : ∀ c, inSeparator c = true → p c = false)
    (depth : Int) (quoted : Bool) (piece cs : List Char) :
    (cutList depth quoted piece cs).1.flatten.filter p = (piece.reverse ++ cs).filter p := by
  fun_induction cutList depth quoted piece cs with
  | case1 depth quoted piece => simp
  | case2 depth piece c rest ih => rw [ih, List.reverse_cons, List.append_assoc]; rfl
  | case3 depth quoted piece c rest _ _ ih => rw [ih, List.reverse_cons, List.append_assoc]; rfl
  | case4 depth quoted piece c rest _ _ _ ih => rw [ih, List.reverse_cons, List.append_assoc]; rfl
  | case5 depth quoted piece c rest _ _ _ _ ih => rw [ih, List.reverse_cons, List.append_assoc]; rfl
  | case6 depth quoted piece c rest _ _ _ _ _ ih =>
    rw [ih, List.reverse_cons, List.append_assoc]
    rfl
  | case7 depth quoted piece c rest _ _ _ _ _ sep after hsep _ tail ih =>
    obtain ⟨mark, hsplit, hmark⟩ := separator?_eq_some_iff.1 hsep
    have hnone : mark.filter p = [] :=
      List.filter_eq_nil_iff.2 fun c hc => by simp [hp c (hmark.inSeparator c hc)]
    rw [hsplit, List.filter_append, List.filter_append, hnone, List.nil_append,
      List.flatten_cons, List.filter_append, ih]
    rfl
  | case8 depth quoted piece c rest _ _ _ _ _ _ ih =>
    rw [ih, List.reverse_cons, List.append_assoc]
    rfl

/-- Splitting a list loses separators and blanks only. -/
theorem filter_splitList {p : Char → Bool} (hp : ∀ c, inSeparator c = true → p c = false)
    (hblank : ∀ c, isBlank c = true → p c = false) {cs : List Char} {e : Enumeration}
    (h : splitList cs = some e) : e.items.flatten.filter p = cs.filter p := by
  rw [splitList] at h
  split at h
  · cases h
  · cases h
    have htrim : (cutList 0 false [] cs).1.map (List.filter p ∘ trim) =
        (cutList 0 false [] cs).1.map (List.filter p) :=
      List.map_congr_left fun item _ => filter_trim hblank item
    rw [List.filter_flatten, List.map_map, htrim, ← List.filter_flatten, filter_cutList hp]
    rfl

/-- The parts of a list are made of characters of the list. -/
theorem mem_of_mem_cutList {depth : Int} {quoted : Bool} {piece cs item : List Char}
    (hitem : item ∈ (cutList depth quoted piece cs).1) {c : Char} (hc : c ∈ item) :
    c ∈ piece ∨ c ∈ cs := by
  fun_induction cutList depth quoted piece cs with
  | case1 depth quoted piece =>
    rw [List.mem_singleton] at hitem
    exact .inl (List.mem_reverse.1 (hitem ▸ hc))
  | case7 depth quoted piece d rest _ _ _ _ _ sep after hsep _ tail ih =>
    rcases List.mem_cons.1 hitem with rfl | hitem
    · exact .inl (List.mem_reverse.1 hc)
    · obtain ⟨mark, hsplit, -⟩ := separator?_eq_some_iff.1 hsep
      rcases ih hitem with h | h
      · cases h
      · exact .inr (hsplit ▸ List.mem_append_right _ h)
  | _ => grind

theorem mem_of_mem_splitList {cs item : List Char} {e : Enumeration} (h : splitList cs = some e)
    (hitem : item ∈ e.items) {c : Char} (hc : c ∈ item) : c ∈ cs := by
  rw [splitList] at h
  split at h
  · cases h
  · cases h
    obtain ⟨piece, hpiece, rfl⟩ := List.mem_map.1 hitem
    exact (mem_of_mem_cutList hpiece (mem_of_mem_trim hc)).resolve_left (by simp)

end TriggerScript.Text

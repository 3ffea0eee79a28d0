import Mathlib
import TriggerScript.Proofs.Pattern.RoundTrip
import TriggerScript.Proofs.Pattern.Splits

/-!
# Patterns made of words

A source in which no character has a meaning of its own is compiled to its words in lower case, with
the blanks between them. Its own text is then matched word by word, and in one way only. The one
letter that gets in the way is the capital dotted I: it is lowered to two characters, and a text is
matched one character at a time.

* `signs` : the characters that mean something in a source.
* `Worded` : a text as words and blanks, with the parts of a pattern that stand for them.
* `Worded.reads`, `exists_compile_of_plain` : such a text is compiled to these parts.
* `afterLiteral?_lowered_word`, `Worded.run_eq` : matching the text with these parts.
* `splits_of_plain` : when a plain source matches itself, and how.
-/

namespace TriggerScript

namespace Text

/-- Only the capital dotted I has a lowercase of two characters. -/
theorem exists_lowerChar_eq {c : Char} (h : c ≠ 'İ') : ∃ d, lowerChar c = [d] := by
  have hdotted : (c == 'İ') = false := beq_eq_false_iff_ne.2 h
  unfold lowerChar
  split
  · exact ⟨_, rfl⟩
  · rw [hdotted, if_neg Bool.false_ne_true]
    split <;> exact ⟨_, rfl⟩

theorem sameLetter_lowerChar {c d : Char} (h : lowerChar c = [d]) : sameLetter c d = true := by
  have hd : lowerChar d = [d] := lowerChar_of_mem_lowerChar (h ▸ List.mem_singleton_self d)
  simp [sameLetter, h, hd]

end Text

namespace Cursor

/-- A word in lower case is found where the word itself stands, unless it has a dotted I. -/
theorem afterLiteral?_lowered_word {cs after : List Char} {cur : Cursor}
    (hrest : cur.rest = cs ++ after) :
    cur.afterLiteral? (cs.flatMap Text.lowerChar) =
      if 'İ' ∈ cs then none else some (cur.advance cs) := by
  induction cs generalizing cur with
  | nil => simp [afterLiteral?]
  | cons c cs ih =>
    rw [List.flatMap_cons]
    by_cases hc : c = 'İ'
    · subst hc
      have hlower : Text.lowerChar 'İ' = ['i', '\u0307'] := rfl
      have hdiffers : Text.sameLetter 'İ' 'i' = false := by decide
      simp [hlower, afterLiteral?, hrest, hdiffers]
    · obtain ⟨d, hd⟩ := Text.exists_lowerChar_eq hc
      rw [hd, List.singleton_append, afterLiteral?, hrest]
      simp only [List.cons_append, Text.sameLetter_lowerChar hd, if_true]
      rw [ih rfl, advance_cons hrest]
      simp [Ne.symm hc]

/-- Blanks are skipped where they stand. -/
theorem afterSpace?_blanks {cs after : List Char} {cur : Cursor} (hrest : cur.rest = cs ++ after)
    (hne : cs ≠ []) (hblank : ∀ c ∈ cs, Text.isBlank c = true)
    (hafter : ∀ c ∈ after.head?, Text.isBlank c = false) :
    cur.afterSpace? = some (cur.advance cs) :=
  afterSpace?_eq_some_iff.2
    ⟨cs, after, hrest, ⟨hblank, hafter, fun hnil => absurd hnil hne⟩, rfl⟩

end Cursor

namespace Pattern

/-! ### Words and blanks -/

/-- The characters that mean something in a source. -/
def signs : List Char := ['[', ']', '(', ')', '|', '%', '<', '\\']

/-- The part of a pattern that stands for blanks or for a word. -/
def part (blank : Bool) (cs : List Char) : Element :=
  if blank then .space else .literal (cs.flatMap Text.lowerChar)

/-- A text as words and blanks in turn, with the parts of a pattern that stand for them. -/
inductive Worded : List Char → List Element → Prop where
  | nil : Worded [] []
  | run {blank : Bool} {cs rest : List Char} {elements : List Element} (hne : cs ≠ [])
      (hcs : ∀ c ∈ cs, Text.isBlank c = blank)
      (hnext : ∀ c ∈ rest.head?, Text.isBlank c = !blank) (h : Worded rest elements) :
      Worded (cs ++ rest) (part blank cs :: elements)

/-- Every text is made of words and blanks. -/
theorem exists_worded (text : List Char) : ∃ elements, Worded text elements := by
  induction text with
  | nil => exact ⟨[], .nil⟩
  | cons c text ih =>
    obtain ⟨elements, h⟩ := ih
    have hown : ∀ d ∈ [c], Text.isBlank d = Text.isBlank c := by simp
    cases h with
    | nil =>
      have hfirst : Worded ([c] ++ []) _ := .run (List.cons_ne_nil c []) hown nofun .nil
      exact ⟨_, hfirst⟩
    | @run blank cs rest elements hne hcs hnext h =>
      by_cases hc : Text.isBlank c = blank
      · -- The character belongs to the first word or to the first blanks.
        have hall : ∀ d ∈ c :: cs, Text.isBlank d = blank := List.forall_mem_cons.2 ⟨hc, hcs⟩
        exact ⟨_, .run (List.cons_ne_nil c cs) hall hnext h⟩
      · refine ⟨_, .run (List.cons_ne_nil c []) hown ?_ (.run hne hcs hnext h)⟩
        obtain ⟨d, cs, rfl⟩ := List.exists_cons_of_ne_nil hne
        have hd := hcs d List.mem_cons_self
        simpa [hd] using (Bool.eq_not_of_ne (Ne.symm hc))

theorem normal_part {blank : Bool} {cs : List Char} (hne : cs ≠ []) : (part blank cs).Normal := by
  cases blank with
  | true => exact .space
  | false =>
    refine .literal ?_ fun d hd => ?_
    · obtain ⟨c, cs, rfl⟩ := List.exists_cons_of_ne_nil hne
      rw [List.flatMap_cons]
      exact List.append_ne_nil_of_left_ne_nil (Text.lowerChar_ne_nil c) _
    · obtain ⟨c, -, hd⟩ := List.mem_flatMap.1 hd
      exact Text.lowerChar_of_mem_lowerChar hd

theorem apart_part {blank : Bool} (cs cs' : List Char) :
    Apart (part blank cs) (part (!blank) cs') := by
  cases blank <;> trivial

theorem leaves_part (blank : Bool) (cs : List Char) : (part blank cs).leaves = [part blank cs] := by
  cases blank <;> rfl

namespace Worded

variable {text : List Char} {elements : List Element}

theorem ne_nil (h : Worded text elements) (hne : text ≠ []) : elements ≠ [] := by
  cases h with
  | nil => exact absurd rfl hne
  | run => exact List.cons_ne_nil _ _

/-- Words and blanks take turns. -/
theorem normal (h : Worded text elements) : ElementsNormal elements := by
  induction h with
  | nil => exact .nil
  | @run blank cs rest elements hne hcs hnext h ih =>
    refine ih.cons (normal_part hne) fun e he => ?_
    cases h with
    | nil => cases he
    | @run blank' cs' rest' _ hne' hcs' _ _ =>
      obtain rfl := Option.some.inj he
      obtain ⟨d, cs', rfl⟩ := List.exists_cons_of_ne_nil hne'
      obtain rfl : blank' = !blank := (hcs' d List.mem_cons_self).symm.trans (hnext d rfl)
      exact apart_part cs (d :: cs')

theorem leaves_eq (h : Worded text elements) : elementsLeaves elements = elements := by
  induction h with
  | nil => rfl
  | run _ _ _ _ ih => rw [elementsLeaves, leaves_part, ih, List.singleton_append]

/-- There are neither slots nor regular expressions among words and blanks. -/
theorem unnumbered (h : Worded text elements) :
    elements.filterMap (·.slot?) = [] ∧ elements.filterMap (·.regex?) = [] := by
  induction h with
  | nil => exact ⟨rfl, rfl⟩
  | @run blank cs rest elements hne hcs hnext h ih => cases blank <;> exact ih

/-- They make a pattern in normal form. -/
theorem normal_pattern (h : Worded text elements) (hne : text ≠ []) (source : String) :
    Pattern.Normal ⟨source, elements, [], []⟩ where
  ne_nil := h.ne_nil hne
  elements := h.normal
  slots := by rw [slotIndices, h.leaves_eq]; exact h.unnumbered.1
  regexes := by rw [regexIndices, h.leaves_eq]; exact h.unnumbered.2

end Worded

/-! ### Reading a plain source -/

section Reading

variable {types : TypeTable} {source : String}

theorem tokensFrom_char {c : Char} (hsign : c ∉ signs) (hblank : Text.isBlank c = false)
    (place : Nat) (rest : List Char) :
    tokensFrom place (c :: rest) = .char c :: tokensFrom (place + 1) rest := by
  simp only [signs, List.mem_cons, List.not_mem_nil, or_false, not_or] at hsign
  rw [tokensFrom.eq_def]
  simp [hsign, hblank]

theorem tokensFrom_word {cs : List Char} (hsigns : ∀ c ∈ cs, c ∉ signs)
    (hword : ∀ c ∈ cs, Text.isBlank c = false) (place : Nat) (tail : List Char) :
    tokensFrom place (cs ++ tail) = cs.map .char ++ tokensFrom (place + cs.length) tail := by
  induction cs generalizing place with
  | nil => rfl
  | cons c cs ih =>
    obtain ⟨hsign, hsigns⟩ := List.forall_mem_cons.1 hsigns
    obtain ⟨hc, hword⟩ := List.forall_mem_cons.1 hword
    rw [List.cons_append, tokensFrom_char hsign hc, ih hsigns hword, List.map_cons,
      List.cons_append, List.length_cons, Nat.add_assoc, Nat.add_comm 1]

variable {p : Pattern} {leaves before : List Element} {groups : List OpenGroup}

theorem reads_part {blank : Bool} {cs : List Char} (hsigns : ∀ c ∈ cs, c ∉ signs) (hne : cs ≠ [])
    (hcs : ∀ c ∈ cs, Text.isBlank c = blank)
    (hbefore : ∀ x ∈ before.head?, x.Normal ∧ Apart (part blank cs) x) :
    Reads types source (p.reached leaves groups before) cs
      (p.reached (leaves ++ [part blank cs]) groups (part blank cs :: before)) := by
  cases blank with
  | true => exact reads_space hne hcs hbefore
  | false =>
    have htokens : ∀ place tail, ∃ place',
        tokensFrom place (cs ++ tail) = cs.map .char ++ tokensFrom place' tail :=
      fun place tail => ⟨_, tokensFrom_word hsigns hcs place tail⟩
    exact reads_chars htokens fun x hx => (hbefore x hx).2

/-- The words and blanks of a plain text are put behind what was read before. -/
theorem Worded.reads {text : List Char} {elements : List Element} (h : Worded text elements)
    (hsigns : ∀ c ∈ text, c ∉ signs)
    (hbefore : ∀ x ∈ before.head?, x.Normal ∧ ∀ e ∈ elements.head?, Apart e x) :
    Reads types source (p.reached leaves groups before) text
      (p.reached (leaves ++ elements) groups (elements.reverse ++ before)) := by
  induction h generalizing leaves before with
  | nil =>
    rw [List.append_nil]
    exact Reads.nil
  | @run blank cs rest elements hne hcs hnext h ih =>
    obtain ⟨hfirst, hmore⟩ := List.forall_mem_append.1 hsigns
    have hapart := List.isChain_cons.1 (Worded.run hne hcs hnext h).normal.apart
    have hreads : Reads types source (p.reached leaves groups before) cs _ :=
      reads_part hfirst hne hcs fun x hx => ⟨(hbefore x hx).1, (hbefore x hx).2 _ rfl⟩
    have hstart : ∀ x ∈ (part blank cs :: before).head?,
        x.Normal ∧ ∀ e ∈ elements.head?, Apart e x := by
      intro x hx
      obtain rfl := Option.some.inj hx
      exact ⟨normal_part hne, fun e he => (hapart.1 e he).symm⟩
    have hothers : Reads types source
        (p.reached (leaves ++ [part blank cs]) groups (part blank cs :: before)) rest _ :=
      ih hmore hstart
    simpa using hreads.append hothers

/-- **A source without signs is compiled**, to its words and blanks. -/
theorem exists_compile_of_plain (types : TypeTable) {text : List Char} (hne : text ≠ [])
    (hsigns : ∀ c ∈ text, c ∉ signs) :
    ∃ elements, Worded text elements ∧ compile types (String.ofList text) =
      .ok ⟨String.ofList text, elements, [], []⟩ := by
  obtain ⟨elements, h⟩ := exists_worded text
  refine ⟨elements, h, compile_of_reads (h.normal_pattern hne (String.ofList text)) ?_⟩
  have hreads : Reads types (String.ofList text)
      (reached ⟨String.ofList text, elements, [], []⟩ [] [] []) text _ :=
    h.reads hsigns fun _ hx => by cases hx
  rw [List.nil_append, List.append_nil] at hreads
  change Reads types _ _ text (reached _ (elementsLeaves elements) [] elements.reverse)
  rwa [h.leaves_eq]

end Reading

/-! ### Matching the text of a plain source -/

/-- A word or blanks take themselves. -/
theorem run_part {p : Pattern} {σ : Type} {blank : Bool} {cs after : List Char} {cur : Cursor}
    (hrest : cur.rest = cs ++ after) (hne : cs ≠ []) (hcs : ∀ c ∈ cs, Text.isBlank c = blank)
    (hafter : ∀ c ∈ after.head?, Text.isBlank c = !blank) (split : Split) (next : Continue σ)
    (s : σ) : (part blank cs).run p cur split next s =
      if 'İ' ∈ cs then (false, s) else next (cur.advance cs) split s := by
  cases blank with
  | true =>
    have hdotted : 'İ' ∉ cs := fun h => absurd (hcs _ h) (by decide)
    rw [if_neg hdotted, part, if_pos rfl, Element.run,
      Cursor.afterSpace?_blanks hrest hne hcs hafter]
  | false =>
    rw [part, if_neg Bool.false_ne_true, Element.run, Cursor.afterLiteral?_lowered_word hrest]
    by_cases hdotted : 'İ' ∈ cs
    · rw [if_pos hdotted, if_pos hdotted]
    · rw [if_neg hdotted, if_neg hdotted]

/-- There is one way for a plain text to be matched by its own parts. -/
theorem Worded.run_eq {p : Pattern} {σ : Type} {text : List Char} {elements : List Element}
    (h : Worded text elements) {cur : Cursor} (hrest : cur.rest = text) (split : Split)
    (next : Continue σ) (s : σ) : runElements p elements cur split next s =
      if 'İ' ∈ text then (false, s) else next (cur.advance text) split s := by
  induction h generalizing cur with
  | nil => rfl
  | @run blank cs rest elements hne hcs hnext h ih =>
    rw [runElements, run_part hrest hne hcs hnext]
    by_cases hdotted : 'İ' ∈ cs
    · simp [hdotted]
    · rw [if_neg hdotted, ih (Cursor.rest_advance hrest), Cursor.advance_append]
      simp [hdotted]

/-- **A plain source matches itself unless it has a capital dotted I.** If no character of a source
has a meaning of its own, the source is compiled. Its own text is matched in one way, with the mark
zero; with a dotted I in it, which is lowered to two characters, it is not matched at all. -/
theorem splits_of_plain (types : TypeTable) {source : String} (hne : source.toList ≠ [])
    (hsigns : ∀ c ∈ source.toList, c ∉ signs) :
    ∃ p, compile types source = .ok p ∧
      p.splits source.toList = (if 'İ' ∈ source.toList then [] else [⟨0, [], []⟩]) ∧
      p.first? source.toList = (if 'İ' ∈ source.toList then none else some ⟨0, [], []⟩) := by
  obtain ⟨elements, h, hp⟩ := exists_compile_of_plain types hne hsigns
  rw [String.ofList_toList] at hp
  have hsplits : Pattern.splits ⟨source, elements, [], []⟩ source.toList =
      if 'İ' ∈ source.toList then [] else [⟨0, [], []⟩] := by
    rw [splits, offer, h.run_eq rfl]
    split
    · rfl
    · have hend : ((Cursor.start source.toList).advance source.toList).rest = [] :=
        Cursor.rest_advance (List.append_nil _).symm
      simp [hend, blankSplit]
  refine ⟨_, hp, hsplits, ?_⟩
  rw [first?_eq_head?, hsplits]
  split <;> rfl

/-- Words of two scripts, with a capital sharp s and a final sigma. -/
theorem splits_of_plain_street :
    "Große STRAẞE Ὀδός".toList ≠ [] ∧ (∀ c ∈ "Große STRAẞE Ὀδός".toList, c ∉ signs) ∧
    ∃ p, compile textTable "Große STRAẞE Ὀδός" = .ok p ∧
      p.splits "Große STRAẞE Ὀδός".toList = [⟨0, [], []⟩] ∧
      p.first? "Große STRAẞE Ὀδός".toList = some ⟨0, [], []⟩ := by
  have hne : "Große STRAẞE Ὀδός".toList ≠ [] := by decide
  have hsigns : ∀ c ∈ "Große STRAẞE Ὀδός".toList, c ∉ signs := by simp [signs]
  exact ⟨hne, hsigns, splits_of_plain textTable hne hsigns⟩

/-- The capital dotted I is a word of one letter and does not match itself; both of its lowercases
in a row do. -/
theorem not_splits_dottedI :
    (∀ c ∈ "İ".toList, c ∉ signs ∧ Text.isBlank c = false) ∧
    ∃ p, compile textTable "İ" = .ok p ∧ p.splits "İ".toList = [] ∧ p.first? "İ".toList = none ∧
      p.splits "i\u0307".toList = [⟨0, [], []⟩] := by
  refine ⟨by simp [signs, Text.isBlank], ⟨"İ", [.literal ['i', '\u0307']], [], []⟩, ?_⟩
  refine ⟨?_, ?_, ?_, ?_⟩ <;> cbv

end Pattern

end TriggerScript

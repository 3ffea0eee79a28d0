import TriggerScript.Proofs.Vocabulary.Spellings
import TriggerScript.Proofs.Vocabulary.LoopNumbers
import TriggerScript.Proofs.Text.Parts

/-!
# Values with something behind them

What stands in a list or in front of a word is no single value together with what stands behind it,
unless it is a range: no name of a type, no literal and no variable goes on with a comma or a word.

* `Ragged` : a text with a comma in it or a word behind a blank.
* `Lone` : a single value that is written down and is no range.
* `Trails` : what stands behind a part of a list, and in front of the word of a pattern.
* `result_parseSingle_of_trails` : a single value does not go on.
-/

namespace TriggerScript

namespace Text

variable {cs before rest : List Char}

/-! ### Ragged texts -/

/-- A text with a comma in it, or with a word behind a blank that is not at the front. -/
inductive Ragged : List Char → Prop
  | comma {cs : List Char} (h : ',' ∈ cs) : Ragged cs
  | word {before rest : List Char} {c : Char} (hbefore : ∃ b ∈ before, isBlank b = false)
    (hc : c.isLower = true) : Ragged (before ++ ' ' :: c :: rest)

theorem not_isBlank_of_isLower {c : Char} (h : c.isLower = true) : isBlank c = false := by
  rw [Bool.eq_false_iff]
  intro hblank
  have := not_isAlpha_of_isBlank hblank
  rw [Char.isAlpha, h, Bool.or_true] at this
  cases this

namespace Ragged

theorem exists_mem (h : Ragged cs) : ∃ c ∈ cs, c = ',' ∨ c = ' ' := by
  cases h with
  | comma h => exact ⟨_, h, .inl rfl⟩
  | word _ _ => exact ⟨' ', by simp, .inr rfl⟩

/-- What two ways to split a text have in common: something that stands in no part that was cut off
stands in the part that is left. -/
theorem of_split {front middle back : List Char} (hfront : ∀ c ∈ front, isBlank c = true)
    (hback : ∀ c ∈ back, isBlank c = true ∨ c.isLower = false) (h : Ragged (front ++ middle ++ back))
    (hcomma : ',' ∉ back) : Ragged middle := by
  generalize hsplit : front ++ middle ++ back = whole at h
  cases h with
  | comma h =>
    rw [← hsplit, List.mem_append, List.mem_append] at h
    rcases h with (h | h) | h
    · exact absurd (hfront _ h) (by decide)
    · exact .comma h
    · exact absurd h hcomma
  | @word before rest c hbefore hc =>
    obtain ⟨b, hb, hblank⟩ := hbefore
    have hlower : c ∉ back := by
      intro hmem
      rcases hback c hmem with h | h
      · rw [not_isBlank_of_isLower hc] at h
        cases h
      · rw [hc] at h
        cases h
    rw [List.append_assoc] at hsplit
    -- What is cut off at the front ends before the first thing that is not blank.
    rcases List.append_eq_append_iff.1 hsplit with ⟨inside, rfl, hrest⟩ | ⟨inside, rfl, hrest⟩
    · have hinside : ∃ b ∈ inside, isBlank b = false := by
        rcases List.mem_append.1 hb with h | h
        · rw [hfront b h] at hblank
          cases hblank
        · exact ⟨b, h, hblank⟩
      rcases List.append_eq_append_iff.1 hrest with ⟨more, rfl, hback'⟩ | ⟨more, rfl, hback'⟩
      · exact absurd (by rw [hback']; simp) hlower
      · match more, hback' with
        | [], hback' => exact absurd (by rw [← List.nil_append back, ← hback']; simp) hlower
        | [d], hback' =>
          simp only [List.cons_append, List.nil_append, List.cons.injEq] at hback'
          exact absurd (by rw [← hback'.2]; simp) hlower
        | d :: e :: more, hback' =>
          simp only [List.cons_append, List.cons.injEq] at hback'
          obtain ⟨rfl, rfl, -⟩ := hback'
          exact .word hinside hc
    · have := hfront b (by simp [hb])
      rw [hblank] at this
      cases this

theorem trim (h : Ragged cs) : Ragged (Text.trim cs) := by
  obtain ⟨front, back, hfront, hback, heq⟩ := exists_of_trim cs
  rw [heq] at h
  exact h.of_split hfront (fun c hc => .inl (hback c hc)) fun hmem => absurd (hback _ hmem) (by decide)

/-- A number behind a hyphen does not make a text ragged. -/
theorem of_numbered {base ds : List Char} (h : Ragged (base ++ '-' :: ds))
    (hds : ∀ c ∈ ds, c.isDigit = true) : Ragged base := by
  have hback : ∀ c ∈ '-' :: ds, c.isLower = false ∧ c ≠ ',' := by
    refine List.forall_mem_cons.2 ⟨by decide, fun c hc => ⟨?_, ?_⟩⟩
    · rw [Bool.eq_false_iff]
      intro hlower
      have := hds c hc
      rw [(basic_of_isLower hlower).2.2] at this
      cases this
    · rintro rfl
      exact absurd (hds _ hc) (by decide)
  refine of_split (show ∀ c ∈ [], isBlank c = true by simp)
    (fun c hc => .inr (hback c hc).1) (by simpa using h)
    fun hmem => (hback _ hmem).2 rfl

/-- The lowercase of a text in two parts. -/
theorem exists_lowerAfter_append (before xs ys : List Char) : ∃ made,
    lowerAfter before (xs ++ ys) = made ++ lowerAfter (xs.reverse ++ before) ys ∧
      ((∃ x ∈ xs, isBlank x = false) → ∃ x ∈ made, isBlank x = false) := by
  induction xs generalizing before with
  | nil => exact ⟨[], rfl, by simp⟩
  | cons c xs ih =>
    obtain ⟨made, hne, heq, hmade⟩ := lowerAfter_cons before c (xs ++ ys)
    obtain ⟨more, hmore, hblank⟩ := ih (c :: before)
    refine ⟨made ++ more, ?_, ?_⟩
    · rw [List.cons_append, heq, hmore, List.append_assoc]
      simp
    · rintro ⟨x, hx, hxblank⟩
      rcases List.mem_cons.1 hx with rfl | hx
      · obtain ⟨y, hy⟩ := List.exists_mem_of_ne_nil made hne
        refine ⟨y, List.mem_append_left _ hy, ?_⟩
        rcases hmade with rfl | ⟨-, z, rfl, -, hz⟩
        · rw [Bool.eq_false_iff]
          intro hyblank
          rw [eq_of_isBlank_mem_lowerChar hy hyblank, hxblank] at hyblank
          cases hyblank
        · rwa [List.mem_singleton.1 hy]
      · obtain ⟨y, hy, hyblank⟩ := hblank ⟨x, hx, hxblank⟩
        exact ⟨y, List.mem_append_right _ hy, hyblank⟩

theorem lower (h : Ragged cs) : Ragged (Text.lower cs) := by
  cases h with
  | comma h =>
    exact .comma (mem_lowerAfter_of_settled h (settled_of_basic (by decide) (by decide)))
  | @word before rest c hbefore hc =>
    obtain ⟨made, hmade, hblank⟩ := exists_lowerAfter_append [] before (' ' :: c :: rest)
    have hbasic := basic_of_isLower hc
    have hsettled : ∀ d ∈ [' ', c], Settled d := by
      simp only [List.forall_mem_cons, List.not_mem_nil, false_implies, implies_true, and_true]
      exact ⟨settled_of_basic (by decide) (by decide), settled_of_basic hbasic.1 hbasic.2.1⟩
    rw [Text.lower, hmade, show ' ' :: c :: rest = [' ', c] ++ rest from rfl,
      lowerAfter_append_of_settled hsettled]
    exact .word (hblank hbefore) hc

end Ragged

end Text

namespace Vocabulary

open Pattern Text

variable {text : String} {cs rest : List Char}

/-! ### Names and literals -/

/-- What a plain number is made of. -/
theorem mem_of_isUnsignedNumber {c : Char} (h : isUnsignedNumber cs = true) (hc : c ∈ cs) :
    c.isDigit = true ∨ c = '.' := by
  rw [isUnsignedNumber, Bool.and_eq_true] at h
  have hdigits {ds : List Char} (hds : isDigits ds = true) (hmem : c ∈ ds) : c.isDigit = true :=
    List.all_eq_true.1 (Bool.and_eq_true_iff.1 hds).2 _ hmem
  rw [← List.takeWhile_append_dropWhile (p := (· != '.')) (l := cs), List.mem_append] at hc
  rcases hc with hc | hc
  · exact .inl (hdigits h.1 hc)
  · have hfraction := h.2
    split at hfraction
    · next hnil =>
      rw [hnil] at hc
      cases hc
    · next d fraction hcons =>
      rw [hcons] at hc
      rcases List.mem_cons.1 hc with rfl | hc
      · have := List.head?_dropWhile_not (· != '.') cs
        rw [hcons] at this
        exact .inr (by simpa using this)
      · exact .inl (hdigits hfraction hc)

theorem mem_of_isPlainNumber {c : Char} (h : isPlainNumber cs = true) (hc : c ∈ cs) :
    c.isDigit = true ∨ c = '.' ∨ c = '-' := by
  unfold isPlainNumber at h
  split at h
  · rcases List.mem_cons.1 hc with rfl | hc
    · exact .inr (.inr rfl)
    · exact (mem_of_isUnsignedNumber h hc).imp_right .inl
  · exact (mem_of_isUnsignedNumber h hc).imp_right .inl

theorem plain_of_isDigit {c : Char} (h : c.isDigit = true) :
    isBlank c = false ∧ isMark c = false := by
  refine ⟨not_isBlank_of_isDigit h, ?_⟩
  rw [Bool.eq_false_iff]
  intro hmark
  simp only [isMark, Bool.or_eq_true, beq_iff_eq] at hmark
  rcases hmark with (rfl | rfl) | rfl <;> exact absurd h (by decide)

theorem plain_of_isPlainNumber {cs : List Char} (h : isPlainNumber cs = true) :
    ∀ c ∈ cs, isBlank c = false ∧ isMark c = false := by
  intro c hc
  rcases mem_of_isPlainNumber h hc with hdigit | rfl | rfl
  · exact plain_of_isDigit hdigit
  · decide
  · decide

theorem trimmed_of_plain {cs : List Char} (h : ∀ c ∈ cs, isBlank c = false ∧ isMark c = false) :
    Trimmed cs :=
  ⟨fun c hc => (h c (List.mem_of_head? hc)).1, fun c hc => (h c (List.mem_of_getLast? hc)).1⟩

theorem isPlainNumber_of_ragged (h : Ragged cs) : isPlainNumber cs = false := by
  obtain ⟨c, hc, hcases⟩ := h.exists_mem
  rw [Bool.eq_false_iff]
  intro hplain
  rcases mem_of_isPlainNumber hplain hc with h | h
  · rcases hcases with rfl | rfl <;> exact absurd h (by decide)
  · rcases hcases with rfl | rfl <;> exact absurd h (by decide)

theorem ragged_lowerString_trimString (h : Ragged text.toList) :
    Ragged (lowerString (trimString text)).toList := by
  rw [lowerString, trimString, String.toList_ofList, String.toList_ofList]
  exact h.trim.lower

/-- No type has a ragged name. -/
theorem lookup?_of_ragged (h : Ragged text.toList) : builtInTypes.lookup? text = none := by
  have hnames : ∀ info ∈ builtInTypes.infos,
      (lowerString info.singular).toList.all (fun c => c != ',' && c != ' ') = true ∧
        (lowerString info.plural).toList.all (fun c => c != ',' && c != ' ') = true := by
    decide +kernel
  obtain ⟨c, hc, hcases⟩ := (ragged_lowerString_trimString h).exists_mem
  rw [TypeTable.lookup?, TypeTable.byName?, List.findSome?_eq_none_iff]
  intro info hinfo
  obtain ⟨hsingular, hplural⟩ := hnames info hinfo
  rw [Option.map_eq_none_iff, TypeInfo.answersTo?]
  have hne {word : String} (hword : word.toList.all (fun c => c != ',' && c != ' ') = true) :
      (word == lowerString (trimString text)) = false := by
    rw [beq_eq_false_iff_ne]
    rintro rfl
    have := List.all_eq_true.1 hword c hc
    rcases hcases with rfl | rfl <;> cases this
  rw [hne hsingular, hne hplural]
  rfl

/-- A text that is no truth value and no number is no literal. -/
theorem readLiteral?_eq_none (hboolean : readBoolean? text = none) (hnumber : readNumber? text = none)
    (code : String) : builtInTypes.readLiteral? code text = none := by
  have hread : ∀ info ∈ builtInTypes.infos, info.read? text = none := by
    simp [builtInTypes, objects, booleans, numbers, texts, TypeInfo.named, TypeInfo.read?, hboolean,
      hnumber]
  have hnone (keep : TypeInfo → Bool) :
      (builtInTypes.infos.findSome? fun info => if keep info then info.read? text else none) =
        none := by
    refine List.findSome?_eq_none_iff.2 fun info hinfo => ?_
    rw [hread info hinfo, ite_self]
  unfold TypeTable.readLiteral?
  split
  · exact List.findSome?_eq_none_iff.2 hread
  · rw [Option.bind_eq_none_iff]
    intro info hinfo
    rw [hread info (List.mem_of_find?_eq_some hinfo), Option.none_or]
    exact hnone _

/-- No literal is ragged. -/
theorem readLiteral?_of_ragged (h : Ragged text.toList) (code : String) :
    builtInTypes.readLiteral? code text = none := by
  refine readLiteral?_eq_none ?_ ?_ code
  · obtain ⟨c, hc, hcases⟩ := (ragged_lowerString_trimString h).exists_mem
    have hwords : ∀ word ∈ ["true", "yes", "on", "false", "no", "off"],
        word ≠ lowerString (trimString text) := by
      rintro word hword rfl
      have hplain : ∀ word ∈ ["true", "yes", "on", "false", "no", "off"],
          word.toList.all (fun c => c != ',' && c != ' ') = true := by
        decide
      have := List.all_eq_true.1 (hplain _ hword) c hc
      rcases hcases with rfl | rfl <;> cases this
    simp only [List.forall_mem_cons, ne_eq, @eq_comm _ _ (lowerString _)] at hwords
    simp [readBoolean?, hwords]
  · rw [readNumber?, isPlainNumber_of_ragged h.trim]
    rfl

end Vocabulary

/-! ### Single values that are written down -/

open Text Vocabulary

/-- A single value as it is written down, if it is no range. -/
inductive Lone : List Char → Prop
  | quoted {content : List Char} (h : quoteScan .outside content = some .outside) :
    Lone ('"' :: content ++ ['"'])
  | number {cs : List Char} (h : isPlainNumber cs = true) : Lone cs
  | truth (b : Bool) : Lone (Value.boolText b).toList
  | named {name : List Char} (h : braceDepth? 0 name = some 0) : Lone (braced name)
  | loop {name : List Char} (h : ∃ c ∈ name, isBlank c = false) :
    Lone (['l', 'o', 'o', 'p', '-'] ++ name)
  | event {name : List Char} (h : ∃ c ∈ name, isBlank c = false) :
    Lone (['e', 'v', 'e', 'n', 't', '-'] ++ name)

/-- What stands behind a part of a list, or in front of the word of a pattern. -/
def Trails (tail : List Char) : Prop :=
  (∃ rest, tail = ',' :: rest) ∨ ∃ c rest, tail = ' ' :: c :: rest ∧ c.isLower = true

theorem Trails.exists_concat {tail : List Char} (h : Trails tail) : ∃ cs c, tail = cs ++ [c] := by
  have hne : tail ≠ [] := by
    rcases h with ⟨rest, rfl⟩ | ⟨c, rest, rfl, -⟩ <;> simp
  exact ⟨tail.dropLast, tail.getLast hne, (List.dropLast_append_getLast hne).symm⟩

theorem leads_of_isPlainNumber {cs : List Char} (h : isPlainNumber cs = true) :
    leads cs = true := by
  cases cs with
  | nil => cases h
  | cons c cs =>
    by_cases hminus : c = '-'
    · simp [leads, hminus]
    · have hunsigned : isUnsignedNumber (c :: cs) = true := by
        rw [isPlainNumber.eq_def] at h
        split at h
        · next heq =>
          cases heq
          exact absurd rfl hminus
        · exact h
      rw [isUnsignedNumber, Bool.and_eq_true] at hunsigned
      have hdigits := hunsigned.1
      by_cases hpoint : c = '.'
      · subst hpoint
        simp [isDigits] at hdigits
      · have hdigit : c.isDigit = true := by
          rw [List.takeWhile_cons_of_pos (by simpa using hpoint), isDigits] at hdigits
          simp only [List.isEmpty_cons, Bool.not_false, Bool.true_and, List.all_cons,
            Bool.and_eq_true] at hdigits
          exact hdigits.1
        simp [leads, hdigit]

namespace Lone

variable {part tail : List Char}

theorem leads (h : Lone part) : Text.leads part = true := by
  cases h with
  | number h => exact leads_of_isPlainNumber h
  | truth b => cases b <;> rfl
  | _ => rfl

theorem head?_append (h : Lone part) (tail : List Char) :
    (part ++ tail).head? = part.head? := by
  cases part with
  | nil => cases h.leads
  | cons c part => rfl

theorem exists_not_isBlank (h : Lone part) : ∃ c ∈ part, isBlank c = false := by
  cases part with
  | nil => cases h.leads
  | cons c part => exact ⟨c, List.mem_cons_self, (toLower_of_leads h.leads).2.2.1⟩

/-- By its first letter a value of a loop or of an event is told, and nothing else. -/
theorem exists_of_head? {c : Char} (h : Lone part) (hc : part.head? = some c)
    (hletter : c = 'l' ∨ c = 'e' ∨ c = 'n') : ∃ name, (∃ c ∈ name, isBlank c = false) ∧
      (c = 'l' ∧ part = ['l', 'o', 'o', 'p', '-'] ++ name ∨
        c = 'e' ∧ part = ['e', 'v', 'e', 'n', 't', '-'] ++ name) := by
  cases h with
  | quoted _ | named _ => cases hc; simp at hletter
  | truth b =>
    have hhead : c = 't' ∨ c = 'f' := by
      cases b
      · exact .inr (Option.some.inj hc).symm
      · exact .inl (Option.some.inj hc).symm
    rcases hhead with rfl | rfl <;> simp at hletter
  | number hnumber =>
    rcases mem_of_isPlainNumber hnumber (List.mem_of_head? hc) with h | h | h <;>
      rcases hletter with rfl | rfl | rfl <;> exact absurd h (by decide)
  | loop h =>
    cases hc
    exact ⟨_, h, .inl ⟨rfl, rfl⟩⟩
  | event h =>
    cases hc
    exact ⟨_, h, .inr ⟨rfl, rfl⟩⟩

/-- By a quote or a brace a quoted text or a variable is told. -/
theorem cases_of_head? {c : Char} (h : Lone part) (hc : part.head? = some c)
    (hmark : c = '"' ∨ c = '{') :
    (c = '"' ∧ ∃ content, quoteScan .outside content = some .outside ∧
        part = '"' :: content ++ ['"']) ∨
      c = '{' ∧ ∃ name, braceDepth? 0 name = some 0 ∧ part = braced name := by
  cases h with
  | quoted h =>
    cases hc
    exact .inl ⟨rfl, _, h, rfl⟩
  | named h =>
    cases hc
    exact .inr ⟨rfl, _, h, rfl⟩
  | loop _ | event _ => cases hc; simp at hmark
  | truth b => rcases hmark with rfl | rfl <;> cases b <;> cases hc
  | number hnumber =>
    rcases mem_of_isPlainNumber hnumber (List.mem_of_head? hc) with h | h | h <;>
      rcases hmark with rfl | rfl <;> exact absurd h (by decide)

theorem ragged_append (h : Lone part) (htail : Trails tail) : Ragged (part ++ tail) := by
  rcases htail with ⟨rest, rfl⟩ | ⟨c, rest, rfl, hc⟩
  · exact .comma (by simp)
  · exact .word h.exists_not_isBlank hc

end Lone

theorem ragged_append_of_mem {name tail : List Char} (h : ∃ c ∈ name, isBlank c = false)
    (htail : Trails tail) : Ragged (name ++ tail) := by
  rcases htail with ⟨rest, rfl⟩ | ⟨c, rest, rfl, hc⟩
  · exact .comma (by simp)
  · exact .word h hc

theorem braceDepth?_append (depth : Nat) (xs ys : List Char) : braceDepth? depth (xs ++ ys) =
    (braceDepth? depth xs).bind fun depth => braceDepth? depth ys := by
  induction xs generalizing depth with
  | nil => rfl
  | cons c xs ih =>
    simp only [List.cons_append, braceDepth?]
    split
    · exact ih _
    · split
      · cases depth with
        | zero => rfl
        | succ depth => exact ih _
      · exact ih _

namespace Parsing

variable {registry : Registry} {word : Regex} {scope : Scope} {read : Reader} {text : String}
  {slot : Slot} {part tail : List Char}

/-! ### What does not go on -/

/-- An element does not read a text if no way to match it is accepted. -/
theorem result_matchElement_eq_none {α : Type} {setup : Scope → Capture → Setup α}
    {patterns : List Pattern}
    (h : ∀ p ∈ patterns, ∀ index, ∀ split ∈ p.splits text.toList, ∀ parts,
      (parseSlots read scope p.slots split.spans).result = some parts →
      (runSetup read scope.location (setup scope (capture index split parts))).result = none) :
    (matchElement read scope setup patterns text).result = none := by
  rw [matchElement, result_firstOf, List.findSome?_eq_none_iff]
  rintro ⟨index, p⟩ hmem
  obtain ⟨⟨p', index'⟩, hzip, heq⟩ := List.mem_map.1 hmem
  cases heq
  have hp : p' ∈ patterns := (List.mem_zipIdx' hzip).2 ▸ List.getElem_mem _
  rw [result_bind, result_matchPattern_eq, Option.bind_eq_none_iff]
  intro c hc
  obtain ⟨split, hsplit, hc⟩ := List.exists_of_findSome?_eq_some hc
  obtain ⟨parts, hparts, rfl⟩ := Option.map_eq_some_iff.1 hc
  exact h p' hp index' split hsplit parts hparts

theorem result_tryEntry_eq_none {entry : ExpressionEntry Pattern}
    (h : (matchElement read scope entry.setup entry.patterns text).result = none) :
    (tryEntry read scope text slot entry).result = none := by
  unfold tryEntry
  split
  · rfl
  · rw [result_bind, h]
    rfl

theorem head?_regexes_capture {index : Nat} {name : List Char} {parts : List (Option Expression)} :
    (capture index ⟨0, [], [some name]⟩ parts).regexes.head? = some (String.ofList name) := rfl

/-- A name without its number, or the name itself. -/
theorem loopNumber_cases (name : List Char) : loopNumber name = (name, none) ∨
    ∃ base ds index, name = base ++ '-' :: ds ∧ Text.isDigits ds = true ∧
      loopNumber name = (base, index) := by
  unfold loopNumber
  split
  · next base ds hcut =>
    split
    · next hds =>
      obtain ⟨⟨xs, ys⟩, hfirst, heq⟩ := Option.map_eq_some_iff.1 hcut
      cases heq
      obtain ⟨hname, -⟩ := Text.cutAt?_eq_some_iff.1 hfirst
      refine .inr ⟨_, _, _, ?_, hds, rfl⟩
      have := congrArg List.reverse hname
      simpa using this
    · exact .inl rfl
  · exact .inl rfl

/-- Loops have no ragged names. -/
theorem result_loopValue_of_ragged {c : Capture} {name : String}
    (htypes : scope.system.types = builtInTypes) (hname : c.regexes.head? = some name)
    (h : Ragged name.toList) : (runSetup read scope.location (loopValue scope c)).result = none := by
  have hragged : Ragged (Text.lower (Text.trim name.toList)) := h.trim.lower
  obtain ⟨base, index, hnumber, hbase⟩ : ∃ base index,
      loopNumber (Text.lower (Text.trim name.toList)) = (base, index) ∧ Ragged base := by
    rcases loopNumber_cases (Text.lower (Text.trim name.toList)) with h | ⟨base, ds, index, h, hds, h'⟩
    · exact ⟨_, _, h, hragged⟩
    · rw [h] at hragged
      exact ⟨base, index, h', hragged.of_numbered
        (List.all_eq_true.1 (Bool.and_eq_true_iff.1 hds).2)⟩
  have hvalue : (String.ofList base == "value") = false := by
    rw [beq_eq_false_iff_ne]
    intro heq
    obtain ⟨c, hc, hcases⟩ := hbase.exists_mem
    have := congrArg String.toList heq
    rw [String.toList_ofList] at this
    rw [this] at hc
    rcases hcases with rfl | rfl <;> exact absurd hc (by decide)
  rw [loopValue, hname]
  simp only [hnumber, hvalue, htypes, lookup?_of_ragged
    (show Ragged (String.ofList base).toList by rwa [String.toList_ofList])]
  rfl

/-- Values of events have no ragged names. -/
theorem result_eventValue_of_ragged {c : Capture} {name : String}
    (htypes : scope.system.types = builtInTypes) (hname : c.regexes.head? = some name)
    (h : Ragged name.toList) :
    (runSetup read scope.location (eventValue scope c)).result = none := by
  rw [eventValue, hname]
  simp only [htypes, lookup?_of_ragged h]
  rfl

theorem result_namedVariable_of_unbalanced {c : Capture} {name : List Char}
    (hname : c.regexes.head? = some (String.ofList name)) (h : braceDepth? 0 name = none) :
    (runSetup read scope.location (namedVariable scope c)).result = none := by
  rw [namedVariable, hname]
  simp only [variableName, String.toList_ofList, h]
  rfl

/-- The first letter of what is written down is the first one of a word that it begins with. -/
theorem head?_of_forall₂ {cs front name : List Char} {letter : Char} {word : List Char}
    (hleads : leads cs = true) (hsplit : cs = front ++ name)
    (hletter : letter.toNat < 128 ∧ letter.toLower = letter)
    (hfront : List.Forall₂ (fun c expected => sameLetter c expected = true) front (letter :: word)) :
    cs.head? = some letter := by
  subst hsplit
  cases hfront with
  | @cons c _ front _ hc _ =>
    have hbasic := toLower_of_leads hleads
    rw [eq_of_sameLetter hc ⟨hbasic.1, hbasic.2.1⟩ hletter]
    rfl

theorem ragged_of_named {front name : List Char} (hpart : Lone part) (htail : Trails tail)
    (hsplit : part ++ tail = front ++ name)
    (hfront : List.Forall₂ (fun c expected => sameLetter c expected = true) front
        ['l', 'o', 'o', 'p', '-'] ∨
      List.Forall₂ (fun c expected => sameLetter c expected = true) front
        ['e', 'v', 'e', 'n', 't', '-']) : Ragged name := by
  rcases hfront with hfront | hfront
  · have hhead := head?_of_forall₂ (leads_append hpart.leads) hsplit (by decide) hfront
    rw [hpart.head?_append] at hhead
    obtain ⟨name', hname', ⟨-, rfl⟩ | ⟨h, -⟩⟩ := hpart.exists_of_head? hhead (by simp)
    · rw [List.append_assoc] at hsplit
      rw [← (List.append_inj hsplit hfront.length_eq.symm).2]
      exact ragged_append_of_mem hname' htail
    · cases h
  · have hhead := head?_of_forall₂ (leads_append hpart.leads) hsplit (by decide) hfront
    rw [hpart.head?_append] at hhead
    obtain ⟨name', hname', ⟨h, -⟩ | ⟨-, rfl⟩⟩ := hpart.exists_of_head? hhead (by simp)
    · cases h
    · rw [List.append_assoc] at hsplit
      rw [← (List.append_inj hsplit hfront.length_eq.symm).2]
      exact ragged_append_of_mem hname' htail

/-- What stands between the first brace and the last one has a brace too many. -/
theorem braceDepth?_of_trails {name : List Char} (hpart : Lone part) (htail : Trails tail)
    (h : part ++ tail = braced name) : braceDepth? 0 name = none := by
  obtain ⟨cs, c, rfl⟩ := htail.exists_concat
  have hhead : part.head? = some '{' := by
    rw [← hpart.head?_append, h]
    rfl
  obtain ⟨hquote, -⟩ | ⟨-, inside, hinside, rfl⟩ := hpart.cases_of_head? hhead (.inr rfl)
  · cases hquote
  · rw [braced, braced, List.cons_append, List.cons_append, List.cons_append, List.cons.injEq,
      ← List.append_assoc] at h
    rw [← (List.append_inj' h.2 rfl).1, List.append_assoc, braceDepth?_append, hinside]
    rfl

/-- Behind the quotes of a quoted text nothing may follow. -/
theorem unquote_of_trails (hpart : Lone part) (htail : Trails tail) :
    unquote (part ++ tail) = none := by
  rw [Option.eq_none_iff_forall_ne_some]
  intro content h
  obtain ⟨h, hscan⟩ := unquote_eq_some_iff.1 h
  have hhead : part.head? = some '"' := by
    rw [← hpart.head?_append, h]
    rfl
  obtain ⟨-, content', hcontent, rfl⟩ | ⟨hbrace, -⟩ := hpart.cases_of_head? hhead (.inl rfl)
  · obtain ⟨cs, c, rfl⟩ := htail.exists_concat
    rw [List.cons_append, List.cons_append, List.cons_append, List.cons.injEq, ← List.append_assoc] at h
    rw [← (List.append_inj' h.2 rfl).1, List.append_assoc, quoteScan_append, hcontent,
      Option.bind_some] at hscan
    -- The quote is closed, and what stands behind it does not open another one.
    have hhalf : quoteScan .half cs = some .outside := hscan
    cases cs with
    | nil => cases hhalf
    | cons d cs =>
      have hd : d ≠ '"' := by
        rcases htail with ⟨rest, hrest⟩ | ⟨_, rest, hrest, -⟩ <;>
          rw [List.cons_append, List.cons.injEq] at hrest <;> rw [hrest.1] <;> decide
      rw [quoteScan_cons, QuoteState.next?, if_neg hd] at hhalf
      cases hhalf
  · cases hbrace

/-- Nothing that is written down as a single value is found in front of something else by a
registered expression. -/
theorem result_tryEntry_of_trails (htypes : scope.system.types = builtInTypes) (hpart : Lone part)
    (htail : Trails tail) (htext : text.toList = part ++ tail) {entry : ExpressionEntry Pattern}
    (hentry : entry ∈ [variableEntry, loopEntry, eventEntry word, rangeEntry]) :
    (tryEntry read scope text slot entry).result = none := by
  have hleads : leads text.toList = true := htext ▸ leads_append hpart.leads
  have hragged : Ragged text.toList := htext ▸ hpart.ragged_append htail
  refine result_tryEntry_eq_none (result_matchElement_eq_none ?_)
  simp only [List.mem_cons, List.not_mem_nil, or_false] at hentry
  rcases hentry with rfl | rfl | rfl | rfl
  · intro p hp index split hsplit parts _
    obtain rfl := List.mem_singleton.1 hp
    obtain ⟨name, -, hbraced, rfl⟩ := exists_of_mem_splits_variable hsplit
    rw [show variableEntry.setup = namedVariable from rfl]
    exact result_namedVariable_of_unbalanced head?_regexes_capture
      (braceDepth?_of_trails hpart htail (htext.symm.trans hbraced))
  · intro p hp index split hsplit parts _
    obtain rfl := List.mem_singleton.1 hp
    obtain ⟨front, name, hname, -, -, -, rfl, hfront⟩ :=
      exists_of_mem_splits_loop hsplit
    have hname' := ragged_of_named hpart htail (htext.symm.trans hname) (.inl (hfront hleads))
    rw [show loopEntry.setup = loopValue from rfl]
    exact result_loopValue_of_ragged htypes head?_regexes_capture (by rwa [String.toList_ofList])
  · intro p hp index split hsplit parts _
    simp only [eventEntry, List.mem_cons, List.not_mem_nil, or_false] at hp
    rcases hp with rfl | rfl
    · obtain ⟨front, name, hname, -, -, -, rfl, hfront⟩ :=
        exists_of_mem_splits_event hsplit
      have hname' := ragged_of_named hpart htail (htext.symm.trans hname) (.inr (hfront hleads))
      rw [show (eventEntry word).setup = eventValue from rfl]
      exact result_eventValue_of_ragged htypes head?_regexes_capture (by rwa [String.toList_ofList])
    · obtain ⟨front, name, hname, -, rfl, hfront⟩ := exists_of_mem_splits_bare hsplit
      rw [hfront hleads, List.nil_append] at hname
      rw [show (eventEntry word).setup = eventValue from rfl]
      exact result_eventValue_of_ragged htypes head?_regexes_capture
        (by rwa [String.toList_ofList, ← hname])
  · intro p hp index split hsplit parts _
    obtain rfl := List.mem_singleton.1 hp
    obtain ⟨front, hfront, rest, hrest⟩ := exists_numbers_of_mem_splits_range hleads hsplit
    have hhead := head?_of_forall₂ hleads hrest (by decide) hfront
    rw [htext, hpart.head?_append] at hhead
    obtain ⟨_, -, ⟨h, -⟩ | ⟨h, -⟩⟩ := hpart.exists_of_head? hhead (by simp) <;> cases h

/-- What no registered expression reads is no single value if it is ragged. -/
theorem result_parseSingle_of_ragged (hknows : Knows registry word)
    (hsystem : scope.system = registry.system) (hragged : Ragged text.toList)
    (hunquote : unquote text.toList = none)
    (hentries : ∀ entry ∈ [variableEntry, loopEntry, eventEntry word, rangeEntry],
      (tryEntry read scope text slot entry).result = none) :
    (parseSingle registry read scope text slot).result = none := by
  have htypes : scope.system.types = builtInTypes := by rw [hsystem, hknows.types]
  have hliteral : (parseLiteral scope text slot).result = none := by
    rw [result_parseLiteral, Option.map_eq_none_iff, List.findSome?_eq_none_iff, htypes]
    exact fun type _ => readLiteral?_of_ragged hragged type
  have hnumber : plainNumber? scope.system text slot = none := by
    rw [plainNumber?, isPlainNumber_of_ragged hragged]
    rfl
  have hgroups : (Attempt.firstOf (fun p => tryGroup read scope text slot (registry.inGroup p))
      Priority.inOrder).result = none := by
    rw [result_firstOf, List.findSome?_eq_none_iff]
    intro p _
    rw [result_tryGroup, List.findSome?_eq_none_iff]
    intro entry hentry
    rw [Registry.inGroup, hknows.expressions, List.mem_filter] at hentry
    exact hentries entry hentry.1
  rw [parseSingle, hunquote]
  simp only [hnumber]
  split
  · exact hliteral
  · rw [result_orElse, hgroups, hliteral]
    rfl

/-- **A single value that is written down is none together with what stands behind it.** -/
theorem result_parseSingle_of_trails (hknows : Knows registry word)
    (hsystem : scope.system = registry.system) (hpart : Lone part) (htail : Trails tail)
    (htext : text.toList = part ++ tail) :
    (parseSingle registry read scope text slot).result = none :=
  result_parseSingle_of_ragged hknows hsystem (htext ▸ hpart.ragged_append htail)
    (htext ▸ unquote_of_trails hpart htail) fun _ =>
      result_tryEntry_of_trails (by rw [hsystem, hknows.types]) hpart htail htext

end Parsing

end TriggerScript

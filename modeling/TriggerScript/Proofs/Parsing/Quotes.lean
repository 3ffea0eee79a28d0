import TriggerScript.Proofs.Parsing.Variables
import TriggerScript.Proofs.Pattern.Spans

/-!
# Texts that begin with a quote

Nothing but quoted texts can begin with a quote: no pattern of a built-in expression takes one before
a regular expression does, and what that one takes is no name of a type.

* `exists_of_complete_withArticle` : an optional article is not there if a text begins with a quote.
* `readLiteral?_of_quote`, `lookup?_of_quote` : literals and names of types have no quotes.
* `exists_content_of_parseSingle` : a single value that begins with a quote is a quoted text.
-/

namespace TriggerScript

namespace Vocabulary

open Pattern Text

/-! ### Patterns -/

section Complete

variable {p : Pattern} {ways : List Way} {text rest : List Char}

theorem splits_eq_nil (h : ∀ ways, ¬p.Complete text ways) : p.splits text = [] := by
  have hways : p.completeWays text = [] :=
    List.eq_nil_iff_forall_not_mem.2 fun ways hways => h ways (mem_completeWays_iff.1 hways)
  rw [splits_eq_map, hways, List.map_nil]

/-- A literal at the front takes the first character. -/
theorem sameLetter_of_allFit {before : Option Char} {expected c : Char} {cs : List Char}
    {elements : List Element} {after : List Char}
    (h : AllFit p before (.literal (expected :: cs) :: elements) ways after)
    (htext : waysText ways = c :: rest) : sameLetter c expected = true := by
  cases h with
  | cons hfirst _ =>
  cases hfirst with
  | literal hsame =>
  cases hsame with
  | cons hc _ =>
  cases htext
  exact hc

/-- No literal but a quote takes a quote. -/
theorem ne_of_allFit {before : Option Char} {expected : Char} {cs : List Char}
    {elements : List Element} {after : List Char} (hne : expected ≠ '"')
    (h : AllFit p before (.literal (expected :: cs) :: elements) ways after) :
    waysText ways ≠ '"' :: rest := fun htext =>
  hne (eq_of_sameLetter_of_isGuard (sameLetter_of_allFit h htext) rfl).symm

/-- In front of a quote there is no article and no blank. -/
theorem exists_of_complete_withArticle {source : String} {elements : List Element}
    {slots : List Slot} {regexes : List Regex}
    (h : (withArticle source elements slots regexes).Complete ('"' :: rest) ways) :
    ∃ behind, AllFit (withArticle source elements slots regexes) none elements behind [] ∧
      waysText behind = '"' :: rest ∧ ways = .skipped :: .space [] :: behind := by
  obtain ⟨hfit, htext⟩ := h
  cases hfit with
  | cons harticle hfit =>
  cases hfit with
  | cons hspace hbehind =>
  cases harticle with
  | @taken _ _ _ _ number _ _ _ hnumber hinside =>
    -- The article would take the quote.
    cases number with
    | succ number => cases hnumber
    | zero =>
    cases hnumber
    cases hinside with
    | cons hliteral hnil =>
    cases hliteral with
    | literal hsame =>
    cases hsame with
    | cons hc _ =>
    cases htext
    exact absurd hc (by decide)
  | skipped =>
    cases hspace with
    | @space _ blanks _ hblanks =>
    cases blanks with
    | nil => exact ⟨_, hbehind, htext, rfl⟩
    | cons c blanks =>
      cases htext
      exact absurd (hblanks.1 _ List.mem_cons_self) (by decide)

end Complete

section Splits

variable {rest : List Char}

theorem splits_variablePattern_of_quote : variablePattern.splits ('"' :: rest) = [] :=
  splits_eq_nil fun _ h => ne_of_allFit (by decide) h.1 h.2

/-- An article may stand in front of a literal, but not of a quote. -/
theorem splits_withArticle_of_quote {source : String} {expected : Char} {cs : List Char}
    {elements : List Element} {slots : List Slot} {regexes : List Regex} (hne : expected ≠ '"') :
    (withArticle source (.literal (expected :: cs) :: elements) slots regexes).splits
      ('"' :: rest) = [] := by
  refine splits_eq_nil fun ways h => ?_
  obtain ⟨behind, hfit, htext, -⟩ := exists_of_complete_withArticle h
  exact ne_of_allFit hne hfit htext

/-- All that begins with a quote goes to the bare words. -/
theorem eq_of_mem_splits_barePattern {word : Regex} {split : Split}
    (h : split ∈ (barePattern word).splits ('"' :: rest)) :
    split = ⟨0, [], [some ('"' :: rest)]⟩ := by
  rw [splits_eq_map, List.mem_map] at h
  obtain ⟨ways, hways, rfl⟩ := h
  obtain ⟨behind, hfit, htext, rfl⟩ :=
    exists_of_complete_withArticle (mem_completeWays_iff.1 hways)
  cases hfit with
  | cons hword hnil =>
  cases hnil
  cases hword with
  | regex hre hne _ =>
  rw [waysText, Way.text, waysText, List.append_nil] at htext
  rw [htext]
  rfl

end Splits

/-! ### Names and literals -/

variable {text : String}

theorem mem_lowerString_trimString (h : '"' ∈ text.toList) :
    '"' ∈ (lowerString (trimString text)).toList := by
  rw [lowerString, trimString, String.toList_ofList, String.toList_ofList]
  exact mem_lowerAfter_of_settled (mem_trim_of_not_isBlank h (by decide))
    (settled_of_basic (by decide) (by decide))

/-- No type has a quote in its name. -/
theorem lookup?_of_quote (h : '"' ∈ text.toList) : builtInTypes.lookup? text = none := by
  have hnames : ∀ info ∈ builtInTypes.infos, '"' ∉ (lowerString info.singular).toList ∧
      '"' ∉ (lowerString info.plural).toList := by
    decide +kernel
  have hquote := mem_lowerString_trimString h
  rw [TypeTable.lookup?, TypeTable.byName?, List.findSome?_eq_none_iff]
  intro info hinfo
  obtain ⟨hsingular, hplural⟩ := hnames info hinfo
  rw [Option.map_eq_none_iff, TypeInfo.answersTo?]
  have hne {word : String} (hword : '"' ∉ word.toList) :
      (word == lowerString (trimString text)) = false := by
    rw [beq_eq_false_iff_ne]
    rintro rfl
    exact hword hquote
  rw [hne hsingular, hne hplural]
  rfl

theorem isUnsignedNumber_of_quote {cs : List Char} (h : '"' ∈ cs) :
    isUnsignedNumber cs = false := by
  rw [Bool.eq_false_iff, isUnsignedNumber, ne_eq, Bool.and_eq_true, not_and]
  intro hwhole hfraction
  have hdigits {ds : List Char} (hds : isDigits ds = true) : '"' ∉ ds := fun hmem =>
    absurd (List.all_eq_true.1 (Bool.and_eq_true_iff.1 hds).2 _ hmem) (by decide)
  rw [← List.takeWhile_append_dropWhile (p := (· != '.')) (l := cs), List.mem_append] at h
  rcases h with h | h
  · exact hdigits hwhole h
  · split at hfraction
    · next hnil =>
      rw [hnil] at h
      cases h
    · next c fraction hcons =>
      rw [hcons] at h
      rcases List.mem_cons.1 h with rfl | h
      · have := List.head?_dropWhile_not (· != '.') cs
        rw [hcons] at this
        simp at this
      · exact hdigits hfraction h

theorem isPlainNumber_of_quote {cs : List Char} (h : '"' ∈ cs) : isPlainNumber cs = false := by
  unfold isPlainNumber
  split
  · exact isUnsignedNumber_of_quote (by simpa using h)
  · exact isUnsignedNumber_of_quote h

/-- No literal has a quote in it. -/
theorem readLiteral?_of_quote (h : '"' ∈ text.toList) (code : String) :
    builtInTypes.readLiteral? code text = none := by
  have hboolean : readBoolean? text = none := by
    have hquote := mem_lowerString_trimString h
    have hwords : ∀ word ∈ ["true", "yes", "on", "false", "no", "off"],
        word ≠ lowerString (trimString text) := by
      rintro word hword rfl
      have hplain : ∀ word ∈ ["true", "yes", "on", "false", "no", "off"], '"' ∉ word.toList := by
        decide
      exact hplain _ hword hquote
    simp only [List.forall_mem_cons, ne_eq, @eq_comm _ _ (lowerString _)] at hwords
    simp [readBoolean?, hwords]
  have hnumber : readNumber? text = none := by
    rw [readNumber?, isPlainNumber_of_quote (mem_trim_of_not_isBlank h (by decide))]
    rfl
  have hread : ∀ info ∈ builtInTypes.infos, info.read? text = none := by
    simp [builtInTypes, objects, booleans, numbers, texts, TypeInfo.named, TypeInfo.read?, hboolean,
      hnumber]
  have hnone (keep : TypeInfo → Bool) :
      (builtInTypes.infos.findSome? fun info => if keep info then info.read? text else none) =
        none := by
    refine List.findSome?_eq_none_iff.2 fun info hinfo => ?_
    rw [hread info hinfo, ite_self]
  unfold TypeTable.readLiteral?
  split
  · exact List.findSome?_eq_none_iff.2 hread
  · rw [Option.bind_eq_none_iff]
    intro info hinfo
    rw [hread info (List.mem_of_find?_eq_some hinfo), Option.none_or]
    exact hnone _

end Vocabulary

namespace Parsing

open Vocabulary

variable {registry : Registry} {word : Regex} {scope : Scope} {read : Reader} {text : String}
  {slot : Slot} {rest : List Char}

/-! ### Single values -/

theorem matchPattern_of_splits_nil {p : Pattern} {index : Nat} (h : p.splits text.toList = []) :
    matchPattern read scope index p text = .no := by
  rw [matchPattern, Pattern.offer_eq_tryEach, h]
  rfl

/-- Bare words with a quote in them are no value of the event. -/
theorem result_eventValue_of_quote (htypes : scope.system.types = builtInTypes)
    (htext : text.toList = '"' :: rest) (index : Nat) :
    ((matchPattern read scope index (barePattern word) text).bind fun c =>
      runSetup read scope.location (eventValue scope c)).result = none := by
  cases hsplits : (barePattern word).splits text.toList with
  | nil =>
    rw [matchPattern_of_splits_nil hsplits]
    rfl
  | cons split others =>
    have hsplit : split ∈ (barePattern word).splits ('"' :: rest) := by
      rw [← htext, hsplits]
      exact List.mem_cons_self
    obtain rfl : split = ⟨0, [], [some ('"' :: rest)]⟩ := eq_of_mem_splits_barePattern hsplit
    have hlookup : scope.system.types.lookup? (String.ofList ('"' :: rest)) = none := by
      rw [htypes]
      exact lookup?_of_quote (by simp)
    have hname : (capture index ⟨0, [], [some ('"' :: rest)]⟩ []).regexes.head? =
        some (String.ofList ('"' :: rest)) := rfl
    have hsetup : eventValue scope (capture index ⟨0, [], [some ('"' :: rest)]⟩ []) = .reject := by
      rw [eventValue, hname]
      simp only [hlookup]
    rw [matchPattern_of_splits index rfl hsplits]
    simp only [Attempt.ok, result_bind, Option.bind_some, hsetup]
    rfl

theorem result_tryEntry_of_quote (htypes : scope.system.types = builtInTypes)
    (htext : text.toList = '"' :: rest) {entry : ExpressionEntry Pattern}
    (hentry : entry ∈ [variableEntry, loopEntry, eventEntry word, rangeEntry]) :
    (tryEntry read scope text slot entry).result = none := by
  have hnothing {α : Type} (setup : Scope → Capture → Setup α) {p : Pattern} (index : Nat)
      (hsplits : p.splits text.toList = []) :
      ((matchPattern read scope index p text).bind fun c =>
        runSetup read scope.location (setup scope c)).result = none := by
    rw [matchPattern_of_splits_nil hsplits]
    rfl
  have helement : (matchElement read scope entry.setup entry.patterns text).result = none := by
    rw [matchElement, result_firstOf, List.findSome?_eq_none_iff]
    simp only [List.mem_cons, List.not_mem_nil, or_false] at hentry
    rcases hentry with rfl | rfl | rfl | rfl
    · simp only [variableEntry, numbered, List.zipIdx_cons, List.zipIdx_nil, List.map_cons,
        List.map_nil, List.forall_mem_singleton]
      exact hnothing _ _ (htext ▸ splits_variablePattern_of_quote)
    · simp only [loopEntry, numbered, List.zipIdx_cons, List.zipIdx_nil, List.map_cons,
        List.map_nil, List.forall_mem_singleton]
      exact hnothing _ _ (htext ▸ splits_withArticle_of_quote (by decide))
    · simp only [eventEntry, numbered, List.zipIdx_cons, List.zipIdx_nil, List.map_cons,
        List.map_nil, List.forall_mem_cons]
      exact ⟨hnothing _ _ (htext ▸ splits_withArticle_of_quote (by decide)),
        result_eventValue_of_quote htypes htext _, List.forall_mem_nil _⟩
    · simp only [rangeEntry, numbered, List.zipIdx_cons, List.zipIdx_nil, List.map_cons,
        List.map_nil, List.forall_mem_singleton]
      exact hnothing _ _ (htext ▸ splits_withArticle_of_quote (by decide))
  unfold tryEntry
  split
  · rfl
  · rw [result_bind, helement]
    rfl

theorem result_parseLiteral_of_quote (htypes : scope.system.types = builtInTypes)
    (htext : text.toList = '"' :: rest) : (parseLiteral scope text slot).result = none := by
  rw [result_parseLiteral, Option.map_eq_none_iff, List.findSome?_eq_none_iff, htypes]
  exact fun type _ => readLiteral?_of_quote (by simp [htext]) type

theorem result_parseSingle_of_unquote (hknows : Knows registry word)
    (hsystem : scope.system = registry.system) (htext : text.toList = '"' :: rest)
    (hunquote : Text.unquote text.toList = none) :
    (parseSingle registry read scope text slot).result = none := by
  have htypes : scope.system.types = builtInTypes := by rw [hsystem, hknows.types]
  have hliteral : (parseLiteral scope text slot).result = none :=
    result_parseLiteral_of_quote htypes htext
  have hnumber : plainNumber? scope.system text slot = none := by
    rw [plainNumber?, isPlainNumber_of_quote (by simp [htext])]
    rfl
  have hgroups : (Attempt.firstOf (fun p => tryGroup read scope text slot (registry.inGroup p))
      Priority.inOrder).result = none := by
    rw [result_firstOf, List.findSome?_eq_none_iff]
    intro p _
    rw [result_tryGroup, List.findSome?_eq_none_iff]
    intro entry hentry
    rw [Registry.inGroup, hknows.expressions, List.mem_filter] at hentry
    exact result_tryEntry_of_quote htypes htext hentry.1
  rw [parseSingle, hunquote]
  simp only [hnumber]
  split
  · exact hliteral
  · rw [result_orElse, hgroups, hliteral]
    rfl

/-- **A single value that begins with a quote is a quoted text, and the expressions in it can be
read.** -/
theorem exists_content_of_parseSingle (hknows : Knows registry word)
    (hsystem : scope.system = registry.system) (htext : text.toList = '"' :: rest)
    (h : (parseSingle registry read scope text slot).result.isSome) :
    ∃ content, Text.unquote text.toList = some content ∧
      (runSetup read scope.location (readTemplate true (String.ofList content))).result.isSome := by
  cases hunquote : Text.unquote text.toList with
  | none =>
    rw [result_parseSingle_of_unquote hknows hsystem htext hunquote] at h
    cases h
  | some content =>
    rw [parseSingle, hunquote, result_bind] at h
    exact ⟨content, rfl, Option.isSome_of_isSome_bind h⟩

end Parsing

end TriggerScript

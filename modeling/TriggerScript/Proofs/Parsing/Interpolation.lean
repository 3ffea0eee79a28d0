import TriggerScript.Proofs.Parsing.Quotes
import TriggerScript.Proofs.Parsing.StoredValues

/-!
# Expressions between percent signs

Two scanners decide where an expression in a quoted text ends. The one that tells quoted texts from
others pairs percent signs up, whatever stands between them; the one that cuts a quoted text passes
over percent signs in braces. Both have to agree for an expression to be taken in a quoted text.

* `braceLevel`, `PercentsInBraces` : the braces that are open behind a text.
* `sealedFrom_iff` : what can stand between percent signs, by its braces.
* `Pairs` : percent signs come in pairs, and quotes outside of the pairs are doubled.
* `interpolated` : a text between percent signs in a quoted text.
* `isSome_parseWithin_object` : what is read for a slot for objects is read for any number of them.
* `accepted_interpolated_iff` : an expression can be interpolated exactly if its percent signs come
  in pairs and it leaves no brace open.
-/

namespace TriggerScript

open Text

/-! ### Braces -/

/-- How many braces are open behind a text. -/
def braceLevel (cs : List Char) : Int :=
  cs.foldl depthBehind 0

/-- Every percent sign of a text stands inside of braces. -/
def PercentsInBraces (cs : List Char) : Prop :=
  ∀ before after, cs = before ++ '%' :: after → 0 < braceLevel before

/-- A text can stand between percent signs if its own stand in braces and none is left open. -/
theorem sealedFrom_iff {depth : Int} {cs : List Char} : sealedFrom depth cs = true ↔
    (∀ before after, cs = before ++ '%' :: after → 0 < before.foldl depthBehind depth) ∧
      cs.foldl depthBehind depth ≤ 0 := by
  induction cs generalizing depth with
  | nil => simp [sealedFrom]
  | cons c cs ih =>
    rw [sealedFrom, Bool.and_eq_true, ih, List.foldl_cons, ← and_assoc]
    refine and_congr_left fun _ => ?_
    constructor
    · rintro ⟨hfirst, hrest⟩ before after hsplit
      cases before with
      | nil =>
        cases hsplit
        simpa using hfirst
      | cons d before =>
        cases hsplit
        exact hrest before after rfl
    · intro h
      refine ⟨?_, fun before after hsplit => h (c :: before) after (by rw [hsplit]; rfl)⟩
      by_cases hc : c = '%'
      · have hdepth := h [] cs (by rw [hc]; rfl)
        simpa [hc] using hdepth
      · simp [hc]

theorem sealedFrom_zero_iff {cs : List Char} :
    sealedFrom 0 cs = true ↔ PercentsInBraces cs ∧ braceLevel cs ≤ 0 := sealedFrom_iff

namespace PercentsInBraces

variable {cs : List Char}

theorem of_isPrefix {part : List Char} (h : PercentsInBraces cs) (hpart : part <+: cs) :
    PercentsInBraces part := by
  obtain ⟨rest, rfl⟩ := hpart
  intro before after hsplit
  exact h before (after ++ rest) (by rw [hsplit, List.append_assoc]; rfl)

/-- Where a brace is open, one more percent sign stands in braces. -/
theorem concat (h : PercentsInBraces cs) (hopen : 0 < braceLevel cs) :
    PercentsInBraces (cs ++ ['%']) := by
  intro before after hsplit
  obtain rfl | ⟨after, c, rfl⟩ := after.eq_nil_or_concat
  · rwa [(List.append_inj' hsplit rfl).1] at hopen
  · rw [List.concat_eq_append, ← List.cons_append, ← List.append_assoc] at hsplit
    exact h before after (List.append_inj' hsplit rfl).1

theorem head?_ne (h : PercentsInBraces cs) : cs.head? ≠ some '%' := by
  intro hhead
  obtain ⟨rest, rfl⟩ := List.head?_eq_some_iff.1 hhead
  exact absurd (h [] rest rfl) (by decide)

/-- No percent sign ends an expression. -/
theorem segment?_eq_none (h : PercentsInBraces cs) : segment? 0 cs = none := by
  rw [Option.eq_none_iff_forall_ne_some]
  rintro ⟨inside, after⟩ hsegment
  obtain ⟨hsplit, hsealed⟩ := segment?_eq_some_iff.1 hsegment
  have hopen := h inside after hsplit
  have hclosed := (sealedFrom_zero_iff.1 hsealed).2
  omega

end PercentsInBraces

/-! ### Pairs of percent signs -/

/-- Percent signs come in pairs, and the quotes outside of the pairs are doubled, if the text is
scanned as a part of a quoted text between percent signs: what stands outside of the pairs is
what the scanner takes to be in a pair. -/
def Pairs (cs : List Char) : Prop :=
  quoteScan .embedded cs = some .embedded

instance (cs : List Char) : Decidable (Pairs cs) :=
  inferInstanceAs (Decidable (_ = _))

theorem pairs_of_not_mem {cs : List Char} (h : '%' ∉ cs) : Pairs cs := by
  induction cs with
  | nil => rfl
  | cons c cs ih =>
    rw [List.mem_cons, not_or] at h
    rw [Pairs, quoteScan_cons, QuoteState.next?, if_neg (Ne.symm h.1)]
    exact ih h.2

/-- A text between percent signs in a quoted text. -/
def interpolated (cs : List Char) : List Char :=
  '"' :: ('%' :: cs ++ ['%']) ++ ['"']

theorem interpolated_eq (cs : List Char) :
    interpolated cs = '"' :: '%' :: (cs ++ ['%', '"']) := by
  simp [interpolated]

theorem quoteScan_percents_iff {cs : List Char} :
    quoteScan .outside ('%' :: cs ++ ['%']) = some .outside ↔ Pairs cs := by
  rw [List.cons_append, quoteScan_cons]
  simp only [QuoteState.next?, if_true, Option.bind_some, quoteScan_append, Pairs]
  rw [Option.bind_eq_some_iff]
  constructor
  · rintro ⟨state, hstate, hlast⟩
    cases state with
    | embedded => exact hstate
    | outside => cases hlast
    | half => cases hlast
  · exact fun h => ⟨_, h, rfl⟩

/-- A text between percent signs makes a quoted text exactly if its own come in pairs. -/
theorem unquote_interpolated_iff {cs content : List Char} :
    unquote (interpolated cs) = some content ↔ content = '%' :: cs ++ ['%'] ∧ Pairs cs := by
  rw [unquote_eq_some_iff, interpolated]
  constructor
  · rintro ⟨hsplit, hscan⟩
    obtain rfl : '%' :: cs ++ ['%'] = content :=
      (List.cons.inj (List.append_inj' hsplit rfl).1).2
    exact ⟨rfl, quoteScan_percents_iff.1 hscan⟩
  · rintro ⟨rfl, hpairs⟩
    exact ⟨rfl, quoteScan_percents_iff.2 hpairs⟩

namespace Parsing

open Vocabulary

variable {registry : Registry} {word : Regex} {scope : Scope} {read : Reader} {text : String}
  {slot : Slot} {cs : List Char}

/-! ### Templates -/

/-- A text that leaves a brace open in front of its end is no template. -/
theorem result_readTemplate_unclosed {location : Option Location} (h : PercentsInBraces cs) :
    (runSetup read location (readTemplate true (String.ofList ('%' :: cs)))).result = none := by
  have hcut : cutTemplate true [] ('%' :: cs) = [.unclosed] :=
    cutTemplate_unclosed h.head?_ne h.segment?_eq_none
  rw [readTemplate, String.toList_ofList, hcut]
  rfl

/-- One expression between percent signs. -/
theorem result_readTemplate_segment {location : Option Location} {quoted : Bool}
    (hsealed : sealedFrom 0 cs = true) (hne : cs ≠ []) {e : Expression}
    (hread : (read (String.ofList cs) (.many [objectType])).result = some e) :
    (runSetup read location
      (readTemplate quoted (String.ofList ('%' :: cs ++ ['%'])))).result =
      some [.expression e] := by
  have hcut : cutTemplate quoted [] ('%' :: (cs ++ ['%'])) = [.segment cs] := by
    rw [cutTemplate_segment (head?_ne_percent hne hsealed)
      (segment?_eq_some_iff.2 ⟨rfl, hsealed⟩), cutTemplate_nil]
    rfl
  rw [readTemplate, String.toList_ofList, List.cons_append, hcut, result_runSetup_map, readPieces]
  simp only [runSetup, hread, Attempt.result_after]
  rfl

/-! ### Slots for objects -/

theorem acceptance?_objects (system : TypeSystem) (produced : String) :
    system.acceptance? produced [objectType] = some .direct := by
  rw [TypeSystem.acceptance?, List.any_cons, TypeTable.isAssignable_object]
  rfl

/-- Everything fits a slot for objects. -/
theorem result_acceptFor_object (hslot : slot.types = [objectType]) (e : Expression) :
    (acceptFor scope text slot e).result = some e := by
  rw [acceptFor, convertExpression?, hslot, acceptance?_objects]
  rfl

/-- Constants are taken where everything is taken. -/
theorem isSome_parseSingle_object (hslot : slot.types = [objectType])
    (h : (parseSingle registry read scope text slot).result.isSome) :
    (parseSingle registry read scope text (.many [objectType])).result.isSome := by
  cases hconstant : slot.literalOnly with
  | false =>
    have hsame : parseSingle registry read scope text slot =
        parseSingle registry read scope text (.many [objectType]) := by
      unfold parseSingle
      rw [hconstant, ← hslot]
      rfl
    rwa [← hsame]
  | true =>
    unfold parseSingle at h ⊢
    split
    · next content hcontent =>
      simp only [hcontent] at h
      rw [result_bind] at h ⊢
      cases hparts : (runSetup read scope.location
          (readTemplate true (String.ofList content))).result with
      | none =>
        rw [hparts] at h
        cases h
      | some parts =>
        rw [Option.bind_some, result_acceptFor_object rfl]
        rfl
    · next hnone =>
      simp only [hnone, hconstant, if_true] at h
      rw [if_neg (by decide)]
      split
      · rw [result_acceptFor_object rfl]
        rfl
      · have hsame : parseLiteral scope text slot =
            parseLiteral scope text (.many [objectType]) := by
          unfold parseLiteral
          rw [hslot]
          rfl
        rw [result_orElse, Option.isSome_or, ← hsame, h, Bool.or_true]

theorem isSome_parseItems_cons_iff {item : List Char} {rest : List (List Char)} :
    (parseItems registry read scope slot (item :: rest)).result.isSome ↔
      (match stripParens item with
        | some inner => read (String.ofList inner) slot
        | none => parseSingle registry read scope (String.ofList item) slot).result.isSome ∧
        (parseItems registry read scope slot rest).result.isSome := by
  rw [parseItems, result_bind]
  simp only [Attempt.result_map]
  generalize (match stripParens item with
    | some inner => read (String.ofList inner) slot
    | none => parseSingle registry read scope (String.ofList item) slot).result = first
  cases first <;> simp

/-- A list is read if it has several items, the words between them agree, and all are read. -/
theorem isSome_parseList_iff : (parseList registry read scope text slot).result.isSome ↔
    ∃ e, splitList text.toList = some e ∧ 1 < e.items.length ∧ e.isMixed = false ∧
      (parseItems registry read scope { slot with single := false } e.items).result.isSome := by
  unfold parseList
  cases splitList text.toList with
  | none => simp [Attempt.no]
  | some e =>
    have hsame (e' : Enumeration) : some e = some e' ↔ e' = e := by rw [Option.some_inj, eq_comm]
    simp only [hsame, exists_eq_left]
    split
    · next hshort => simp [Attempt.no, Nat.not_lt.2 hshort]
    · next hlong =>
      split
      · next hmixed => simp [Attempt.refuse, hmixed]
      · next hmixed =>
        rw [result_bind]
        cases (parseItems registry read scope { slot with single := false } e.items).result with
        | none => simp
        | some items =>
          dsimp only [Option.bind_some]
          split <;> simp [Attempt.ok, hmixed, Nat.not_le.1 hlong]

theorem isSome_parseItems_object {depth : Nat} (hslot : slot.types = [objectType])
    (hread : ∀ {text : String} {slot : Slot}, slot.types = [objectType] →
      (parseWithin registry scope depth text slot).result.isSome →
        (parseWithin registry scope depth text (.many [objectType])).result.isSome)
    {items : List (List Char)}
    (h : (parseItems registry (parseWithin registry scope depth) scope slot items).result.isSome) :
    (parseItems registry (parseWithin registry scope depth) scope (.many [objectType])
      items).result.isSome := by
  induction items with
  | nil => rfl
  | cons item rest ih =>
    rw [isSome_parseItems_cons_iff] at h ⊢
    refine ⟨?_, ih h.2⟩
    have hitem := h.1
    cases hparens : stripParens item with
    | some inner =>
      simp only [hparens] at hitem ⊢
      exact hread hslot hitem
    | none =>
      simp only [hparens] at hitem ⊢
      exact isSome_parseSingle_object hslot hitem

theorem isSome_parseOnce_iff (hparens : stripParens text.toList = none) :
    (parseOnce registry read scope text slot).result.isSome ↔
      (parseSingle registry read scope text slot).result.isSome ∨
        (parseList registry read scope text slot).result.isSome := by
  rw [parseOnce, hparens, Attempt.result_framed, result_orElse, Option.isSome_or, Bool.or_eq_true]

/-- What is read for a slot for objects is read for any number of them. -/
theorem isSome_parseWithin_object {depth : Nat} (hslot : slot.types = [objectType])
    (h : (parseWithin registry scope depth text slot).result.isSome) :
    (parseWithin registry scope depth text (.many [objectType])).result.isSome := by
  induction depth generalizing text slot with
  | zero =>
    rw [parseWithin] at h
    split at h <;> cases h
  | succ depth ih =>
    rw [parseWithin] at h ⊢
    split
    · next hempty =>
      rw [if_pos hempty] at h
      cases h
    next hempty =>
    rw [if_neg hempty, result_bind] at h
    obtain ⟨e, he⟩ := Option.isSome_iff_exists.1 (Option.isSome_of_isSome_bind h)
    have honce : (parseOnce registry (parseWithin registry scope depth) scope
        (trimString text) (.many [objectType])).result.isSome := by
      cases hparens : stripParens (trimString text).toList with
      | some inner =>
        rw [parseOnce, hparens] at he ⊢
        exact ih hslot (Option.isSome_of_eq_some he)
      | none =>
        rw [isSome_parseOnce_iff hparens]
        refine ((isSome_parseOnce_iff hparens).1 (Option.isSome_of_eq_some he)).imp
          (isSome_parseSingle_object hslot) fun hlist => ?_
        obtain ⟨enumeration, hsplit, hlong, hmixed, hitems⟩ := isSome_parseList_iff.1 hlist
        have htypes : { slot with single := false }.types = [objectType] := hslot
        exact isSome_parseList_iff.2 ⟨enumeration, hsplit, hlong, hmixed,
          isSome_parseItems_object htypes ih hitems⟩
    obtain ⟨e', he'⟩ := Option.isSome_iff_exists.1 honce
    rw [result_bind, he', Option.bind_some]
    rfl

/-! ### Quoted texts -/

/-- A quoted text is read if the expressions in it are. -/
theorem result_parseWithin_quoted {content : List Char} {parts : List Part} {depth : Nat}
    (hunquote : unquote text.toList = some content)
    (hparts : (runSetup (parseWithin registry scope depth) scope.location
      (readTemplate true (String.ofList content))).result = some parts)
    (hdirect : scope.system.acceptance? textType slot.types = some .direct) :
    (parseWithin registry scope (depth + 1) text slot).result = some (.quoted parts) := by
  obtain ⟨htext, -⟩ := unquote_eq_some_iff.1 hunquote
  have hparens : stripParens text.toList = none := by simp [htext, stripParens]
  have haccepted : (acceptFor scope text slot (.quoted parts)).result = some (.quoted parts) := by
    rw [acceptFor, convertExpression?, Expression.returns, hdirect]
    rfl
  have hsingle : (parseSingle registry (parseWithin registry scope depth) scope text slot).result =
      some (.quoted parts) := by
    rw [parseSingle, hunquote]
    simp only [result_bind, hparts, Option.bind_some, haccepted]
  rw [result_parseWithin_of_ends (by decide) (by decide) htext, parseOnce, hparens,
    Attempt.result_framed, result_orElse, hsingle, Option.some_or, Option.bind_some, demandSingle]
  simp [Expression.isSingle, Attempt.ok]

/-! ### Lists -/

/-- The first item of a list that begins with a quote begins with a quote too, and it leaves something
of the text behind it. -/
theorem exists_first_item {cs : List Char} {e : Enumeration} (h : splitList ('"' :: cs) = some e)
    (hlong : 1 < e.items.length) : ∃ inside behind rest, e.items = ('"' :: inside) :: rest ∧
      behind ≠ [] ∧ cs = inside ++ behind := by
  obtain ⟨pieces, separators, hcuts, -, -, hitems⟩ := splitList_cuts ('"' :: cs)
  obtain ⟨rfl, -⟩ := hitems e h
  generalize htext : '"' :: cs = text at hcuts
  cases hcuts with
  | last _ => exact absurd hlong (by simp)
  | @cons _ piece mark after _ pieces _ _ _ hmark _ =>
  obtain ⟨first, more, rfl⟩ : ∃ first more, mark = first :: more := by
    cases hmark <;> exact ⟨_, _, rfl⟩
  cases piece with
  | nil =>
    -- A separator does not begin with a quote.
    cases htext
    exact absurd (hmark.inSeparator _ List.mem_cons_self) (by decide)
  | cons c piece =>
    obtain ⟨rfl, hcs⟩ := List.cons.inj htext
    obtain ⟨front, back, hfront, -, htrim⟩ := exists_of_trim ('"' :: piece)
    cases front with
    | cons d front =>
      obtain ⟨rfl, -⟩ := List.cons.inj htrim
      exact absurd (hfront _ List.mem_cons_self) (by decide)
    | nil =>
      cases hitem : trim ('"' :: piece) with
      | nil => exact absurd (trim_eq_nil_iff.1 hitem _ List.mem_cons_self) (by decide)
      | cons d inside =>
        rw [hitem] at htrim
        obtain ⟨rfl, rfl⟩ := List.cons.inj htrim
        refine ⟨inside, back ++ (first :: more ++ after), pieces.map trim, ?_, by simp, ?_⟩
        · rw [List.map_cons, hitem]
        · rw [hcs]
          simp

/-- A list does not begin with a quoted text that holds a percent sign and leaves a brace open. -/
theorem not_isSome_parseList (hknows : Knows registry word) (hsystem : scope.system = registry.system)
    (hpercent : PercentsInBraces cs) :
    ¬(parseList registry read scope (String.ofList (interpolated cs)) slot).result.isSome := by
  intro h
  obtain ⟨e, hsplit, hlong, -, hitems⟩ := isSome_parseList_iff.1 h
  rw [String.toList_ofList, interpolated_eq] at hsplit
  obtain ⟨inside, behind, rest, heq, hbehind, hcs⟩ := exists_first_item hsplit hlong
  rw [heq, isSome_parseItems_cons_iff] at hitems
  have hfirst := hitems.1
  have hparens : stripParens ('"' :: inside) = none := rfl
  simp only [hparens] at hfirst
  obtain ⟨content, hunquote, htemplate⟩ :=
    exists_content_of_parseSingle hknows hsystem String.toList_ofList hfirst
  rw [String.toList_ofList, unquote_eq_some_iff] at hunquote
  obtain rfl : inside = content ++ ['"'] := (List.cons.inj hunquote.1).2
  -- What the item holds is a percent sign and a part of the expression.
  cases content with
  | nil => cases hcs
  | cons c part =>
    obtain ⟨rfl, hcs⟩ := List.cons.inj hcs
    have hpart : part <+: cs := by
      have hlength := congrArg List.length hcs
      have hpositive := List.length_pos_of_ne_nil hbehind
      simp only [List.length_append, List.length_cons, List.length_nil] at hlength
      refine List.prefix_of_prefix_length_le ⟨['"'] ++ behind, ?_⟩ ⟨['%', '"'], rfl⟩ (by omega)
      simpa using hcs.symm
    rw [result_readTemplate_unclosed (hpercent.of_isPrefix hpart)] at htemplate
    cases htemplate

/-! ### Interpolated expressions -/

/-- An expression between percent signs is read as it is read by itself. -/
theorem result_parseWithin_interpolated {depth : Nat} (hpairs : Pairs cs)
    (hsealed : sealedFrom 0 cs = true) (hne : cs ≠ []) {e : Expression}
    (hread : (parseWithin registry scope depth (String.ofList cs) (.many [objectType])).result =
      some e)
    (hdirect : scope.system.acceptance? textType slot.types = some .direct) :
    (parseWithin registry scope (depth + 1) (String.ofList (interpolated cs)) slot).result =
      some (.quoted [.expression e]) := by
  refine result_parseWithin_quoted ?_ (result_readTemplate_segment hsealed hne hread) hdirect
  rw [String.toList_ofList]
  exact unquote_interpolated_iff.2 ⟨rfl, hpairs⟩

/-- If a text can be read between percent signs, then its own come in pairs and it leaves no brace
open. -/
theorem pairs_of_isSome (hknows : Knows registry word) (hsystem : scope.system = registry.system)
    (hpercent : PercentsInBraces cs) {depth : Nat}
    (h : (parseWithin registry scope (depth + 1) (String.ofList (interpolated cs))
      slot).result.isSome) : Pairs cs ∧ braceLevel cs ≤ 0 := by
  have htext : (String.ofList (interpolated cs)).toList = '"' :: ('%' :: cs ++ ['%']) ++ ['"'] :=
    String.toList_ofList
  have hparens : stripParens (String.ofList (interpolated cs)).toList = none := by
    simp [htext, stripParens]
  rw [result_parseWithin_of_ends (by decide) (by decide) htext] at h
  have hsingle := ((isSome_parseOnce_iff hparens).1
    (Option.isSome_of_isSome_bind h)).resolve_right (not_isSome_parseList hknows hsystem hpercent)
  obtain ⟨content, hunquote, htemplate⟩ :=
    exists_content_of_parseSingle hknows hsystem htext hsingle
  rw [String.toList_ofList, unquote_interpolated_iff] at hunquote
  obtain ⟨rfl, hpairs⟩ := hunquote
  refine ⟨hpairs, Int.not_lt.1 fun hopen => ?_⟩
  rw [List.cons_append, result_readTemplate_unclosed (hpercent.concat hopen)] at htemplate
  cases htemplate

theorem ne_nil_of_isSome {depth : Nat}
    (h : (parseWithin registry scope depth (String.ofList cs) slot).result.isSome) : cs ≠ [] := by
  rintro rfl
  cases depth <;> cases h

theorem acceptance?_of_mem {system : TypeSystem} {type : String} {required : List String}
    (h : type ∈ required) : system.acceptance? type required = some .direct := by
  rw [TypeSystem.acceptance?, if_pos]
  exact List.any_eq_true.2 ⟨type, h, TypeTable.isAssignable_refl _ _⟩

/-- **An expression whose percent signs stand in braces can be interpolated exactly if they come in
pairs, with no single quote outside of a pair, and no brace is left open.** Without percent signs
only braces count, those in quotes included. -/
theorem accepted_interpolated_iff (hbuiltIn : builtIn = .ok registry)
    (hsystem : scope.system = registry.system) (hpercent : PercentsInBraces cs) {depth : Nat}
    {anything : Slot} (hanything : anything.types = [objectType])
    (haccepted : (parseWithin registry scope depth (String.ofList cs) anything).result.isSome)
    (hslot : textType ∈ slot.types) :
    ((parseWithin registry scope (depth + 1) (String.ofList (interpolated cs)) slot).result.isSome ↔
      Pairs cs ∧ braceLevel cs ≤ 0) ∧
    ('%' ∉ cs → ((parseWithin registry scope (depth + 1) (String.ofList (interpolated cs))
      slot).result.isSome ↔ braceLevel cs ≤ 0)) := by
  obtain ⟨word, hknows⟩ := exists_knows hbuiltIn
  have hiff : (parseWithin registry scope (depth + 1) (String.ofList (interpolated cs))
      slot).result.isSome ↔ Pairs cs ∧ braceLevel cs ≤ 0 := by
    refine ⟨pairs_of_isSome hknows hsystem hpercent, fun ⟨hpairs, hlevel⟩ => ?_⟩
    obtain ⟨e, hread⟩ :=
      Option.isSome_iff_exists.1 (isSome_parseWithin_object hanything haccepted)
    rw [result_parseWithin_interpolated hpairs (sealedFrom_zero_iff.2 ⟨hpercent, hlevel⟩)
      (ne_nil_of_isSome haccepted) hread (acceptance?_of_mem hslot)]
    rfl
  exact ⟨hiff, fun hplain => hiff.trans (and_iff_right (pairs_of_not_mem hplain))⟩

/-! ### Variables named by expressions -/

/-- A variable whose name is an expression. -/
def variableNamedBy (cs : List Char) : List Char :=
  braced ('%' :: cs ++ ['%'])

theorem result_parseWithin_variableNamedBy (hknows : Knows registry word) {depth : Nat}
    (hname : NameText ('%' :: cs ++ ['%'])) (hbalanced : braceDepth? 0 ('%' :: cs ++ ['%']) = some 0)
    (hsealed : sealedFrom 0 cs = true) (hne : cs ≠ []) {e : Expression}
    (hread : (parseWithin registry scope depth (String.ofList cs) (.many [objectType])).result =
      some e) :
    (parseWithin registry scope (depth + 1) (String.ofList (variableNamedBy cs))
      (.many [objectType])).result = some (.variable [.expression e]) := by
  refine result_parseWithin_braced (triesVariables_of_knows hknows) String.toList_ofList hname rfl
    (List.cons_ne_nil _ _) (acceptance?_of_mem List.mem_cons_self) ?_
  rw [variableName, String.toList_ofList, hbalanced]
  exact result_readTemplate_segment hsealed hne hread

/-- The text that names a variable by a variable can be interpolated. -/
theorem accepted_interpolated_iff_variable : ∃ registry, builtIn = .ok registry ∧
    (bareScope registry).system = registry.system ∧
    PercentsInBraces (variableNamedBy (variableNamed ['x'])) ∧
    (parseWithin registry (bareScope registry) 63
      (String.ofList (variableNamedBy (variableNamed ['x']))) (.many [objectType])).result.isSome ∧
    textType ∈ (Slot.one [textType]).types ∧
    (parseExpression registry (bareScope registry)
      (String.ofList (interpolated (variableNamedBy (variableNamed ['x']))))
      (.one [textType])).result.isSome := by
  obtain ⟨registry, hbuiltIn⟩ := exists_builtIn
  obtain ⟨word, hknows⟩ := exists_knows hbuiltIn
  have hsealed : sealedFrom 0 (variableNamedBy (variableNamed ['x'])) = true := by decide
  obtain ⟨hpercent, hlevel⟩ := sealedFrom_zero_iff.1 hsealed
  have hinner : (parseWithin registry (bareScope registry) 62 (String.ofList (variableNamed ['x']))
      (.many [objectType])).result = some (.variable [.text "x"]) :=
    result_parseWithin_braced (triesVariables_of_knows hknows) String.toList_ofList
      plainName_x.nameText rfl (List.cons_ne_nil _ _) (acceptance?_of_mem List.mem_cons_self)
      (result_variableName plainName_x)
  have hread := result_parseWithin_variableNamedBy hknows ⟨by decide, by decide⟩ (by decide)
    (by decide) (by decide) hinner
  have haccepted := Option.isSome_of_eq_some hread
  have htext : textType ∈ (Slot.one [textType]).types := List.mem_cons_self
  refine ⟨registry, hbuiltIn, rfl, hpercent, haccepted, htext, ?_⟩
  exact (accepted_interpolated_iff hbuiltIn rfl hpercent rfl haccepted htext).1.2
    ⟨by decide, hlevel⟩

/-- A variable that is named by a quoted text can be read, but not in a quoted text. -/
theorem not_accepted_interpolated_quote : ∃ registry, builtIn = .ok registry ∧
    PercentsInBraces (variableNamedBy ['"', 'a', '"']) ∧
    (parseWithin registry (bareScope registry) 63
      (String.ofList (variableNamedBy ['"', 'a', '"'])) (.many [objectType])).result.isSome ∧
    (parseExpression registry (bareScope registry)
      (String.ofList (interpolated (variableNamedBy ['"', 'a', '"']))) (.one [textType])).result =
      none := by
  obtain ⟨registry, hbuiltIn⟩ := exists_builtIn
  obtain ⟨word, hknows⟩ := exists_knows hbuiltIn
  have hsealed : sealedFrom 0 (variableNamedBy ['"', 'a', '"']) = true := by decide
  obtain ⟨hpercent, -⟩ := sealedFrom_zero_iff.1 hsealed
  have hparts : (runSetup (parseWithin registry (bareScope registry) 61)
      (bareScope registry).location (readTemplate true (String.ofList ['a']))).result =
      some [.text "a"] := by
    have hcut : cutTemplate true [] ['a'] = [.text ['a']] := by
      rw [cutTemplate_plain (by decide) (by decide), cutTemplate_nil]
      rfl
    rw [readTemplate, String.toList_ofList, hcut]
    rfl
  have hinner : (parseWithin registry (bareScope registry) 62 (String.ofList ['"', 'a', '"'])
      (.many [objectType])).result = some (.quoted [.text "a"]) :=
    result_parseWithin_quoted (by rw [String.toList_ofList]; rfl) hparts (acceptance?_objects _ _)
  have hread := result_parseWithin_variableNamedBy hknows ⟨by decide, by decide⟩ (by decide)
    (by decide) (by decide) hinner
  refine ⟨registry, hbuiltIn, hpercent, Option.isSome_of_eq_some hread, ?_⟩
  rw [← Option.not_isSome_iff_eq_none]
  intro h
  exact absurd (pairs_of_isSome hknows rfl hpercent h).1 (by decide)

end Parsing

end TriggerScript

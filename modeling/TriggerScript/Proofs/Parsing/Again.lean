import TriggerScript.Proofs.Parsing.Legible
import TriggerScript.Proofs.Parsing.Templates
import TriggerScript.Proofs.Parsing.Verbatim
import TriggerScript.Proofs.Vocabulary.Literals
import TriggerScript.Proofs.Types.Soundness

/-!
# Single values that are read again

Each kind of single values is told from the others by how it begins when it is written down, so it
is read as this kind again.

* `result_groups` : the first registered expression that reads a text is taken.
* `LiteralText` : literals as they are written down, which no registered expression reads.
* `renewed_of_parseLiteral`, `renewed_of_number`, `renewed_quoted` : each kind by itself.
-/

namespace TriggerScript.Parsing

open Vocabulary Pattern Text

variable {registry : Registry} {word : Regex} {scope : Scope} {read read' : Reader} {text : String}
  {slot : Slot} {e own : Expression}

/-! ### Registered expressions in order -/

/-- The built-in expressions of a group. -/
def builtInGroup (word : Regex) : Priority → List (ExpressionEntry Pattern)
  | .simple => [variableEntry, loopEntry]
  | .event => [eventEntry word]
  | .combined => [rangeEntry]
  | _ => []

theorem inGroup_eq_builtInGroup (hknows : Knows registry word) (p : Priority) :
    registry.inGroup p = builtInGroup word p := by
  rw [Registry.inGroup, hknows.expressions]
  cases p <;> rfl

/-- The registered expressions are tried in order. -/
theorem result_groups (hknows : Knows registry word) :
    (Attempt.firstOf (fun p => tryGroup read scope text slot (registry.inGroup p))
      Priority.inOrder).result =
    (tryEntry read scope text slot variableEntry).result.or
      ((tryEntry read scope text slot loopEntry).result.or
        ((tryEntry read scope text slot (eventEntry word)).result.or
          (tryEntry read scope text slot rangeEntry).result)) := by
  rw [result_firstOf]
  simp only [Priority.inOrder, result_tryGroup, inGroup_eq_builtInGroup hknows, builtInGroup,
    List.findSome?_cons, List.findSome?_nil]
  cases (tryEntry read scope text slot variableEntry).result <;>
    cases (tryEntry read scope text slot loopEntry).result <;>
    cases (tryEntry read scope text slot (eventEntry word)).result <;>
    cases (tryEntry read scope text slot rangeEntry).result <;> rfl

/-- What is no quoted text and no number is read by a registered expression or as a literal. -/
theorem result_parseSingle_of_free (hfree : slot.literalOnly = false)
    (hunquote : unquote text.toList = none) (hplain : isPlainNumber text.toList = false) :
    (parseSingle registry read scope text slot).result =
      (Attempt.firstOf (fun p => tryGroup read scope text slot (registry.inGroup p))
        Priority.inOrder).result.or (parseLiteral scope text slot).result := by
  have hnumber : plainNumber? scope.system text slot = none := by
    rw [plainNumber?, hplain]
    rfl
  rw [parseSingle, hunquote]
  simp only [hfree, Bool.false_eq_true, if_false, hnumber, result_orElse]

theorem unquote_eq_none_of_head? {cs : List Char} (h : cs.head? ≠ some '"') :
    unquote cs = none := by
  cases cs with
  | nil => rfl
  | cons c cs =>
    unfold unquote
    split
    · next heq =>
      cases heq
      exact absurd rfl h
    · rfl

/-! ### How they begin -/

theorem result_tryEntry_variable_of_head? (h : text.toList.head? ≠ some '{') :
    (tryEntry read scope text slot variableEntry).result = none := by
  refine result_tryEntry_eq_none (result_matchElement_eq_none fun p hp index split hsplit _ _ => ?_)
  obtain rfl := List.mem_singleton.1 hp
  obtain ⟨name, -, htext, -⟩ := exists_of_mem_splits_variable hsplit
  rw [htext] at h
  exact absurd rfl h

theorem result_tryEntry_loop_of_head? (hleads : leads text.toList = true)
    (h : text.toList.head? ≠ some 'l') : (tryEntry read scope text slot loopEntry).result = none := by
  refine result_tryEntry_eq_none (result_matchElement_eq_none fun p hp index split hsplit _ _ => ?_)
  obtain rfl := List.mem_singleton.1 hp
  obtain ⟨front, name, htext, -, -, -, -, hfront⟩ := exists_of_mem_splits_loop hsplit
  exact absurd (head?_of_forall₂ hleads htext (by decide) (hfront hleads)) h

theorem result_tryEntry_event_of_head? (htypes : scope.system.types = builtInTypes)
    (hleads : leads text.toList = true) (h : text.toList.head? ≠ some 'e')
    (hname : builtInTypes.lookup? text = none) :
    (tryEntry read scope text slot (eventEntry word)).result = none := by
  refine result_tryEntry_eq_none (result_matchElement_eq_none fun p hp index split hsplit _ _ => ?_)
  simp only [eventEntry, List.mem_cons, List.not_mem_nil, or_false] at hp
  rcases hp with rfl | rfl
  · obtain ⟨front, name, htext, -, -, -, -, hfront⟩ := exists_of_mem_splits_event hsplit
    exact absurd (head?_of_forall₂ hleads htext (by decide) (hfront hleads)) h
  · obtain ⟨front, name, htext, -, rfl, hfront⟩ := exists_of_mem_splits_bare hsplit
    rw [hfront hleads, List.nil_append] at htext
    rw [show (eventEntry word).setup = eventValue from rfl, eventValue, head?_regexes_capture]
    simp only [htypes, ← htext, String.ofList_toList, hname]
    rfl

theorem result_tryEntry_range_of_head? (hleads : leads text.toList = true)
    (h : text.toList.head? ≠ some 'n') :
    (tryEntry read scope text slot rangeEntry).result = none := by
  refine result_tryEntry_eq_none (result_matchElement_eq_none fun p hp index split hsplit _ _ => ?_)
  obtain rfl := List.mem_singleton.1 hp
  obtain ⟨front, hfront, rest, htext⟩ := exists_numbers_of_mem_splits_range hleads hsplit
  exact absurd (head?_of_forall₂ hleads htext (by decide) hfront) h

/-! ### Literals -/

/-- What is written down without blanks, braces and percent signs. -/
theorem written_of_plain {cs spelling : List Char} (hleads : leads spelling = true)
    (hplain : ∀ c ∈ spelling, isBlank c = false ∧ isMark c = false) (hmarks : marks cs = []) :
    Written cs spelling where
  leads := hleads
  last := fun c hc => (hplain c (List.mem_of_getLast? hc)).1
  marks := by rw [hmarks, marks_eq_nil fun c hc => (hplain c hc).2]
  even := by
    rw [List.count_eq_zero_of_not_mem fun hmem => absurd (hplain _ hmem).2 (by decide)]
    exact .zero
  newline := fun hmem => absurd (hplain _ hmem).1 (by decide)

theorem plain_boolText (b : Bool) :
    ∀ c ∈ (Value.boolText b).toList, isBlank c = false ∧ isMark c = false := by
  have hall : ∀ b, (Value.boolText b).toList.all (fun c => !isBlank c && !isMark c) = true := by
    decide
  intro c hc
  simpa using List.all_eq_true.1 (hall b) c hc

/-- A number has no letters in it. -/
theorem not_isLower_of_isPlainNumber {cs : List Char} (h : isPlainNumber cs = true) :
    ¬∀ c ∈ lower (trim cs), c.isLower = true := by
  intro hlower
  cases cs with
  | nil => cases h
  | cons c cs =>
    have hleads := leads_of_isPlainNumber h
    obtain ⟨hsmall, hc, hblank, -⟩ := toLower_of_leads hleads
    refine not_mem_of_forall_isLower hlower hsmall hc hblank ?_ List.mem_cons_self
    rcases mem_of_isPlainNumber h List.mem_cons_self with hdigit | rfl | rfl
    · rw [Bool.eq_false_iff]
      intro hletter
      rw [(basic_of_isLower hletter).2.2] at hdigit
      cases hdigit
    · decide
    · decide

/-- A literal as it is written down. -/
inductive LiteralText : List Char → Prop
  | number {cs : List Char} (h : isPlainNumber cs = true) : LiteralText cs
  | truth (b : Bool) : LiteralText (Value.boolText b).toList

namespace LiteralText

variable {cs : List Char}

theorem lone (h : LiteralText cs) : Lone cs := by
  cases h with
  | number h => exact .number h
  | truth b => exact .truth b

theorem plain (h : LiteralText cs) : ∀ c ∈ cs, isBlank c = false ∧ isMark c = false := by
  cases h with
  | number h => exact plain_of_isPlainNumber h
  | truth b => exact plain_boolText b

theorem head?_ne (h : LiteralText cs) : cs.head? ≠ some '{' ∧ cs.head? ≠ some '"' ∧
    cs.head? ≠ some 'l' ∧ cs.head? ≠ some 'e' ∧ cs.head? ≠ some 'n' := by
  cases h with
  | number h =>
    have hne {c : Char} (hdigit : c.isDigit = false) (hpoint : c ≠ '.') (hminus : c ≠ '-') :
        cs.head? ≠ some c := by
      intro hc
      rcases mem_of_isPlainNumber h (List.mem_of_head? hc) with h | h | h
      · rw [hdigit] at h
        cases h
      · exact hpoint h
      · exact hminus h
    exact ⟨hne (by decide) (by decide) (by decide), hne (by decide) (by decide) (by decide),
      hne (by decide) (by decide) (by decide), hne (by decide) (by decide) (by decide),
      hne (by decide) (by decide) (by decide)⟩
  | truth b => cases b <;> decide

theorem lookup?_eq_none (h : LiteralText text.toList) : builtInTypes.lookup? text = none := by
  rw [Option.eq_none_iff_forall_ne_some]
  rintro ⟨info, plural⟩ hinfo
  have hlower := forall_isLower_of_lookup? hinfo
  generalize hcs : text.toList = cs at h
  cases h with
  | number h => exact not_isLower_of_isPlainNumber h (hcs ▸ hlower)
  | truth b =>
    obtain rfl : text = Value.boolText b := String.toList_injective hcs
    have hnone : ∀ b, (builtInTypes.lookup? (Value.boolText b)).isNone = true := by
      decide +kernel
    have := hnone b
    rw [hinfo] at this
    cases this

/-- No registered expression reads a literal. -/
theorem result_groups (hknows : Knows registry word) (hsystem : scope.system = registry.system)
    (h : LiteralText text.toList) :
    (Attempt.firstOf (fun p => tryGroup read scope text slot (registry.inGroup p))
      Priority.inOrder).result = none := by
  have htypes : scope.system.types = builtInTypes := by rw [hsystem, hknows.types]
  obtain ⟨hbrace, -, hl, he, hn⟩ := h.head?_ne
  have hleads := h.lone.leads
  rw [Parsing.result_groups hknows, result_tryEntry_variable_of_head? hbrace,
    result_tryEntry_loop_of_head? hleads hl,
    result_tryEntry_event_of_head? htypes hleads he h.lookup?_eq_none,
    result_tryEntry_range_of_head? hleads hn]
  rfl

end LiteralText

theorem readNumber?_of_isPlainNumber (h : isPlainNumber text.toList = true) :
    readNumber? text = (Decimal.read? text.toList).map .number := by
  rw [readNumber?, trim_of_trimmed (trimmed_of_plain (plain_of_isPlainNumber h))]
  simp only [h, if_true]

theorem readBoolean?_of_isPlainNumber (h : isPlainNumber text.toList = true) :
    readBoolean? text = none := by
  rw [Option.eq_none_iff_forall_ne_some]
  intro v hv
  exact not_isLower_of_isPlainNumber h (forall_isLower_of_readBoolean? hv)

theorem read_boolText (b : Bool) : readBoolean? (Value.boolText b) = some (.boolean b) ∧
    readNumber? (Value.boolText b) = none := by
  cases b <;> exact ⟨rfl, rfl⟩

/-- The first type that has a literal for a text decides, but all have the same one. -/
theorem findSome?_of_forall {α β : Type} {f : α → Option β} {b : β} {xs : List α}
    (h : ∀ a, f a = none ∨ f a = some b) (hsome : ∃ a ∈ xs, f a = some b) :
    xs.findSome? f = some b := by
  obtain ⟨a, ha, hfa⟩ := hsome
  cases hfound : xs.findSome? f with
  | none =>
    rw [List.findSome?_eq_none_iff.1 hfound a ha] at hfa
    cases hfa
  | some b' =>
    obtain ⟨a', -, hfa'⟩ := List.exists_of_findSome?_eq_some hfound
    rcases h a' with h | h <;> rw [h] at hfa' <;> cases hfa'
    rfl

/-- Which types have a literal for a text. -/
theorem result_parseLiteral_of (htypes : scope.system.types = builtInTypes) {v : Value}
    (hread : readBoolean? text = some v ∧ readNumber? text = none ∨
      readBoolean? text = none ∧ readNumber? text = some v)
    (hslot : ∃ type ∈ slot.types, builtInTypes.readLiteral? type text = some v) :
    (parseLiteral scope text slot).result = some (.literal [v] v.typeName true) := by
  rw [result_parseLiteral, htypes, findSome?_of_forall (fun type => ?_) hslot]
  · rfl
  · rw [readLiteral?_builtIn]
    rcases hread with ⟨hboolean, hnumber⟩ | ⟨hboolean, hnumber⟩ <;> rw [hboolean, hnumber] <;>
      split_ifs <;> simp

/-- A type that has a literal for a text has one for any other text of this kind. -/
theorem readLiteral?_congr {type other : String} {v w : Value}
    (hread : readBoolean? text = none ∧ readBoolean? other = none ∧ readNumber? other = some w ∨
      readNumber? text = none ∧ readBoolean? other = some w)
    (h : builtInTypes.readLiteral? type text = some v) :
    builtInTypes.readLiteral? type other = some w := by
  rw [readLiteral?_builtIn] at h ⊢
  rcases hread with ⟨htext, hboolean, hnumber⟩ | ⟨htext, hboolean⟩
  · rw [htext] at h
    rw [hboolean, hnumber]
    split_ifs at h ⊢ <;> rfl
  · rw [htext] at h
    rw [hboolean]
    split_ifs at h ⊢ <;> rfl

/-- A number is read as it is, where it can be taken as it is. -/
theorem result_parseSingle_number (hknows : Knows registry word)
    (hsystem : scope.system = registry.system) (hplain : isPlainNumber text.toList = true)
    {x : Number} (hread : Decimal.read? text.toList = some x) (hfree : slot.literalOnly = false)
    (haccepts : scope.system.acceptance? numberType slot.types = some .direct) :
    (parseSingle registry read scope text slot).result =
      some (.literal [.number x] numberType true) := by
  have htypes : scope.system.types = builtInTypes := by rw [hsystem, hknows.types]
  have hnumber : plainNumber? scope.system text slot = some (.number x) := by
    rw [plainNumber?, hplain, haccepts, htypes, readLiteral?_builtIn,
      readNumber?_of_isPlainNumber hplain, hread]
    rfl
  rw [parseSingle, unquote_eq_none_of_head? (LiteralText.number hplain).head?_ne.2.1]
  simp only [hfree, Bool.false_eq_true, if_false, hnumber]
  rw [acceptFor, convertExpression?]
  simp only [Expression.returns, haccepts]
  rfl

/-- A literal is read where only literals can stand. -/
theorem result_parseSingle_literal (hknows : Knows registry word)
    (hsystem : scope.system = registry.system) (htext : LiteralText text.toList)
    (hplain : slot.literalOnly = true ∨ isPlainNumber text.toList = false) :
    (parseSingle registry read scope text slot).result = (parseLiteral scope text slot).result := by
  have hunquote := unquote_eq_none_of_head? htext.head?_ne.2.1
  cases hfree : slot.literalOnly with
  | true =>
    rw [parseSingle, hunquote]
    simp only [hfree, if_true]
  | false =>
    rw [hfree] at hplain
    rw [result_parseSingle_of_free hfree hunquote (hplain.resolve_left (by simp)),
      htext.result_groups hknows hsystem, Option.none_or]

theorem describe_literal (v : Value) (type : String) :
    (Expression.literal [v] type true).describe false = v.source := by
  simp [Expression.describe, joinList]

/-- Single values that are no ranges are spelled as such. -/
theorem shaped_of_lone (hbounds : e.bounds? = none) (hlone : Lone e.spelling) : Shaped e where
  lone _ := hlone
  bounds low high h := by
    rw [hbounds] at h
    cases h

theorem readBoolean?_cases {v : Value} (h : readBoolean? text = some v) :
    ∃ b, v = .boolean b := by
  rw [readBoolean?] at h
  split at h
  · exact ⟨_, (Option.some.inj h).symm⟩
  · split at h
    · exact ⟨_, (Option.some.inj h).symm⟩
    · cases h

theorem readNumber?_cases {v : Value} (h : readNumber? text = some v) :
    isPlainNumber (trim text.toList) = true ∧ readBoolean? text = none ∧ ∃ x, v = .number x := by
  rw [readNumber?] at h
  split at h
  · next hplain =>
    obtain ⟨x, -, rfl⟩ := Option.map_eq_some_iff.1 h
    refine ⟨hplain, Option.eq_none_iff_forall_ne_some.2 fun v hv => ?_, x, rfl⟩
    have hlower := forall_isLower_of_readBoolean? hv
    rw [← trim_of_trimmed (trimmed_trim text.toList)] at hlower
    exact not_isLower_of_isPlainNumber hplain hlower
  · cases h

theorem readLiteral?_cases {type : String} {v : Value}
    (h : builtInTypes.readLiteral? type text = some v) :
    readBoolean? text = some v ∨
      (type = objectType ∨ type = numberType) ∧ readNumber? text = some v := by
  rw [readLiteral?_builtIn] at h
  split_ifs at h with hobject hboolean hnumber
  · rcases Option.or_eq_some_iff.1 h with h | ⟨-, h⟩
    · exact .inl h
    · exact .inr ⟨.inl hobject, h⟩
  · exact .inl h
  · exact .inr ⟨.inr hnumber, h⟩

theorem acceptance?_of_mem_object {system : TypeSystem} {type produced : String}
    {required : List String} (hmem : type ∈ required) (htype : type = objectType ∨ type = produced) :
    system.acceptance? produced required = some .direct := by
  rw [TypeSystem.acceptance?, if_pos]
  refine List.any_eq_true.2 ⟨type, hmem, ?_⟩
  rcases htype with rfl | rfl
  · exact TypeTable.isAssignable_object _ _
  · exact TypeTable.isAssignable_refl _ _

/-- Truth values are read again as they are written down. -/
theorem renewed_boolean (hknows : Knows registry word) (hsystem : scope.system = registry.system)
    {b : Bool} {type : String} (htype : type ∈ slot.types)
    (hread : builtInTypes.readLiteral? type text = some (.boolean b))
    (hboolean : readBoolean? text = some (.boolean b)) :
    Renewed (parseSingle registry read' scope) text slot
      (.literal [.boolean b] booleanType true) := by
  have htypes : scope.system.types = builtInTypes := by rw [hsystem, hknows.types]
  have hspelling : (Expression.literal [.boolean b] booleanType true).spelling =
      (Value.boolText b).toList := by
    rw [Expression.spelling, describe_literal]
    rfl
  obtain ⟨hagain, hnone⟩ := read_boolText b
  have htext : LiteralText (Value.boolText b).toList := .truth b
  have hnumber : readNumber? text = none := by
    rw [Option.eq_none_iff_forall_ne_some]
    intro v hv
    rw [(readNumber?_cases hv).2.1] at hboolean
    cases hboolean
  refine ⟨?_, shaped_of_lone rfl ?_, .literal [.boolean b] booleanType true, ?_, .refl _⟩
  · rw [hspelling]
    exact written_of_plain htext.lone.leads htext.plain
      (marks_of_forall_isLower (forall_isLower_of_readBoolean? hboolean))
  · rw [hspelling]
    exact htext.lone
  · rw [describe_literal]
    refine (result_parseSingle_literal hknows hsystem htext (.inr ?_)).trans
      (result_parseLiteral_of htypes (.inl ⟨hagain, hnone⟩)
        ⟨type, htype, readLiteral?_congr (.inr ⟨hnumber, hagain⟩) hread⟩)
    cases b <;> decide

/-- Numbers are read again as they are written down. -/
theorem renewed_number (hknows : Knows registry word) (hsystem : scope.system = registry.system)
    {x : Number} (hfinite : Decimal.isFinite x = true)
    (hslot : scope.system.acceptance? numberType slot.types = some .direct)
    (hmarks : marks text.toList = []) :
    Renewed (parseSingle registry read' scope) text slot
      (.literal [.number x] numberType true) := by
  have htypes : scope.system.types = builtInTypes := by rw [hsystem, hknows.types]
  have hspelling : (Expression.literal [.number x] numberType true).spelling =
      (Decimal.numberText x).toList := by
    rw [Expression.spelling, describe_literal]
    rfl
  obtain ⟨hplain, y, hread, hsame⟩ := Decimal.read?_numberText hfinite
  have htext : LiteralText (Decimal.numberText x).toList := .number hplain
  refine ⟨?_, shaped_of_lone rfl ?_, .literal [.number y] numberType true, ?_, ?_⟩
  · rw [hspelling]
    exact written_of_plain htext.lone.leads htext.plain hmarks
  · rw [hspelling]
    exact htext.lone
  · rw [describe_literal, show (Value.number x).source = Decimal.numberText x from rfl]
    -- Where anything can stand, numbers are tried before the literals of the types.
    cases hfree : slot.literalOnly with
    | false => exact result_parseSingle_number hknows hsystem hplain hread hfree hslot
    | true =>
      have hboolean := readBoolean?_of_isPlainNumber hplain
      have hnumber : readNumber? (Decimal.numberText x) = some (.number y) := by
        rw [readNumber?_of_isPlainNumber hplain, hread]
        rfl
      obtain ⟨type, htype, hcases⟩ := TypeSystem.exists_of_direct hslot
      refine (result_parseSingle_literal hknows hsystem htext (.inl hfree)).trans
        (result_parseLiteral_of htypes (.inr ⟨hboolean, hnumber⟩) ⟨type, htype, ?_⟩)
      rw [htypes, isAssignable_builtIn_iff] at hcases
      rw [readLiteral?_builtIn, hboolean, hnumber]
      rcases hcases with rfl | rfl <;> rfl
  · refine ⟨?_, rfl, rfl⟩
    rw [describe_literal, describe_literal]
    exact hsame

/-- **Literals are read again as they are written down.** -/
theorem renewed_of_parseLiteral (hknows : Knows registry word)
    (hsystem : scope.system = registry.system)
    (h : (parseLiteral scope text slot).result = some e) (hlegible : e.legible scope = true) :
    Renewed (parseSingle registry read' scope) text slot e := by
  have htypes : scope.system.types = builtInTypes := by rw [hsystem, hknows.types]
  rw [result_parseLiteral, htypes] at h
  obtain ⟨v, hv, rfl⟩ := Option.map_eq_some_iff.1 h
  obtain ⟨type, htype, hv⟩ := List.exists_of_findSome?_eq_some hv
  rcases readLiteral?_cases hv with hboolean | ⟨hnumber, hread⟩
  · obtain ⟨b, rfl⟩ := readBoolean?_cases hboolean
    exact renewed_boolean hknows hsystem htype hv hboolean
  · obtain ⟨hplain, -, x, rfl⟩ := readNumber?_cases hread
    have hmarks : marks text.toList = [] := by
      rw [marks, ← filter_trim fun c hc => not_isMark_of_isBlank hc, ← marks]
      exact marks_eq_nil fun c hc => (plain_of_isPlainNumber hplain c hc).2
    exact renewed_number hknows hsystem
      (by simpa [Expression.legible, Value.isWritable] using hlegible)
      (acceptance?_of_mem_object htype hnumber) hmarks

/-! ### Quoted texts -/

theorem acceptFor_of_direct (h : scope.system.acceptance? own.returns slot.types = some .direct) :
    (acceptFor scope text slot own).result = some own := by
  rw [acceptFor, convertExpression?, h]
  rfl

theorem spelling_quoted {parts : List Part} (h : ∀ e, .expression e ∈ parts → '"' ∉ e.spelling) :
    (Expression.quoted parts).spelling = '"' :: respell true parts ++ ['"'] := by
  rw [Expression.spelling, Expression.describe, String.toList_append, String.toList_append,
    doubleString, toList_describeParts, double_respell h]
  simp only [String.toList_ofList]
  rfl

theorem describe_quoted_congr {parts parts' : List Part}
    (h : Expression.describeParts false parts' = Expression.describeParts false parts) :
    (Expression.quoted parts').describe false = (Expression.quoted parts).describe false := by
  rw [Expression.describe, h, Expression.describe]

/-- **Quoted texts are read again as they are written down.** -/
theorem renewed_quoted (hread : Renews scope read read') {content : List Char} {parts : List Part}
    (hunquote : unquote text.toList = some content)
    (hparts : (runSetup read scope.location (readTemplate true (String.ofList content))).result =
      some parts)
    (hlegible : Expression.legibleParts scope true parts = true)
    (hslot : scope.system.acceptance? textType slot.types = some .direct) :
    Renewed (parseSingle registry read' scope) text slot (.quoted parts) := by
  obtain ⟨htext, hscan⟩ := unquote_eq_some_iff.1 hunquote
  have hspelled := respelled_of_readTemplate hread
    (fun _ => by rwa [String.toList_ofList]) hparts hlegible
  rw [String.toList_ofList] at hspelled
  have hspelling := spelling_quoted fun e he => (legibleParts_iff.1 hlegible e he).2 rfl
  obtain ⟨parts', hparts', hdescribe⟩ := hspelled.again
  refine ⟨?_, shaped_of_lone rfl (hspelling ▸ .quoted (hspelled.scan rfl)), .quoted parts', ?_, ?_⟩
  · rw [hspelling, htext]
    refine ⟨rfl, ?_, ?_, ?_, ?_⟩
    · rw [List.getLast?_concat]
      rintro _ ⟨⟩
      rfl
    · rw [List.cons_append, List.cons_append, marks_cons_of_not rfl, marks_cons_of_not rfl,
        marks_append, marks_append, hspelled.marks]
    · simpa using hspelled.even
    · intro hfeed
      simp only [List.cons_append, List.mem_cons, List.mem_append, Char.reduceEq, false_or,
        List.not_mem_nil, or_false] at hfeed ⊢
      exact hspelled.newline hfeed
  · have hagain : unquote ((Expression.quoted parts).describe false).toList =
        some (respell true parts) := by
      rw [← Expression.spelling, hspelling]
      exact unquote_eq_some_iff.2 ⟨rfl, hspelled.scan rfl⟩
    rw [parseSingle, hagain, result_bind, hparts', Option.bind_some]
    exact acceptFor_of_direct hslot
  · exact ⟨describe_quoted_congr hdescribe, rfl, rfl⟩

/-- A text with nothing in it that has to be doubled is written between quotes. -/
theorem spelling_text {s : String} (h : '"' ∉ s.toList ∧ '%' ∉ s.toList) :
    (Expression.literal [.text s] textType true).describe false = verbatim s ∧
      (verbatim s).toList = '"' :: s.toList ++ ['"'] := by
  have hplain : escape true s.toList = s.toList := by
    rw [escape, if_pos rfl, double_of_not_mem h.2, double_of_not_mem h.1]
  have hverbatim : (verbatim s).toList = '"' :: s.toList ++ ['"'] := by
    rw [toList_verbatim, hplain]
  refine ⟨String.toList_injective ?_, hverbatim⟩
  rw [describe_literal, Value.source, String.toList_append, String.toList_append, doubleString,
    double_of_not_mem h.1, hverbatim]
  simp only [String.toList_ofList]
  rfl

/-- A number that stands for a text is read again as the text that is written down. -/
theorem renewed_text {s : String} (hplain : ∀ c ∈ s.toList, c ≠ '"' ∧ isMark c = false ∧ c ≠ '\n')
    (hmarks : marks text.toList = [])
    (hslot : scope.system.acceptance? textType slot.types = some .direct) :
    Renewed (parseSingle registry read' scope) text slot (.literal [.text s] textType true) := by
  have hquote : '"' ∉ s.toList := fun hmem => (hplain _ hmem).1 rfl
  have hpercent : '%' ∉ s.toList := fun hmem => absurd (hplain _ hmem).2.1 (by decide)
  obtain ⟨hdescribe, hverbatim⟩ := spelling_text ⟨hquote, hpercent⟩
  have hspelling : (Expression.literal [.text s] textType true).spelling =
      '"' :: s.toList ++ ['"'] := by
    rw [Expression.spelling, hdescribe, hverbatim]
  have hscan : quoteScan .outside s.toList = some .outside := by
    have := quoteScan_double s.toList
    rwa [double_of_not_mem hpercent, double_of_not_mem hquote] at this
  refine ⟨?_, shaped_of_lone rfl (hspelling ▸ .quoted hscan), .quoted [.text s], ?_, ?_⟩
  · rw [hspelling]
    refine ⟨rfl, ?_, ?_, ?_, ?_⟩
    · rw [List.getLast?_concat]
      rintro _ ⟨⟩
      rfl
    · rw [hmarks, List.cons_append, marks_cons_of_not rfl, marks_append,
        marks_eq_nil fun c hc => (hplain c hc).2.1]
      rfl
    · simp [List.count_eq_zero_of_not_mem hpercent]
    · intro hfeed
      simp only [List.cons_append, List.mem_cons, List.mem_append, Char.reduceEq, false_or,
        List.not_mem_nil, or_false] at hfeed
      exact absurd rfl (hplain _ hfeed).2.2
  · rw [hdescribe, parseSingle, unquote_verbatim, result_bind, readTemplate_verbatim]
    exact acceptFor_of_direct hslot
  · exact ⟨(describe_verbatim s false).trans hdescribe.symm, rfl, rfl⟩

theorem plain_numberText (x : Number) :
    ∀ c ∈ (Decimal.numberText x).toList, c ≠ '"' ∧ isMark c = false ∧ c ≠ '\n' := by
  by_cases hfinite : Decimal.isFinite x = true
  · intro c hc
    have hplain := (Decimal.read?_numberText hfinite).1
    obtain ⟨hblank, hmark⟩ := plain_of_isPlainNumber hplain c hc
    refine ⟨?_, hmark, ?_⟩
    · rintro rfl
      rcases mem_of_isPlainNumber hplain hc with h | h | h <;> exact absurd h (by decide)
    · rintro rfl
      cases hblank
  · -- A text can stand for a number that has no literal of its own.
    have hwords : ∀ s ∈ ["NaN", "-inf", "inf"],
        s.toList.all (fun c => c != '"' && !isMark c && c != '\n') = true := by
      decide
    have hmem : Decimal.numberText x ∈ ["NaN", "-inf", "inf"] := by
      rw [Decimal.isFinite] at hfinite
      rw [Decimal.numberText, Decimal.display]
      cases hdyadic : Decimal.Dyadic.ofNumber x with
      | nan => simp
      | infinite negative => cases negative <;> simp
      | finite negative mantissa exponent =>
        rw [hdyadic] at hfinite
        exact absurd rfl hfinite
    intro c hc
    simpa [and_assoc] using List.all_eq_true.1 (hwords _ hmem) c hc

theorem knowsTypes_of_knows (hknows : Knows registry word)
    (hsystem : scope.system = registry.system) : KnowsTypes scope.system :=
  ⟨by rw [hsystem, hknows.types], by rw [hsystem, hknows.conversions]⟩

/-- **Numbers are read again as they are written down,** also where they stand for texts. -/
theorem renewed_of_number (hknows : Knows registry word) (hsystem : scope.system = registry.system)
    {x : Number} (hplain : isPlainNumber text.toList = true)
    (hconvert : convertExpression? scope.system slot.types (.literal [.number x] numberType true) =
      some e) (hlegible : e.legible scope = true) :
    Renewed (parseSingle registry read' scope) text slot e := by
  have hmarks : marks text.toList = [] :=
    marks_eq_nil fun c hc => (plain_of_isPlainNumber hplain c hc).2
  have htypes := knowsTypes_of_knows hknows hsystem
  unfold convertExpression? at hconvert
  split at hconvert
  · cases hconvert
  · next hdirect =>
    cases hconvert
    exact renewed_number hknows hsystem
      (by simpa [Expression.legible, Value.isWritable] using hlegible) hdirect hmarks
  · next target htarget =>
    -- Numbers can only become texts. The number is known, so that happens at once.
    rcases htypes.cases_of_number htarget with h | ⟨h, hmem⟩
    · cases h
    · cases h
      rw [Expression.constants?] at hconvert
      simp only [List.mapM_cons, List.mapM_nil, htypes.convert_number] at hconvert
      cases hconvert
      exact renewed_text (plain_numberText x) hmarks (acceptance?_of_mem hmem)

end TriggerScript.Parsing

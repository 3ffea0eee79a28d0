import TriggerScript.Proofs.Parsing.Again

/-!
# Variables, values of loops and events, and ranges that are read again

* `renewed_of_reread` : what is made to fit a slot is read again if what it was made of is.
* `reread_variable`, `reread_loop`, `reread_event`, `reread_range` : each kind by itself.
* `renews_parseSingle` : all single values together.
-/

namespace TriggerScript.Parsing

open Vocabulary Pattern Text

variable {registry : Registry} {word : Regex} {scope : Scope} {read read' : Reader} {text : String}
  {slot : Slot} {e own own' : Expression}

/-! ### Fitting a slot -/

theorem describe_converted (inner : Expression) (target : String) :
    (Expression.converted inner target).describe false = inner.describe false := by
  simp [Expression.describe]

/-- What is not known before anything runs is taken as it is or converted later. -/
theorem convertExpression?_cases {system : TypeSystem} {required : List String}
    (hconstants : own.constants? = none) (h : convertExpression? system required own = some e) :
    e = own ∨ ∃ target, e = .converted own target := by
  unfold convertExpression? at h
  split at h
  · cases h
  · exact .inl (Option.some.inj h).symm
  · rw [hconstants] at h
    exact .inr ⟨_, (Option.some.inj h).symm⟩

theorem exists_convertExpression? {system : TypeSystem} {required : List String}
    (hconstants : own.constants? = none) (hconstants' : own'.constants? = none)
    (halike : Alike own own') (h : convertExpression? system required own = some e) :
    ∃ e', convertExpression? system required own' = some e' ∧ Alike e e' := by
  unfold convertExpression? at h ⊢
  rw [halike.returns]
  split at h
  · cases h
  · cases h
    exact ⟨own', rfl, halike⟩
  · next target _ =>
    rw [hconstants] at h
    cases h
    rw [hconstants']
    exact ⟨_, rfl, halike.converted target⟩

/-- An expression that is known only when a line runs, and how it is read again. -/
structure Reread (registry : Registry) (read' : Reader) (scope : Scope) (text : List Char)
    (slot : Slot) (own : Expression) : Prop where
  constants : own.constants? = none
  written : Written text own.spelling
  shaped : Shaped own
  again : ∃ own', own'.constants? = none ∧ Alike own own' ∧
    ∀ e', convertExpression? scope.system slot.types own' = some e' →
      (parseSingle registry read' scope (own.describe false) slot).result = some e'

/-- **What is made to fit a slot is read again if what it was made of is.** -/
theorem renewed_of_reread (h : Reread registry read' scope text.toList slot own)
    (hconvert : convertExpression? scope.system slot.types own = some e) :
    Renewed (parseSingle registry read' scope) text slot e := by
  obtain ⟨own', hconstants, halike, hread⟩ := h.again
  obtain ⟨e', he', halike'⟩ := exists_convertExpression? h.constants hconstants halike hconvert
  have hagain := hread e' he'
  rcases convertExpression?_cases h.constants hconvert with rfl | ⟨target, rfl⟩
  · exact ⟨h.written, h.shaped, e', hagain, halike'⟩
  · have hspelling : (Expression.converted own target).spelling = own.spelling := by
      rw [Expression.spelling, describe_converted]
      rfl
    refine ⟨hspelling ▸ h.written, ⟨?_, ?_⟩, e', ?_, halike'⟩
    · rw [hspelling]
      exact h.shaped.lone
    · intro low high hbounds
      exact { h.shaped.bounds low high hbounds with
        spelling := hspelling.trans (h.shaped.bounds low high hbounds).spelling }
    · rwa [describe_converted]

theorem types_ne_nil (h : convertExpression? scope.system slot.types own = some e) :
    slot.types ≠ [] := by
  intro hnil
  rw [convertExpression?, hnil] at h
  cases h

/-! ### Variables -/

theorem readTemplate_of_variableName {name : String} {parts : List Part}
    (h : (runSetup read scope.location (variableName name)).result = some parts) :
    braceDepth? 0 name.toList = some 0 ∧
      (runSetup read scope.location (readTemplate false name)).result = some parts := by
  unfold variableName at h
  split at h
  · cases h
  · next hdepth => exact ⟨hdepth, h⟩
  · cases h

theorem spelling_variable (parts : List Part) :
    (Expression.variable parts).spelling = braced (respell false parts) := by
  rw [Expression.spelling, Expression.describe, String.toList_append, String.toList_append,
    toList_describeParts]
  rfl

theorem marks_braced (name : List Char) : marks (braced name) = '{' :: marks name ++ ['}'] := by
  rw [braced, List.cons_append, marks_cons_of_isMark rfl, marks_append]
  rfl

/-- **Variables are read again as they are written down.** -/
theorem reread_variable (hknows : Knows registry word) (hread : Renews scope read read')
    (hfree : slot.literalOnly = false) (htypes : slot.types ≠ []) {name : List Char}
    {parts : List Part} (htext : text.toList = braced name) (hname : NameText name)
    (hparts : (runSetup read scope.location (variableName (String.ofList name))).result =
      some parts) (hlegible : Expression.legibleParts scope false parts = true) :
    Reread registry read' scope text.toList slot (.variable parts) := by
  obtain ⟨hdepth, htemplate⟩ := readTemplate_of_variableName hparts
  -- Expressions in the name keep their braces, so the name still ends at the last brace.
  have hspelled := respelled_of_readTemplate hread (by simp) htemplate hlegible
  rw [String.toList_ofList] at hspelled hdepth
  have hdepth' : braceDepth? 0 (respell false parts) = some 0 := by
    rw [← braceDepth?_marks, hspelled.marks, braceDepth?_marks, hdepth]
  have hname' : NameText (respell false parts) :=
    ⟨hspelled.ne_nil hname.1, fun hfeed => hname.2 (hspelled.newline hfeed)⟩
  have hspelling := spelling_variable parts
  obtain ⟨parts', hparts', hdescribe⟩ := hspelled.again
  refine ⟨by simp [Expression.constants?], ?_, shaped_of_lone rfl (hspelling ▸ .named hdepth'),
    .variable parts', by simp [Expression.constants?], ⟨?_, rfl, rfl⟩, fun e' he' => ?_⟩
  · rw [hspelling, htext]
    refine ⟨rfl, ?_, ?_, ?_, ?_⟩
    · rw [braced, List.getLast?_concat]
      rintro _ ⟨⟩
      rfl
    · rw [marks_braced, marks_braced, hspelled.marks]
    · simpa [braced] using hspelled.even
    · intro hfeed
      simp only [braced, List.cons_append, List.mem_cons, List.mem_append, Char.reduceEq, false_or,
        List.not_mem_nil, or_false] at hfeed
      exact absurd hfeed hname'.2
  · rw [Expression.describe, hdescribe, Expression.describe]
  · rw [← he']
    refine result_parseSingle_braced (triesVariables_of_knows hknows) ?_ hname' hfree htypes ?_
    · rw [← hspelling, Expression.spelling]
    · rw [variableName, String.toList_ofList, hdepth']
      exact hparts'

/-! ### Values of loops -/

/-- What the name of a loop stands for depends on its lowercase. -/
theorem loopValue_congr {c c' : Capture} {name name' : String}
    (hname : c.regexes.head? = some name) (hname' : c'.regexes.head? = some name')
    (h : lower (trim name.toList) = lower (trim name'.toList)) :
    loopValue scope c = loopValue scope c' := by
  simp only [loopValue, hname, hname', h]

/-- One of some loops is chosen, unless there is a reason not to. -/
theorem exists_of_choice {location : Option Location} {refused : Bool} {chosen : Option LoopInfo}
    {value : LoopInfo → Expression} {reason message : String}
    (h : (runSetup read location (if refused then .refuse reason .semantic else match chosen with
      | some l => .accept (value l)
      | none => .refuse message .semantic)).result = some own) :
    refused = false ∧ ∃ l, chosen = some l ∧ own = value l := by
  cases refused with
  | true => cases h
  | false =>
    obtain ⟨l, rfl, rfl⟩ := result_choice_iff.1 h
    exact ⟨rfl, l, rfl, rfl⟩

/-- What a loop value is read as. -/
theorem exists_of_loopValue {c : Capture} {name : String}
    (hname : c.regexes.head? = some name)
    (h : (runSetup read scope.location (loopValue scope c)).result = some own) :
    (∃ id type, own = .loopValue (String.ofList (lower (trim name.toList))) id type) ∧
      (∃ base index, loopNumber (lower (trim name.toList)) = (base, index) ∧
        (base = "value".toList ∨ (scope.system.types.lookup? (String.ofList base)).isSome)) ∧
      ∀ read', (runSetup read' scope.location (loopValue scope c)).result = some own := by
  obtain ⟨base, index, hnumber⟩ : ∃ base index,
      loopNumber (lower (trim name.toList)) = (base, index) := ⟨_, _, rfl⟩
  rw [loopValue, hname] at h ⊢
  simp only [hnumber] at h ⊢
  split at h
  · next hvalue =>
    rw [if_pos hvalue]
    obtain ⟨hrefused, l, hchosen, rfl⟩ := exists_of_choice h
    refine ⟨⟨_, _, rfl⟩, ⟨base, index, rfl, .inl ?_⟩, fun read' => ?_⟩
    · rw [← String.toList_ofList (l := base), beq_iff_eq.1 hvalue]
    · rw [hrefused, hchosen]
      rfl
  · next hvalue =>
    rw [if_neg hvalue]
    split at h
    · next info plural hinfo =>
      obtain ⟨hrefused, l, hchosen, rfl⟩ := exists_of_choice h
      refine ⟨⟨_, _, rfl⟩, ⟨base, index, rfl, .inr (by rw [hinfo]; rfl)⟩, fun read' => ?_⟩
      simp only [hrefused, hchosen]
      rfl
    · cases h

/-- An element accepts with the first way to match its first pattern if that can be read. -/
theorem result_matchElement_of_first {α : Type} {setup : Scope → Capture → Setup α} {p : Pattern}
    {more : List Pattern} {split : Split} {parts : List (Option Expression)} {a : α}
    (hsplit : (p.splits text.toList).head? = some split)
    (hparts : (parseSlots read scope p.slots split.spans).result = some parts)
    (hsetup : (runSetup read scope.location (setup scope (capture 0 split parts))).result = some a) :
    (matchElement read scope setup (p :: more) text).result = some a := by
  obtain ⟨rest, hsplits⟩ := List.head?_eq_some_iff.1 hsplit
  have hmatch : (matchPattern read scope 0 p text).result = some (capture 0 split parts) := by
    rw [result_matchPattern_eq, hsplits, List.findSome?_cons, hparts]
    rfl
  rw [matchElement, numbered, List.zipIdx_cons, List.map_cons, result_firstOf, List.findSome?_cons,
    result_bind, hmatch, Option.bind_some, hsetup]

theorem result_tryEntry_of_match {entry : ExpressionEntry Pattern}
    (haccepts : (scope.system.acceptance? entry.returns slot.types).isSome)
    (hmatch : (matchElement read scope entry.setup entry.patterns text).result = some own) :
    (tryEntry read scope text slot entry).result =
      convertExpression? scope.system slot.types own := by
  rw [tryEntry, if_neg (by simpa [← Option.isSome_iff_ne_none] using haccepts), result_bind, hmatch]
  rfl

/-- No line end comes into a text when it is lowered. -/
theorem newline_mem_of_mem_lower {cs : List Char} (h : '\n' ∈ lower (trim cs)) : '\n' ∈ cs := by
  obtain ⟨c, hc, hstem | hstem⟩ := exists_stem h
  · obtain rfl := eq_of_isBlank_mem_lowerChar hstem (by decide)
    exact mem_of_mem_trim hc
  · exact absurd hstem.1 (by decide)

/-- The name of a loop is the word `value` or the name of a type, with a number behind it or not. -/
theorem plain_of_loopNumber {name base : List Char} {index : Option Nat}
    (hnumber : loopNumber name = (base, index))
    (hbase : base = "value".toList ∨ (builtInTypes.lookup? (String.ofList base)).isSome) :
    marks name = [] ∧ ∃ c ∈ name, isBlank c = false := by
  have hplain : marks base = [] ∧ ∃ c ∈ base, isBlank c = false := by
    rcases hbase with rfl | hlookup
    · exact ⟨rfl, 'v', by decide, by decide⟩
    · obtain ⟨⟨info, plural⟩, hinfo⟩ := Option.isSome_iff_exists.1 hlookup
      have hletters := forall_isLower_of_lookup? hinfo
      have hblank := exists_not_isBlank_of_lookup? hinfo
      rw [String.toList_ofList] at hletters hblank
      exact ⟨marks_of_forall_isLower hletters, hblank⟩
  obtain ⟨hmarks, c, hc, hblank⟩ := hplain
  rcases loopNumber_cases name with hnone | ⟨_, ds, _, rfl, hds, hsome⟩
  · obtain rfl : name = base := congrArg Prod.fst (hnone.symm.trans hnumber)
    exact ⟨hmarks, c, hc, hblank⟩
  · obtain rfl := congrArg Prod.fst (hsome.symm.trans hnumber)
    refine ⟨?_, c, List.mem_append_left _ hc, hblank⟩
    have hdigits : marks ('-' :: ds) = [] := marks_eq_nil fun d hd => by
      rcases List.mem_cons.1 hd with rfl | hd
      · decide
      · exact (plain_of_isDigit (List.all_eq_true.1 (Bool.and_eq_true_iff.1 hds).2 d hd)).2
    rw [marks_append, hmarks, hdigits, List.append_nil]

theorem spelling_loopValue (name id type) :
    (Expression.loopValue (String.ofList name) id type).spelling =
      ['l', 'o', 'o', 'p', '-'] ++ name := by
  rw [Expression.spelling, Expression.describe, String.toList_append, String.toList_ofList,
    String.toList_ofList]

/-- What stands behind a word is taken as a name. -/
theorem result_matchElement_named {α : Type} {setup : Scope → Capture → Setup α} {source : String}
    {front name : List Char} {more : List Pattern} {a : α} (hfront : Neutral front)
    (hne : front ≠ []) (hleads : leads (front ++ name) = true) (htext : text.toList = front ++ name)
    (hname : NameText name) (haccepts : ∀ c : Capture, c.regexes.head? = some (String.ofList name) →
      (runSetup read scope.location (setup scope c)).result = some a) :
    (matchElement read scope setup
      (withArticle source [.literal front, .regex 0] [] [anyText] :: more) text).result = some a := by
  have hsplit : ((withArticle source [.literal front, .regex 0] [] [anyText]).splits
      text.toList).head? = some ⟨0, [], [some name]⟩ := by
    rw [htext]
    exact head?_splits_named hfront hleads hne hname.1 (accepts_anyText_iff.2 hname)
  have hparts : (parseSlots read scope
      (withArticle source [.literal front, .regex 0] [] [anyText]).slots []).result = some [] := rfl
  have hsetup : (runSetup read scope.location
      (setup scope (capture 0 ⟨0, [], [some name]⟩ []))).result = some a :=
    haccepts _ head?_regexes_capture
  exact result_matchElement_of_first hsplit hparts hsetup

/-- A loop value is tried as such. -/
theorem result_parseSingle_loop (hknows : Knows registry word) (hfree : slot.literalOnly = false)
    (htypes : slot.types ≠ []) {name : List Char}
    (htext : text.toList = ['l', 'o', 'o', 'p', '-'] ++ name) (hname : NameText name)
    (haccepts : ∀ c : Capture, c.regexes.head? = some (String.ofList name) →
      (runSetup read scope.location (loopValue scope c)).result = some own)
    (hfits : convertExpression? scope.system slot.types own = some e) :
    (parseSingle registry read scope text slot).result = some e := by
  have hplain : isPlainNumber text.toList = false := by
    simp [htext, isPlainNumber, isUnsignedNumber, isDigits]
  have hmatch : (matchElement read scope loopValue [loopPattern] text).result = some own :=
    result_matchElement_named (by decide) (by decide) rfl htext hname haccepts
  rw [result_parseSingle_of_free hfree (unquote_eq_none_of_head? (by simp [htext])) hplain,
    result_groups hknows, result_tryEntry_variable_of_head? (by simp [htext]),
    result_tryEntry_of_match (isSome_acceptance?_object scope.system htypes) hmatch, hfits]
  rfl

/-- What is written down with a known word in front, and no braces and percent signs. -/
theorem written_of_named {cs word name : List Char} (hleads : leads (word ++ name) = true)
    (hword : marks word = []) (hname : marks name = []) (htrimmed : Trimmed name) (hne : name ≠ [])
    (hnewline : '\n' ∉ word ++ name) (hmarks : marks cs = []) : Written cs (word ++ name) where
  leads := hleads
  last := by
    rw [List.getLast?_append_of_ne_nil _ hne]
    exact htrimmed.last
  marks := by rw [marks_append, hword, hname, hmarks, List.append_nil]
  even := by
    rw [count_eq_of_marks (show marks _ = marks [] by rw [marks_append, hword, hname]; rfl)]
    exact .zero
  newline h := absurd h hnewline

/-- **Values of loops are read again as they are written down.** -/
theorem reread_loop (hknows : Knows registry word) (hsystem : scope.system = registry.system)
    (hfree : slot.literalOnly = false) (htypes : slot.types ≠ []) {front name : List Char}
    {c : Capture} (htext : text.toList = front ++ name) (hfront : ∀ c ∈ front, isMark c = false)
    (hname : NameText name) (hregex : c.regexes.head? = some (String.ofList name))
    (haccepts : (runSetup read scope.location (loopValue scope c)).result = some own) :
    Reread registry read' scope text.toList slot own := by
  have htable : scope.system.types = builtInTypes := by rw [hsystem, hknows.types]
  obtain ⟨⟨id, type, rfl⟩, ⟨base, index, hnumber, hbase⟩, hagain⟩ :=
    exists_of_loopValue hregex haccepts
  rw [htable] at hbase
  obtain ⟨hmarks, hblank⟩ := plain_of_loopNumber hnumber hbase
  rw [String.toList_ofList] at hmarks hblank ⊢ hagain
  -- The name is shown as it was looked up. To lower it again changes nothing.
  obtain ⟨shown, hshown⟩ : ∃ shown, shown = lower (trim name) := ⟨_, rfl⟩
  have htrimmed : Trimmed shown := hshown ▸ trimmed_lower (trimmed_trim name)
  have hlower : lower (trim shown) = shown := by
    rw [trim_of_trimmed htrimmed, hshown, lower_lower]
  have hmarks' : marks text.toList = [] := by
    rw [htext, marks_append, marks_eq_nil hfront, marks_of_lower hmarks, List.append_nil]
  rw [← hshown] at hmarks hblank hagain ⊢
  have hname' : NameText shown :=
    ⟨by
      obtain ⟨c, hc, -⟩ := hblank
      exact List.ne_nil_of_mem hc,
    fun h => hname.2 (newline_mem_of_mem_lower (hshown ▸ h))⟩
  have hspelling := spelling_loopValue shown id type
  refine ⟨by simp [Expression.constants?], ?_, shaped_of_lone rfl (hspelling ▸ .loop hblank), _,
    by simp [Expression.constants?], .refl _, fun e' he' => ?_⟩
  · rw [hspelling]
    exact written_of_named rfl (by decide) hmarks htrimmed hname'.1 (by simpa using hname'.2) hmarks'
  · refine result_parseSingle_loop hknows hfree htypes hspelling hname' (fun c' hc' => ?_) he'
    rw [loopValue_congr hc' hregex (by rw [String.toList_ofList, String.toList_ofList, hlower,
      hshown])]
    exact hagain read'

/-! ### Values of the event -/

/-- A value of the event is tried as such. -/
theorem result_parseSingle_event (hknows : Knows registry word) (hfree : slot.literalOnly = false)
    (htypes : slot.types ≠ []) {name : List Char}
    (htext : text.toList = ['e', 'v', 'e', 'n', 't', '-'] ++ name) (hname : NameText name)
    (haccepts : ∀ c : Capture, c.regexes.head? = some (String.ofList name) →
      (runSetup read scope.location (eventValue scope c)).result = some own)
    (hfits : convertExpression? scope.system slot.types own = some e) :
    (parseSingle registry read scope text slot).result = some e := by
  have hplain : isPlainNumber text.toList = false := by
    simp [htext, isPlainNumber, isUnsignedNumber, isDigits]
  have hleads : leads text.toList = true := by
    rw [htext]
    rfl
  have hmatch : (matchElement read scope eventValue [eventPattern, barePattern word] text).result =
      some own :=
    result_matchElement_named (by decide) (by decide) rfl htext hname haccepts
  rw [result_parseSingle_of_free hfree (unquote_eq_none_of_head? (by simp [htext])) hplain,
    result_groups hknows, result_tryEntry_variable_of_head? (by simp [htext]),
    result_tryEntry_loop_of_head? hleads (by simp [htext]),
    result_tryEntry_of_match (isSome_acceptance?_object scope.system htypes) hmatch, hfits]
  rfl

/-- What a value of the event is read as. -/
theorem exists_of_eventValue {c : Capture} {name : String} (hname : c.regexes.head? = some name)
    (h : (runSetup read scope.location (eventValue scope c)).result = some own) :
    ∃ info plural type, scope.system.types.lookup? name = some (info, plural) ∧
      eventValue? scope.system.types scope.events info.code = some type ∧
      own = .eventValue type := by
  rw [eventValue, hname] at h
  dsimp only at h
  split at h
  · cases h
  · next info plural hinfo =>
    split at h
    · next type htype =>
      cases h
      exact ⟨info, plural, type, hinfo, htype, rfl⟩
    · cases h

/-- What the name of a type is read as. -/
theorem result_eventValue_of_lookup? {c : Capture} {name code type : String}
    (hname : c.regexes.head? = some name)
    (hlookup : (scope.system.types.lookup? name).map (·.1.code) = some code)
    (hvalue : eventValue? scope.system.types scope.events code = some type) :
    (runSetup read scope.location (eventValue scope c)).result = some (.eventValue type) := by
  obtain ⟨⟨info, plural⟩, hinfo, rfl⟩ := Option.map_eq_some_iff.1 hlookup
  simp only [eventValue, hname, hinfo, hvalue]
  rfl

theorem spelling_eventValue (type : String) :
    (Expression.eventValue type).spelling = ['e', 'v', 'e', 'n', 't', '-'] ++ type.toList := by
  rw [Expression.spelling, Expression.describe, if_neg Bool.false_ne_true, String.append_empty,
    String.toList_append]
  rfl

/-- **Values of the event are read again as they are written down**, if they are legible. -/
theorem reread_event (hknows : Knows registry word) (hsystem : scope.system = registry.system)
    (hfree : slot.literalOnly = false) (htypes : slot.types ≠ []) {front name : List Char}
    {c : Capture} (htext : text.toList = front ++ name) (hfront : ∀ c ∈ front, isMark c = false)
    (hregex : c.regexes.head? = some (String.ofList name))
    (haccepts : (runSetup read scope.location (eventValue scope c)).result = some own)
    (hlegible : own.legible scope = true) :
    Reread registry read' scope text.toList slot own := by
  have htable : scope.system.types = builtInTypes := by rw [hsystem, hknows.types]
  obtain ⟨info, plural, type, hinfo, -, rfl⟩ := exists_of_eventValue hregex haccepts
  rw [htable] at hinfo
  have hmarks : marks text.toList = [] := by
    have hletters := forall_isLower_of_lookup? hinfo
    rw [String.toList_ofList] at hletters
    rw [htext, marks_append, marks_eq_nil hfront, marks_of_forall_isLower hletters,
      List.append_nil]
  simp only [Expression.legible, Bool.and_eq_true, beq_iff_eq, htable] at hlegible
  obtain ⟨hget, hvalue⟩ := hlegible
  obtain ⟨known, hget⟩ := Option.isSome_iff_exists.1 hget
  obtain ⟨hlookup, hne, hletters⟩ := lookup?_of_get? hget
  have hblank : ∀ c ∈ type.toList, isBlank c = false :=
    fun c hc => not_isBlank_of_isLower (hletters c hc)
  have hname : NameText type.toList := ⟨hne, fun h => absurd (hblank _ h) (by decide)⟩
  have htrimmed : Trimmed type.toList :=
    ⟨fun c hc => hblank c (List.mem_of_mem_head? hc), fun c hc => hblank c (List.mem_of_getLast? hc)⟩
  have hspelling := spelling_eventValue type
  refine ⟨by simp [Expression.constants?], ?_, shaped_of_lone rfl ?_, .eventValue type,
    by simp [Expression.constants?], .refl _, fun e' he' => ?_⟩
  · rw [hspelling]
    exact written_of_named rfl (by decide) (marks_of_isLower hletters) htrimmed hne
      (by simpa using hname.2) hmarks
  · rw [hspelling]
    obtain ⟨c, hc⟩ := List.exists_mem_of_ne_nil _ hne
    exact .event ⟨c, hc, hblank c hc⟩
  · refine result_parseSingle_event hknows hfree htypes hspelling hname (fun c' hc' => ?_) he'
    rw [String.ofList_toList] at hc'
    exact result_eventValue_of_lookup? hc' (by rw [htable, hlookup]) (by rw [htable, hvalue])

/-! ### Ranges -/

theorem result_parseSlots_pair {slots : List Slot} {low high : Span} {first second : Expression}
    {lower upper : Slot} (hslots : slots = [lower, upper])
    (hlow : (read (String.ofList low.text) lower).result = some first)
    (hhigh : (read (String.ofList high.text) upper).result = some second) :
    (parseSlots read scope slots [some low, some high]).result =
      some [some first, some second] := by
  simp [hslots, parseSlots, result_bind, hlow, hhigh, Attempt.ok]

theorem ragged_rangeText (low high : List Char) : Ragged (rangeText low high) :=
  @Ragged.word "numbers".toList ("rom ".toList ++ (low ++ (" to ".toList ++ high))) 'f'
    ⟨'n', by decide, by decide⟩ (by decide)

/-- A range is tried as such. -/
theorem result_parseSingle_range (hknows : Knows registry word)
    (hsystem : scope.system = registry.system) (hfree : slot.literalOnly = false)
    {low high : List Char} {first second : Expression} (htext : text.toList = rangeText low high)
    (hlow : Free Expression.boundWords low) (htrimmed : Trimmed low) (hne : low ≠ [])
    (hhigh : Admissible high)
    (hfirst : (read (String.ofList low) numberSlot).result = some first)
    (hsecond : (read (String.ofList high) numberSlot).result = some second)
    (hfits : convertExpression? scope.system slot.types (.range first second) = some e) :
    (parseSingle registry read scope text slot).result = some e := by
  have htable : scope.system.types = builtInTypes := by rw [hsystem, hknows.types]
  have hragged : Ragged text.toList := htext ▸ ragged_rangeText low high
  have hleads : leads text.toList = true := by
    rw [htext]
    rfl
  have hhead : text.toList.head? = some 'n' := by
    rw [htext]
    rfl
  -- The first way to match cuts at the first free word, which is the one that was written.
  obtain ⟨a, b, hsplit, rfl, rfl⟩ := head?_splits_range
    (by decide) (by decide) hlow htrimmed hne hhigh
  rw [← htext] at hsplit
  have hparts : (parseSlots read scope rangePattern.slots [some a, some b]).result =
      some [some first, some second] :=
    result_parseSlots_pair rfl hfirst hsecond
  have hsetup : (runSetup read scope.location (range scope
      (capture 0 ⟨0, [some a, some b], []⟩ [some first, some second]))).result =
        some (.range first second) := rfl
  have hmatch : (matchElement read scope range [rangePattern] text).result =
      some (.range first second) :=
    result_matchElement_of_first hsplit hparts hsetup
  have haccepts : (scope.system.acceptance? numberType slot.types).isSome := by
    rw [Option.isSome_iff_ne_none]
    intro hnone
    rw [convertExpression?, Expression.returns, hnone] at hfits
    cases hfits
  rw [result_parseSingle_of_free hfree (unquote_eq_none_of_head? (by simp [hhead]))
      (isPlainNumber_of_ragged hragged), result_groups hknows,
    result_tryEntry_variable_of_head? (by simp [hhead]),
    result_tryEntry_loop_of_head? hleads (by simp [hhead]),
    result_tryEntry_event_of_head? htable hleads (by simp [hhead]) (lookup?_of_ragged hragged),
    result_tryEntry_of_match haccepts hmatch, hfits]
  rfl

theorem spelling_range (low high : Expression) :
    (Expression.range low high).spelling = rangeText low.spelling high.spelling := by
  rw [Expression.spelling, Expression.describe, String.toList_append, String.toList_append,
    String.toList_append, List.append_assoc, List.append_assoc]
  rfl

/-- What two texts with one of two words between them have of braces and percent signs. -/
theorem marks_joined {first second low high cs : List Char} (hfirst : Neutral first)
    (hsecond : Neutral second) (h : Joined first second low high cs) :
    marks cs = marks low ++ marks high := by
  obtain ⟨blanks, found, more, rfl, hgap, hfound, hgap'⟩ := h
  have hplain (blanks : List Char) (h : ∀ c ∈ blanks, isBlank c = true) : marks blanks = [] :=
    marks_eq_nil fun c hc => not_isMark_of_isBlank (h c hc)
  have hword : marks found = [] := marks_eq_nil
    (hfound.elim (not_isMark_of_forall₂ hfirst) (not_isMark_of_forall₂ hsecond))
  simp only [marks_append, hplain _ hgap.blank, hplain _ hgap'.blank, hword, List.nil_append]

/-- What is written down of a range, given what is of its ends. -/
theorem written_of_range {cs low high lowSpelling highSpelling : List Char}
    (hlow : Written low lowSpelling) (hhigh : Written high highSpelling)
    (hmarks : marks cs = marks low ++ marks high) (hmem : ∀ c, c ∈ low ∨ c ∈ high → c ∈ cs) :
    Written cs (rangeText lowSpelling highSpelling) where
  leads := rfl
  last := by
    rw [rangeText, List.getLast?_append_of_ne_nil _ (by simp), List.getLast?_append_of_ne_nil _
      (by simp), List.getLast?_append_of_ne_nil _ (ne_nil_of_leads hhigh.leads)]
    exact hhigh.last
  marks := by
    have hwords : marks ['n', 'u', 'm', 'b', 'e', 'r', 's', ' ', 'f', 'r', 'o', 'm', ' '] = [] ∧
        marks [' ', 't', 'o', ' '] = [] := by
      decide
    rw [rangeText, marks_append, marks_append, marks_append, hwords.1, hwords.2, hlow.marks,
      hhigh.marks, hmarks]
    rfl
  even := by
    have hcount : (rangeText lowSpelling highSpelling).count '%' =
        lowSpelling.count '%' + highSpelling.count '%' := by
      simp [rangeText]
    rw [hcount]
    exact hlow.even.add hhigh.even
  newline := by
    simp only [rangeText, List.mem_append, List.mem_cons, Char.reduceEq, List.not_mem_nil, false_or]
    exact fun h => hmem _ (h.imp hlow.newline hhigh.newline)

/-- **Ranges are read again as they are written down.** -/
theorem reread_range (hknows : Knows registry word) (hsystem : scope.system = registry.system)
    (hread : Renews scope read read') (hfree : slot.literalOnly = false)
    {front rest low high : List Char} {first second : Expression} (htext : text.toList = front ++ rest)
    (hfront : ∀ c ∈ front, isMark c = false)
    (hjoined : Joined ['t', 'o'] ['a', 'n', 'd'] low high rest)
    (hlow : (read (String.ofList low) numberSlot).result = some first)
    (hhigh : (read (String.ofList high) numberSlot).result = some second)
    (hlegible : (Expression.range first second).legible scope = true) :
    Reread registry read' scope text.toList slot (.range first second) := by
  simp only [Expression.legible, Bool.and_eq_true, Expression.standsBefore,
    decide_eq_true_eq] at hlegible
  obtain ⟨⟨⟨hfirst, hsecond⟩, hfreeLow⟩, hfreeHigh⟩ := hlegible
  obtain ⟨hwritten, hshaped, first', hagain, halike⟩ := hread hlow hfirst
  obtain ⟨hwritten', hshaped', second', hagain', halike'⟩ := hread hhigh hsecond
  rw [String.toList_ofList] at hwritten hwritten'
  have hspelling := spelling_range first second
  refine ⟨by simp [Expression.constants?], ?_, ⟨fun hlone => ?_, ?_⟩, .range first' second',
    by simp [Expression.constants?], ⟨?_, rfl, ?_⟩, fun e' he' => ?_⟩
  · rw [hspelling]
    exact written_of_range hwritten hwritten' (by rw [htext, marks_append, marks_eq_nil hfront,
      List.nil_append, marks_joined (by decide) (by decide) hjoined]) fun c hc => by
        obtain ⟨blanks, found, more, rfl, -⟩ := hjoined
        simp only [htext, List.mem_append]
        tauto
  · -- A range does not stand by itself in a list: it has a word with blanks around it.
    simp [Expression.isLone] at hlone
  · intro low high hbounds
    simp only [Expression.bounds?, Option.some.injEq, Prod.mk.injEq] at hbounds
    obtain ⟨rfl, rfl⟩ := hbounds
    exact ⟨hspelling, hwritten.trimmed, hwritten'.trimmed, hshaped.lone, hshaped'.lone⟩
  · simp only [Expression.describe, halike.describe, halike'.describe]
  · simp [Expression.isSingle]
  · refine result_parseSingle_range hknows hsystem hfree hspelling hfreeLow hwritten.trimmed
      (ne_nil_of_leads hwritten.leads)
      (admissible_of_free hfreeHigh hwritten'.trimmed (ne_nil_of_leads hwritten'.leads)) ?_ ?_ he'
    · rwa [Expression.spelling, String.ofList_toList]
    · rwa [Expression.spelling, String.ofList_toList]

/-! ### Single values -/

/-- What is not known before anything runs is legible if it is once it is made to fit. -/
theorem legible_of_convert (hconstants : own.constants? = none)
    (h : convertExpression? scope.system slot.types own = some e) (hlegible : e.legible scope = true) :
    own.legible scope = true := by
  rcases convertExpression?_cases hconstants h with rfl | ⟨target, rfl⟩
  · exact hlegible
  · rwa [Expression.legible] at hlegible

/-- What fits a slot in place of a quoted text is the text itself. -/
theorem eq_of_convert_quoted (htypes : KnowsTypes scope.system) {parts : List Part}
    (h : convertExpression? scope.system slot.types (.quoted parts) = some e) :
    e = .quoted parts ∧ scope.system.acceptance? textType slot.types = some .direct := by
  rw [convertExpression?, Expression.returns] at h
  cases haccepts : scope.system.acceptance? textType slot.types with
  | none =>
    rw [haccepts] at h
    cases h
  | some acceptance =>
    obtain rfl := htypes.eq_direct_of_text haccepts
    rw [haccepts] at h
    exact ⟨(Option.some.inj h).symm, rfl⟩

/-- **Single values are read again as they are written down.** -/
theorem renews_parseSingle (hknows : Knows registry word) (hsystem : scope.system = registry.system)
    (hread : Renews scope read read') :
    Renews scope (parseSingle registry read scope) (parseSingle registry read' scope) := by
  intro text slot e h hlegible
  rcases exists_own_of_parseSingle h with h | ⟨own, hown, hconvert⟩
  · exact renewed_of_parseLiteral hknows hsystem h hlegible
  · have htypes := types_ne_nil hconvert
    cases origin_of_own hknows hsystem hown with
    | quoted hunquote hparts =>
      obtain ⟨rfl, hdirect⟩ := eq_of_convert_quoted (knowsTypes_of_knows hknows hsystem) hconvert
      rw [Expression.legible] at hlegible
      exact renewed_quoted hread hunquote hparts hlegible hdirect
    | number _ hplain _ => exact renewed_of_number hknows hsystem hplain hconvert hlegible
    | named hfree htext hname hparts =>
      have hown := legible_of_convert (by simp [Expression.constants?]) hconvert hlegible
      rw [Expression.legible] at hown
      exact renewed_of_reread
        (reread_variable hknows hread hfree htypes htext hname hparts hown) hconvert
    | loop hfree htext hfront hname hregex haccepts =>
      exact renewed_of_reread
        (reread_loop hknows hsystem hfree htypes htext hfront hname hregex haccepts) hconvert
    | event hfree htext hfront hregex haccepts =>
      -- The capture only tells that the value is one of the event once it is opened.
      obtain ⟨_, _, type, -, -, rfl⟩ := exists_of_eventValue hregex haccepts
      have hown := legible_of_convert (by simp [Expression.constants?]) hconvert hlegible
      exact renewed_of_reread
        (reread_event hknows hsystem hfree htypes htext hfront hregex haccepts hown) hconvert
    | range hfree htext hfront hjoined hlow hhigh =>
      have hown := legible_of_convert (by simp [Expression.constants?]) hconvert hlegible
      exact renewed_of_reread
        (reread_range hknows hsystem hread hfree htext hfront hjoined hlow hhigh hown) hconvert

end TriggerScript.Parsing

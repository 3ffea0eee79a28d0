import TriggerScript.Proofs.Parsing.Takes
import TriggerScript.Proofs.Text.Listing
import TriggerScript.Vocabulary.Types

/-!
# What holds of all that is read

A text is read as one value, as a list of values, or as what stands between its parentheses. What
holds of single values, of lists of what it holds of, and in larger texts holds of everything that
is read, however deep expressions may be nested.

* `CapturedBy` : what stands in the slots of a pattern has been read by itself.
* `Own` : what a single value is read as, before it is made to fit the slot.
* `exists_own_of_parseSingle` : a single value is a literal or is made of what it is read as.
* `Reader.Satisfies` : what a reader gives has a property.
* `Spreads` : a property passes from the parts of a text to the whole.
* `Spreads.parseWithin` : whatever is read has the property.
-/

namespace TriggerScript.Parsing

/-- Texts and variables. -/
def namesInTexts : Registration :=
  { Registration.empty with
    types := ⟨[Vocabulary.objects, Vocabulary.texts]⟩
    expressions :=
      [⟨"variable", objectType, .simple, ["\\\x7b<.+>\\\x7d"], Vocabulary.namedVariable⟩] }

/-- A line by itself. -/
def bareScope (registry : Registry) : Scope :=
  { (default : Scope) with system := registry.system }

variable {P : List Char → Slot → Expression → Prop} {registry : Registry} {scope : Scope}
  {read : Reader} {text : String} {slot : Slot} {e : Expression}

/-! ### Single values -/

/-- What stands in the slots of a capture has been read by itself, or it is the event's value for a
slot that was left out. -/
def CapturedBy (read : Reader) (c : Capture) : Prop :=
  ∀ i e, c.part? i = some e →
    (∃ text slot, (read text slot).result = some e) ∨ ∃ type, e = .eventValue type

/-- What a single value is read as, before it is made to fit the slot. -/
inductive Own (registry : Registry) (read : Reader) (scope : Scope) (text : String) (slot : Slot) :
    Expression → Prop
  | quoted {content : List Char} {parts : List Part}
    (content_eq : Text.unquote text.toList = some content)
    (parts_eq : (runSetup read scope.location
      (readTemplate true (String.ofList content))).result = some parts) :
    Own registry read scope text slot (.quoted parts)
  | number {value : Value} (free : slot.literalOnly = false)
    (value_eq : plainNumber? scope.system text slot = some value) :
    Own registry read scope text slot (.literal [value] numberType true)
  | registered {p : Priority} {entry : ExpressionEntry Pattern} {c : Capture} {e : Expression}
    (free : slot.literalOnly = false) (mem : entry ∈ registry.inGroup p)
    (accepts : (runSetup read scope.location (entry.setup scope c)).result = some e)
    (matched : ∃ index, ∃ p ∈ entry.patterns,
      (matchPattern read scope index p text).result = some c) :
    Own registry read scope text slot e

theorem exists_of_defaultExpression? (h : defaultExpression? scope slot = some e) :
    ∃ type, e = .eventValue type := by
  unfold defaultExpression? at h
  split at h
  · cases h
  · obtain ⟨type, -, h⟩ := List.exists_of_findSome?_eq_some h
    split at h
    · split at h
      · obtain ⟨carried, -, rfl⟩ := Option.map_eq_some_iff.1 h
        exact ⟨carried, rfl⟩
      · cases h
    · cases h

theorem exists_of_mem_parseSlots {slots : List Slot} {spans : List (Option Span)}
    {parts : List (Option Expression)}
    (h : (parseSlots read scope slots spans).result = some parts) (he : some e ∈ parts) :
    (∃ text slot, (read text slot).result = some e) ∨ ∃ type, e = .eventValue type := by
  induction slots generalizing spans parts with
  | nil =>
    cases h
    cases he
  | cons slot slots ih =>
    rw [parseSlots] at h
    split at h
    · next span _ =>
      rw [result_bind] at h
      obtain ⟨first, hfirst, h⟩ := Option.bind_eq_some_iff.1 h
      obtain ⟨rest, hrest, rfl⟩ := Option.map_eq_some_iff.1 h
      rcases List.mem_cons.1 he with heq | he
      · cases heq
        exact .inl ⟨_, slot, hfirst⟩
      · exact ih hrest he
    · obtain ⟨rest, hrest, rfl⟩ := Option.map_eq_some_iff.1 h
      rcases List.mem_cons.1 he with heq | he
      · exact .inr (exists_of_defaultExpression? heq.symm)
      · exact ih hrest he

/-- Of the ways to match a pattern the first one is taken with which all slots can be read. -/
theorem result_matchPattern_eq (read : Reader) (scope : Scope) (index : Nat) (p : Pattern)
    (text : String) : (matchPattern read scope index p text).result =
      (p.splits text.toList).findSome? fun split =>
        (parseSlots read scope p.slots split.spans).result.map (capture index split) := by
  rw [matchPattern, Pattern.offer_eq_tryEach]
  exact result_tryEach _ _ _ _ _ []

theorem captured_of_matchPattern {index : Nat} {p : Pattern} {c : Capture}
    (h : (matchPattern read scope index p text).result = some c) : CapturedBy read c := by
  rw [result_matchPattern_eq] at h
  obtain ⟨split, -, h⟩ := List.exists_of_findSome?_eq_some h
  obtain ⟨parts, hparts, rfl⟩ := Option.map_eq_some_iff.1 h
  intro i e he
  exact exists_of_mem_parseSlots hparts (List.mem_of_getElem? (Option.join_eq_some_iff.1 he))

theorem exists_of_matchElement {α : Type} {setup : Scope → Capture → Setup α}
    {patterns : List Pattern} {a : α}
    (h : (matchElement read scope setup patterns text).result = some a) :
    ∃ c, (∃ index, ∃ p ∈ patterns, (matchPattern read scope index p text).result = some c) ∧
      (runSetup read scope.location (setup scope c)).result = some a := by
  rw [matchElement, result_firstOf] at h
  obtain ⟨⟨index, p⟩, hmem, h⟩ := List.exists_of_findSome?_eq_some h
  rw [result_bind] at h
  obtain ⟨c, hc, haccepts⟩ := Option.bind_eq_some_iff.1 h
  obtain ⟨⟨p', index'⟩, hzip, heq⟩ := List.mem_map.1 hmem
  cases heq
  exact ⟨c, ⟨_, _, (List.mem_zipIdx' hzip).2 ▸ List.getElem_mem _, hc⟩, haccepts⟩

theorem convertExpression?_of_acceptFor {own : Expression}
    (h : (acceptFor scope text slot own).result = some e) :
    convertExpression? scope.system slot.types own = some e := by
  unfold acceptFor at h
  split at h
  · next hconvert =>
    cases h
    exact hconvert
  · cases h

/-- **A single value is a literal or is made of what it is read as.** -/
theorem exists_own_of_parseSingle
    (h : (parseSingle registry read scope text slot).result = some e) :
    (parseLiteral scope text slot).result = some e ∨ ∃ own,
      Own registry read scope text slot own ∧
        convertExpression? scope.system slot.types own = some e := by
  unfold parseSingle at h
  split at h
  · next content hcontent =>
    rw [result_bind] at h
    obtain ⟨parts, hparts, h⟩ := Option.bind_eq_some_iff.1 h
    exact .inr ⟨_, .quoted hcontent hparts, convertExpression?_of_acceptFor h⟩
  split at h
  · exact .inl h
  next hfree =>
  rw [Bool.not_eq_true] at hfree
  split at h
  · next value hvalue => exact .inr ⟨_, .number hfree hvalue, convertExpression?_of_acceptFor h⟩
  rw [result_orElse, result_firstOf] at h
  rcases Option.or_eq_some_iff.1 h with h | ⟨-, h⟩
  · obtain ⟨p, -, h⟩ := List.exists_of_findSome?_eq_some h
    rw [result_tryGroup] at h
    obtain ⟨entry, hentry, h⟩ := List.exists_of_findSome?_eq_some h
    unfold tryEntry at h
    split at h
    · cases h
    · rw [result_bind] at h
      obtain ⟨own, hown, hconvert⟩ := Option.bind_eq_some_iff.1 h
      obtain ⟨c, hmatched, hc⟩ := exists_of_matchElement hown
      exact .inr ⟨own, .registered hfree hentry hc hmatched, hconvert⟩
  · exact .inl h

/-! ### Everything that is read -/

/-- What a reader gives for a text and a slot has a property. -/
def Reader.Satisfies (read : Reader) (P : List Char → Slot → Expression → Prop) : Prop :=
  ∀ text slot e, (read text slot).result = some e → P text.toList slot e

/-- A property of single values that passes on to lists, and from a text to any that holds it. -/
structure Spreads (registry : Registry) (scope : Scope)
    (P : List Char → Slot → Expression → Prop) : Prop where
  single : ∀ {read text slot e}, Reader.Satisfies read P →
    (parseSingle registry read scope text slot).result = some e → P text.toList slot e
  list : ∀ {cs slot items} (together : Bool), items ≠ [] →
    (∀ e ∈ items, P cs { slot with single := false } e) →
    P cs slot (.list items together (commonType scope.system.types items))
  widen : ∀ {inner cs slot e}, inner ⊆ cs → P inner slot e → P cs slot e

/-- What stands between outer parentheses is made of characters of the text. -/
theorem subset_of_stripParens {cs inner : List Char} (h : Text.stripParens cs = some inner) :
    inner ⊆ cs := by
  unfold Text.stripParens at h
  split at h
  · next rest =>
    split at h
    · obtain rfl := Option.some.inj h
      exact List.subset_cons_of_subset _ (List.dropLast_subset rest)
    · cases h
  · cases h

/-- An expression is demanded to be single or not; it is not changed. -/
theorem eq_of_demandSingle {e' : Expression}
    (h : (demandSingle scope text slot e').result = some e) : e' = e := by
  unfold demandSingle at h
  split at h
  · cases h
  · exact Option.some.inj h

namespace Spreads

variable (hP : Spreads registry scope P)

include hP

theorem parseItems (hread : read.Satisfies P) {items : List (List Char)} {es : List Expression}
    (h : (Parsing.parseItems registry read scope slot items).result = some es) :
    es.length = items.length ∧ ∀ e ∈ es, ∃ item ∈ items, P item slot e := by
  induction items generalizing es with
  | nil =>
    cases h
    exact ⟨rfl, List.forall_mem_nil _⟩
  | cons item rest ih =>
    rw [Parsing.parseItems, result_bind] at h
    obtain ⟨first, hfirst, h⟩ := Option.bind_eq_some_iff.1 h
    obtain ⟨more, hmore, rfl⟩ := Option.map_eq_some_iff.1 h
    obtain ⟨hlength, hrest⟩ := ih hmore
    refine ⟨congrArg (· + 1) hlength, List.forall_mem_cons.2 ⟨⟨item, List.mem_cons_self, ?_⟩, ?_⟩⟩
    · split at hfirst
      · next inner hinner =>
        have hholds := hread _ _ _ hfirst
        rw [String.toList_ofList] at hholds
        exact hP.widen (subset_of_stripParens hinner) hholds
      · have hholds := hP.single hread hfirst
        rwa [String.toList_ofList] at hholds
    · intro e he
      obtain ⟨item', hitem', hholds⟩ := hrest e he
      exact ⟨item', List.mem_cons_of_mem _ hitem', hholds⟩

theorem parseList (hread : read.Satisfies P)
    (h : (Parsing.parseList registry read scope text slot).result = some e) :
    P text.toList slot e := by
  unfold Parsing.parseList at h
  split at h
  · cases h
  next sequence hsequence =>
  split at h
  · cases h
  next hmany =>
  split at h
  · cases h
  rw [result_bind] at h
  obtain ⟨items, hitems, h⟩ := Option.bind_eq_some_iff.1 h
  obtain rfl : .list items sequence.isAnd (commonType scope.system.types items) = e := by
    split at h <;> exact Option.some.inj h
  obtain ⟨hlength, hholds⟩ := hP.parseItems hread hitems
  refine hP.list _ (List.ne_nil_of_length_pos (by omega)) fun e he => ?_
  obtain ⟨item, hitem, hholds⟩ := hholds e he
  exact hP.widen (fun c hc => Text.mem_of_mem_splitList hsequence hitem hc) hholds

theorem parseOnce (hread : read.Satisfies P)
    (h : (Parsing.parseOnce registry read scope text slot).result = some e) :
    P text.toList slot e := by
  unfold Parsing.parseOnce at h
  split at h
  · next inner hinner =>
    have hholds := hread _ _ _ h
    rw [String.toList_ofList] at hholds
    exact hP.widen (subset_of_stripParens hinner) hholds
  · rw [Attempt.result_framed, result_orElse] at h
    rcases Option.or_eq_some_iff.1 h with h | ⟨-, h⟩
    · exact hP.single hread h
    · exact hP.parseList hread h

/-- **Whatever is read has the property,** however deep expressions may be nested. -/
theorem parseWithin (depth : Nat) : (Parsing.parseWithin registry scope depth).Satisfies P := by
  induction depth with
  | zero =>
    intro text slot e h
    simp only [Parsing.parseWithin] at h
    split at h <;> cases h
  | succ depth ih =>
    intro text slot e h
    simp only [Parsing.parseWithin] at h
    split at h
    · cases h
    · rw [result_bind] at h
      obtain ⟨e', he', h⟩ := Option.bind_eq_some_iff.1 h
      obtain rfl := eq_of_demandSingle h
      have hholds := hP.parseOnce ih he'
      rw [Text.trimString, String.toList_ofList] at hholds
      exact hP.widen (fun c hc => Text.mem_of_mem_trim hc) hholds

end Spreads

end TriggerScript.Parsing

import TriggerScript.Proofs.Parsing.Kinds
import TriggerScript.Proofs.Text.Listing
import TriggerScript.Proofs.Text.Parentheses

/-!
# Lists that are read again

* `result_parseList_iff`, `result_parseItems_iff` : what a list is read as.
* `written_of_list` : what is written down of a list, given what is of its items.
* `renewed_list` : lists are read again as they are written down.
-/

namespace TriggerScript

namespace Text

variable {together : Bool} {part : List Char}

theorem splitList_of_fitting (h : Fitting part) : splitList part = some ⟨[part], []⟩ := by
  have hne : part.isEmpty = false := List.isEmpty_eq_false_iff.2 h.ne_nil
  rw [splitList, cutList_part h]
  simp [trim_of_trimmed h.trimmed, hne]

/-- A list ends as its last part does. -/
theorem exists_enumerate_concat (together : Bool) {parts : List (List Char)} (hne : parts ≠ []) :
    ∃ front last, last ∈ parts ∧ enumerate together parts = front ++ last := by
  match parts, hne with
  | [part], _ => exact ⟨[], part, by simp, rfl⟩
  | [part, last], _ =>
    exact ⟨part ++ ' ' :: (conjunction together).toList ++ [' '], last, by simp,
      by simp [enumerate_pair]⟩
  | part :: second :: third :: rest, _ =>
    obtain ⟨front, last, hlast, heq⟩ :=
      exists_enumerate_concat together (List.cons_ne_nil second (third :: rest))
    exact ⟨part ++ ',' :: ' ' :: front, last, List.mem_cons_of_mem _ hlast, by
      rw [enumerate_cons, heq]
      simp⟩

/-- Line ends in a list are in its parts. -/
theorem newline_mem_enumerate {parts : List (List Char)} (h : '\n' ∈ enumerate together parts) :
    ∃ part ∈ parts, '\n' ∈ part := by
  match parts with
  | [] => cases h
  | [part] => exact ⟨part, by simp, h⟩
  | [part, last] =>
    have hword : '\n' ∉ (conjunction together).toList := by cases together <;> decide
    simpa [enumerate_pair, hword] using h
  | part :: second :: third :: rest =>
    rw [enumerate_cons, List.mem_append, List.mem_cons, List.mem_cons] at h
    rcases h with h | h | h | h
    · exact ⟨part, by simp, h⟩
    · cases h
    · cases h
    · obtain ⟨found, hfound, hmem⟩ := newline_mem_enumerate h
      exact ⟨found, List.mem_cons_of_mem _ hfound, hmem⟩

/-! ### The first item -/

/-- The first piece of a list begins with what was read before. -/
theorem exists_first_piece (depth : Int) (quoted : Bool) (piece cs : List Char) :
    ∃ more rest, (cutList depth quoted piece cs).1 = (piece.reverse ++ more) :: rest := by
  fun_induction cutList depth quoted piece cs with
  | case1 depth quoted piece => exact ⟨[], [], by simp⟩
  | case7 => exact ⟨[], _, by rw [List.append_nil]⟩
  | case2 _ _ _ _ ih | case3 _ _ _ _ _ _ _ ih | case4 _ _ _ _ _ _ _ _ ih
  | case5 _ _ _ _ _ _ _ _ _ ih | case6 _ _ _ _ _ _ _ _ _ _ ih
  | case8 _ _ _ _ _ _ _ _ _ _ _ ih =>
    obtain ⟨more, rest, hpiece⟩ := ih
    exact ⟨_ :: more, rest, by simpa using hpiece⟩

/-- Trimming does not reach into a text that begins and goes on with something that is not blank. -/
theorem exists_trim_append {front rest : List Char} {c : Char}
    (hfront : ∀ d ∈ front.head?, isBlank d = false) (hne : front ≠ []) (hc : isBlank c = false) :
    ∃ more, trim (front ++ c :: rest) = front ++ c :: more := by
  obtain ⟨before, after, hbefore, hafter, heq⟩ := exists_of_trim (front ++ c :: rest)
  obtain rfl : before = [] := by
    cases before with
    | nil => rfl
    | cons d before =>
      obtain ⟨first, front, rfl⟩ := List.exists_cons_of_ne_nil hne
      obtain rfl := (List.cons.inj heq).1
      have := hbefore first List.mem_cons_self
      rw [hfront first rfl] at this
      cases this
  rw [List.nil_append] at heq
  rcases List.append_eq_append_iff.1 heq with ⟨more, htrim, hrest⟩ | ⟨more, -, hrest⟩
  · cases more with
    | nil =>
      have := hafter c (by rw [← List.nil_append after, ← hrest]; exact List.mem_cons_self)
      rw [hc] at this
      cases this
    | cons d more =>
      obtain rfl := (List.cons.inj hrest).1
      exact ⟨more, htrim⟩
  · have := hafter c (by rw [hrest]; simp)
    rw [hc] at this
    cases this

/-- A part with more words behind it stays with the first of them. -/
theorem exists_item_of_words {enumeration : Enumeration} {cs : List Char} (h : Fitting part)
    (hsplit : splitList (part ++ ' ' :: 't' :: cs) = some enumeration) :
    ∃ more rest, enumeration.items = (part ++ ' ' :: 't' :: more) :: rest := by
  have hblank : ¬ Begins (' ' :: 't' :: cs) := by
    rw [not_begins_iff, separator?_blank, word?, afterWord?_cons_eq_none _ _ (by decide),
      afterWord?_cons_eq_none _ _ (by decide)]
    rfl
  have hletter : ¬ Begins ('t' :: cs) :=
    not_begins_iff.2 (separator?_eq_none cs (by decide) (by decide))
  have hcut : cutList 0 false [] (part ++ ' ' :: 't' :: cs) =
      cutList 0 false ('t' :: ' ' :: part.reverse) cs := by
    rw [cutList_of_fitting h rfl, @cutList_cons (0, false) _ _ _ fun _ => hblank]
    exact @cutList_cons (0, false) _ _ _ fun _ => hletter
  obtain ⟨more, rest, hpiece⟩ := exists_first_piece 0 false ('t' :: ' ' :: part.reverse) cs
  rw [splitList, hcut] at hsplit
  split at hsplit
  · cases hsplit
  · cases hsplit
    have hfirst : ∀ c ∈ (part ++ [' ']).head?, isBlank c = false := by
      rw [List.head?_append_of_ne_nil _ h.ne_nil]
      exact h.trimmed.first
    obtain ⟨more', htrim⟩ : ∃ more', trim (part ++ [' '] ++ 't' :: more) =
        part ++ [' '] ++ 't' :: more' :=
      exists_trim_append hfirst (by simp) (by decide)
    refine ⟨more', rest.map trim, ?_⟩
    rw [hpiece, List.map_cons]
    simpa using htrim

end Text

theorem Written.of_subset {cs inner spelling : List Char} (h : Written inner spelling)
    (hmarks : TriggerScript.marks cs = TriggerScript.marks inner) (hsubset : inner ⊆ cs) :
    Written cs spelling :=
  { h with
    marks := h.marks.trans hmarks.symm
    newline := fun hmem => hsubset (h.newline hmem) }

namespace Parsing

open Vocabulary Pattern Text

variable {registry : Registry} {word : Regex} {scope : Scope} {read read' : Reader} {text : String}
  {slot : Slot} {e own own' : Expression} {items : List (List Char)} {es : List Expression}

/-! ### What lists are read as -/

/-- How an item of a list is read. -/
def readItem (registry : Registry) (read : Reader) (scope : Scope) (slot : Slot)
    (item : List Char) : Attempt Expression :=
  match stripParens item with
  | some inner => read (String.ofList inner) slot
  | none => parseSingle registry read scope (String.ofList item) slot

theorem result_parseItems_iff : (parseItems registry read scope slot items).result = some es ↔
    List.Forall₂ (fun item e => (readItem registry read scope slot item).result = some e)
      items es := by
  induction items generalizing es with
  | nil =>
    rw [parseItems, List.forall₂_nil_left_iff, Attempt.ok, Option.some.injEq, eq_comm]
  | cons item rest ih =>
    rw [parseItems, result_bind, Option.bind_eq_some_iff, List.forall₂_cons_left_iff]
    simp only [Attempt.result_map, Option.map_eq_some_iff, ih]
    constructor
    · rintro ⟨e, he, es, hes, rfl⟩
      exact ⟨e, es, he, hes, rfl⟩
    · rintro ⟨e, es, he, hes, rfl⟩
      exact ⟨e, he, es, hes, rfl⟩

theorem result_parseList_iff : (parseList registry read scope text slot).result = some e ↔
    ∃ enumeration es, splitList text.toList = some enumeration ∧
      1 < enumeration.items.length ∧ enumeration.isMixed = false ∧
      (parseItems registry read scope { slot with single := false } enumeration.items).result =
        some es ∧
      e = .list es enumeration.isAnd (commonType scope.system.types es) := by
  unfold parseList
  cases splitList text.toList with
  | none => simp [Attempt.no]
  | some enumeration =>
    simp only [Option.some.injEq, exists_eq_left', exists_and_left]
    split
    · next hshort => simp [Attempt.no, Nat.not_lt.2 hshort]
    · next hlong =>
      split
      · next hmixed => simp [Attempt.refuse, hmixed]
      · next hmixed =>
        rw [result_bind]
        cases (parseItems registry read scope { slot with single := false }
          enumeration.items).result with
        | none => simp
        | some es =>
          simp only [Option.bind_some, Option.some.injEq, exists_eq_left']
          have hlong : 1 < enumeration.items.length := Nat.not_le.1 hlong
          split <;> simp [Attempt.ok, hlong, hmixed, eq_comm]

/-! ### Levels of nesting -/

theorem result_parseWithin_iff {depth : Nat} :
    (parseWithin registry scope (depth + 1) text slot).result = some e ↔
      trimString text ≠ "" ∧ (parseOnce registry (parseWithin registry scope depth) scope
        (trimString text) slot).result = some e ∧ (slot.single = true → e.isSingle = true) := by
  rw [parseWithin]
  split
  · next hempty => simp [String.isEmpty_iff.1 hempty, Attempt.refuse]
  · next hempty =>
    rw [result_bind, Option.bind_eq_some_iff, and_iff_right (mt String.isEmpty_iff.2 hempty)]
    constructor
    · rintro ⟨e', honce, hdemand⟩
      obtain rfl := eq_of_demandSingle hdemand
      refine ⟨honce, fun hsingle => ?_⟩
      by_contra hnot
      rw [demandSingle, if_pos (by simp [hsingle, hnot])] at hdemand
      cases hdemand
    · rintro ⟨honce, hsingle⟩
      refine ⟨e, honce, ?_⟩
      rw [demandSingle, if_neg (by simpa using hsingle)]
      rfl

theorem stripParens_of_leads {cs : List Char} (h : leads cs = true) : stripParens cs = none := by
  cases cs with
  | nil => rfl
  | cons c cs =>
    have hc := (toLower_of_leads h).2.2.2.1
    unfold stripParens
    split
    · next heq => exact absurd (List.cons.inj heq).1 hc
    · rfl

/-- What begins as a single value is read as one, or as a list. -/
theorem result_parseWithin_of_leads {depth : Nat} (hleads : leads text.toList = true)
    (htrimmed : Trimmed text.toList) :
    (parseWithin registry scope (depth + 1) text slot).result = some e ↔
      (parseSingle registry (parseWithin registry scope depth) scope text slot).result.or
        (parseList registry (parseWithin registry scope depth) scope text slot).result = some e ∧
        (slot.single = true → e.isSingle = true) := by
  have htrim : trimString text = text := trimString_of_trimmed htrimmed
  have hne : text ≠ "" := by
    rintro rfl
    cases hleads
  rw [result_parseWithin_iff, htrim, and_iff_right hne, parseOnce, stripParens_of_leads hleads,
    Attempt.result_framed, result_orElse]

theorem result_parseList_of_fitting (h : Fitting text.toList) :
    (parseList registry read scope text slot).result = none := by
  rw [parseList, splitList_of_fitting h]
  rfl

/-! ### Items -/

theorem marks_of_stripParens {cs inner : List Char} (h : stripParens cs = some inner) :
    marks cs = marks inner := by
  obtain ⟨rfl, -⟩ := stripParens_eq_some_iff_closes.1 h
  rw [marks_cons_of_not (by decide), marks_append, marks_cons_of_not (by decide), marks_nil,
    List.append_nil]

/-- What begins as a single value fits into a list. -/
theorem fitting_of_leads {cs : List Char} (hleads : leads cs = true) (htrimmed : Trimmed cs)
    (h : Undivided cs) : Fitting cs := by
  refine h.fitting htrimmed (ne_nil_of_leads hleads) fun c hc => ?_
  obtain ⟨rest, rfl⟩ := List.head?_eq_some_iff.1 (Option.mem_def.1 hc)
  obtain ⟨-, hlower, -, -, ha, ho⟩ := toLower_of_leads hleads
  rw [hlower]
  exact ⟨ha, ho⟩

/-- **Items of lists are read again without the parentheses around them.** -/
theorem renewed_of_readItem (hknows : Knows registry word)
    (hsystem : scope.system = registry.system) {depth deep : Nat}
    (hread : Renews scope (parseWithin registry scope depth) (parseWithin registry scope deep))
    (hdeeper : Renews scope (parseWithin registry scope depth)
      (parseWithin registry scope (deep + 1))) {item : List Char}
    (h : (readItem registry (parseWithin registry scope depth) scope slot item).result = some e)
    (hlegible : e.legible scope = true) (hundivided : Undivided e.spelling) :
    Renewed (parseSingle registry (parseWithin registry scope deep) scope) (String.ofList item)
      slot e := by
  unfold readItem at h
  split at h
  · next inner hinner =>
    obtain ⟨hwritten, hshaped, e', hagain, halike⟩ := hdeeper h hlegible
    rw [String.toList_ofList] at hwritten
    refine ⟨?_, hshaped, e', ?_, halike⟩
    · rw [String.toList_ofList]
      exact hwritten.of_subset (marks_of_stripParens hinner) (subset_of_stripParens hinner)
    -- Without its parentheses the item is no list, so one level reads it as a single value.
    · obtain ⟨honce, -⟩ := (result_parseWithin_of_leads hwritten.leads hwritten.trimmed).1 hagain
      rwa [result_parseList_of_fitting (fitting_of_leads hwritten.leads hwritten.trimmed hundivided),
        Option.or_none] at honce
  · exact renews_parseSingle hknows hsystem hread h hlegible

/-! ### What is written down of lists -/

theorem not_isMark_of_inSeparator {c : Char} (h : inSeparator c = true) : isMark c = false := by
  rw [Bool.eq_false_iff]
  intro hmark
  simp only [isMark, Bool.or_eq_true, beq_iff_eq] at hmark
  rcases hmark with (rfl | rfl) | rfl <;> exact absurd h (by decide)

section Parts

variable {parts : List (List Char)} (h : List.Forall₂ Written items parts)

include h

theorem marks_flatten : marks parts.flatten = marks items.flatten := by
  induction h with
  | nil => rfl
  | cons hpart _ ih =>
    rw [List.flatten_cons, List.flatten_cons, marks_append, marks_append, hpart.marks, ih]

theorem even_count_flatten : Even (parts.flatten.count '%') := by
  induction h with
  | nil => exact .zero
  | cons hpart _ ih =>
    rw [List.flatten_cons, List.count_append]
    exact hpart.even.add ih

theorem exists_written {part : List Char} (hpart : part ∈ parts) :
    ∃ item ∈ items, Written item part := by
  obtain ⟨i, hi, rfl⟩ := List.getElem_of_mem hpart
  have hi' : i < items.length := h.length_eq ▸ hi
  exact ⟨items[i], List.getElem_mem hi', h.get hi' hi⟩

end Parts

/-- **What is written down of a list**, given what is of its items. -/
theorem written_of_list {cs : List Char} {enumeration : Enumeration} {parts : List (List Char)}
    (together : Bool) (hsplit : splitList cs = some enumeration)
    (h : List.Forall₂ Written enumeration.items parts) (hfit : ∀ part ∈ parts, Fitting part)
    (hcount : 2 ≤ parts.length) : Written cs (enumerate together parts) := by
  have hmarks : marks (enumerate together parts) = marks parts.flatten :=
    (filter_splitList (fun _ => not_isMark_of_inSeparator) (fun _ => not_isMark_of_isBlank)
      (splitList_enumerate together hcount hfit)).symm
  have hne : parts ≠ [] := by
    rintro rfl
    simp at hcount
  refine ⟨?_, ?_, ?_, ?_, ?_⟩
  · obtain ⟨first, rest, rfl⟩ := List.exists_cons_of_ne_nil hne
    obtain ⟨tail, htail, -⟩ := exists_enumerate_cons together first rest
    obtain ⟨item, items, hfirst, -, -⟩ := List.forall₂_cons_right_iff.1 h
    rw [htail]
    exact leads_append hfirst.leads
  · obtain ⟨front, last, hlast, heq⟩ := exists_enumerate_concat together hne
    rw [heq, List.getLast?_append_of_ne_nil _ (hfit last hlast).ne_nil]
    exact (hfit last hlast).trimmed.last
  · have hcs : marks enumeration.items.flatten = marks cs :=
      filter_splitList (fun _ => not_isMark_of_inSeparator) (fun _ => not_isMark_of_isBlank) hsplit
    rw [hmarks, ← hcs]
    exact marks_flatten h
  · rw [count_eq_of_marks hmarks]
    exact even_count_flatten h
  · intro hfeed
    obtain ⟨part, hpart, hmem⟩ := newline_mem_enumerate hfeed
    obtain ⟨item, hitem, hwritten⟩ := exists_written h hpart
    exact mem_of_mem_splitList hsplit hitem (hwritten.newline hmem)

/-! ### Lists -/

theorem legibleAll_iff : Expression.legibleAll scope es = true ↔
    ∀ e ∈ es, e.legible scope = true := by
  induction es with
  | nil => simp [Expression.legibleAll]
  | cons e es ih => rw [Expression.legibleAll, Bool.and_eq_true, ih, List.forall_mem_cons]

theorem describeAll_eq (debug : Bool) (es : List Expression) :
    Expression.describeAll debug es = es.map (Expression.describe debug) := by
  induction es with
  | nil => rfl
  | cons e es ih => rw [Expression.describeAll, ih, List.map_cons]

theorem spelling_list (es : List Expression) (together : Bool) (type : String) :
    (Expression.list es together type).spelling = enumerate together (es.map Expression.spelling) := by
  have hmap : es.map (Expression.describe false) =
      (es.map Expression.spelling).map String.ofList := by
    rw [List.map_map]
    exact List.map_congr_left fun e _ => by
      rw [Function.comp_apply, Expression.spelling, String.ofList_toList]
  rw [Expression.spelling, Expression.describe, describeAll_eq, hmap, toList_joinList]

theorem allSingle_congr {es es' : List Expression} (h : List.Forall₂ Alike es es') :
    Expression.allSingle es' = Expression.allSingle es := by
  induction h with
  | nil => rfl
  | cons hfirst _ ih => rw [Expression.allSingle, Expression.allSingle, hfirst.single, ih]

theorem map_congr_of_alike {α : Type} {f : Expression → α} {es es' : List Expression}
    (hf : ∀ {e e'}, Alike e e' → f e' = f e) (h : List.Forall₂ Alike es es') :
    es'.map f = es.map f := by
  induction h with
  | nil => rfl
  | cons hfirst _ ih => rw [List.map_cons, List.map_cons, hf hfirst, ih]

/-- The type of a list depends on the types of its items only. -/
theorem commonType_eq (types : TypeTable) (es : List Expression) : commonType types es =
    match es.map Expression.returns with
    | [] => objectType
    | first :: rest => rest.foldl types.common first := by
  cases es with
  | nil => rfl
  | cons e es =>
    rw [commonType, List.map_cons]
    exact List.foldl_map.symm

theorem alike_list {es es' : List Expression} (h : List.Forall₂ Alike es es') (together : Bool)
    (types : TypeTable) : Alike (.list es together (commonType types es))
      (.list es' together (commonType types es')) where
  describe := by
    simp only [Expression.describe, describeAll_eq, map_congr_of_alike Alike.describe h]
  returns := by
    simp only [Expression.returns, commonType_eq, map_congr_of_alike Alike.returns h]
  single := by simp only [Expression.isSingle, allSingle_congr h, h.length_eq]

/-- The items of a list, and how they are read again. -/
structure Items (registry : Registry) (read' : Reader) (scope : Scope) (slot : Slot)
    (items : List (List Char)) (es : List Expression) : Prop where
  count : 2 ≤ es.length
  renewed : List.Forall₂ (fun item e => Renewed (parseSingle registry read' scope)
    (String.ofList item) { slot with single := false } e) items es
  listed : ∀ e ∈ es, e.canBeListed = true

theorem undivided_of_canBeListed (h : e.canBeListed = true) : Undivided e.spelling := by
  rw [Expression.canBeListed, Bool.and_eq_true, decide_eq_true_eq] at h
  exact h.1

theorem exists_items (hknows : Knows registry word) (hsystem : scope.system = registry.system)
    {depth deep : Nat}
    (hread : Renews scope (parseWithin registry scope depth) (parseWithin registry scope deep))
    (hdeeper : Renews scope (parseWithin registry scope depth)
      (parseWithin registry scope (deep + 1)))
    (h : (parseList registry (parseWithin registry scope depth) scope text slot).result = some e)
    (hlegible : e.legible scope = true) :
    ∃ enumeration es, splitList text.toList = some enumeration ∧
      Items registry (parseWithin registry scope deep) scope slot enumeration.items es ∧
      e = .list es enumeration.isAnd (commonType scope.system.types es) ∧
      (enumeration.isAnd = true ∨ ∀ e ∈ es.head?, e.bounds? = none) := by
  obtain ⟨enumeration, es, hsplit, hcount, -, hitems, rfl⟩ := result_parseList_iff.1 h
  rw [result_parseItems_iff] at hitems
  simp only [Expression.legible, Bool.and_eq_true, legibleAll_iff, List.all_eq_true,
    Bool.or_eq_true] at hlegible
  obtain ⟨⟨hall, hlisted⟩, hfirst⟩ := hlegible
  refine ⟨enumeration, es, hsplit, ⟨hitems.length_eq ▸ hcount, ?_, hlisted⟩, rfl, hfirst.imp_right ?_⟩
  · have hboth := (List.forall₂_and_left es enumeration.items).2 ⟨fun _ he => he, hitems.flip⟩
    exact hboth.flip.imp fun item e he => renewed_of_readItem hknows hsystem hread hdeeper
      he.2 (hall e he.1) (undivided_of_canBeListed (hlisted e he.1))
  · intro hnone e he
    rw [Option.mem_def.1 he] at hnone
    exact Option.isNone_iff_eq_none.1 hnone

namespace Items

variable {deep : Nat} (h : Items registry (parseWithin registry scope deep) scope slot items es)

include h

theorem written : List.Forall₂ Written items (es.map Expression.spelling) := by
  rw [List.forall₂_map_right_iff]
  exact h.renewed.imp fun item e hitem => by simpa using hitem.written

theorem fitting : ∀ part ∈ es.map Expression.spelling, Fitting part := by
  rw [List.forall_mem_map]
  intro e he
  obtain ⟨item, -, hwritten⟩ := exists_written h.written (List.mem_map_of_mem he)
  exact fitting_of_leads hwritten.leads hwritten.trimmed
    (undivided_of_canBeListed (h.listed e he))

/-- The items are read again. -/
theorem again : ∃ es', List.Forall₂ Alike es es' ∧
    (parseItems registry (parseWithin registry scope deep) scope { slot with single := false }
      (es.map Expression.spelling)).result = some es' := by
  have hagain : List.Forall₂ (fun _ e => ∃ e', (readItem registry (parseWithin registry scope deep)
      scope { slot with single := false } e.spelling).result = some e' ∧ Alike e e') items es := by
    refine h.renewed.imp fun item e hitem => ?_
    obtain ⟨e', he', halike⟩ := hitem.again
    refine ⟨e', ?_, halike⟩
    rw [readItem, stripParens_of_leads hitem.written.leads, Expression.spelling,
      String.ofList_toList]
    exact he'
  simp only [result_parseItems_iff]
  clear h
  induction hagain with
  | nil => exact ⟨[], .nil, .nil⟩
  | cons hfirst _ ih =>
    obtain ⟨e', he', halike⟩ := hfirst
    obtain ⟨es', halikes, hes'⟩ := ih
    exact ⟨e' :: es', .cons halike halikes, .cons he' hes'⟩

theorem split (together : Bool) :
    splitList (enumerate together (es.map Expression.spelling)) =
      some ⟨es.map Expression.spelling, listSeparators together es.length⟩ := by
  rw [splitList_enumerate together (by simpa using h.count) h.fitting, List.length_map]

end Items

/-- **Lists are read again as they are written down**, where they are read as lists. -/
theorem renewed_of_parseList (hknows : Knows registry word)
    (hsystem : scope.system = registry.system) {depth deep : Nat}
    (hread : Renews scope (parseWithin registry scope depth) (parseWithin registry scope deep))
    (hdeeper : Renews scope (parseWithin registry scope depth)
      (parseWithin registry scope (deep + 1)))
    (h : (parseList registry (parseWithin registry scope depth) scope text slot).result = some e)
    (hlegible : e.legible scope = true) :
    Renewed (parseList registry (parseWithin registry scope deep) scope) text slot e := by
  obtain ⟨enumeration, es, hsplit, hitems, rfl, -⟩ := exists_items hknows hsystem hread hdeeper h hlegible
  obtain ⟨es', halike, hagain⟩ := hitems.again
  have hspelling := spelling_list es enumeration.isAnd (commonType scope.system.types es)
  obtain ⟨hmixed, -, hand⟩ := kind_of_listSeparators enumeration.isAnd
    (es.map Expression.spelling) es.length
  refine ⟨?_, ⟨by simp [Expression.isLone], by simp [Expression.bounds?]⟩, _,
    result_parseList_iff.2 ⟨_, es', ?_, ?_, hmixed, hagain, rfl⟩, ?_⟩
  · rw [hspelling]
    exact written_of_list _ hsplit hitems.written hitems.fitting (by simpa using hitems.count)
  · rw [← Expression.spelling, hspelling]
    exact hitems.split enumeration.isAnd
  · rw [List.length_map]
    exact hitems.count
  · rw [hand]
    exact alike_list halike _ _

/-! ### Lists that begin with a range -/

/-- Where a range begins that has something behind it: its first bound is the one that is written
there, or a text that goes on with the word behind that. -/
theorem cases_of_joined {low first second after : List Char}
    (h : Joined ['t', 'o'] ['a', 'n', 'd'] first second (low ++ ([' ', 't', 'o', ' '] ++ after)))
    (hfirst : Admissible first) (hfree : Free Expression.boundWords low) (htrimmed : Trimmed low)
    (hafter : ∀ c ∈ after.head?, isBlank c = false) :
    first = low ∧ second = after ∨ ∃ rest, first = low ++ ' ' :: 't' :: rest := by
  obtain ⟨blanks, found, more, heq, hgap, hfound, hgap'⟩ := h
  have hto : ∀ c ∈ (['t', 'o', ' '] ++ after).head?, isBlank c = false := by simp [isBlank]
  -- None of the words stands free in the bound that is written, so none ends the bound before.
  have hlength : low.length ≤ first.length := by
    have htail : ([' ', 't', 'o', ' '] ++ after).head?.any isBlank = true := by simp [isBlank]
    exact words_bounds.length_le List.mem_cons_self (List.mem_cons_of_mem _ List.mem_cons_self)
      hfree htrimmed htail hfirst.2.1 heq hgap hfound hgap'
  -- What is longer than the bound goes on with a blank and the word, as a bound ends in no blank.
  rcases List.append_eq_append_iff.1 heq with ⟨rest, rfl, hrest⟩ | ⟨rest, rfl, hrest⟩
  · cases rest with
    | nil =>
      obtain ⟨-, hword⟩ := (gap_blank hto).eq hgap hrest
      have hmore := eq_of_isEither (by decide) hfound hword.symm
      exact .inl ⟨List.append_nil low, (hgap'.eq (gap_blank hafter) hmore).2⟩
    | cons c rest =>
      obtain ⟨rfl, hmore⟩ := List.cons.inj hrest
      cases rest with
      | nil =>
        have := (trimmed_of_admissible hfirst).2.last ' ' (by simp)
        cases this
      | cons d rest =>
        obtain ⟨rfl, -⟩ := List.cons.inj hmore
        exact .inr ⟨rest, rfl⟩
  · obtain rfl : rest = [] := by simpa using hlength
    obtain ⟨-, hword⟩ := hgap.eq (gap_blank hto) hrest
    have hmore := eq_of_isEither (by decide) hfound hword
    exact .inl ⟨(List.append_nil first).symm, (hgap'.eq (gap_blank hafter) hmore).2⟩

theorem result_parseWithin_zero : (parseWithin registry scope 0 text slot).result = none := by
  rw [parseWithin]
  split <;> rfl

/-- A single value with more words behind it is nothing. -/
theorem result_parseWithin_of_trails (hknows : Knows registry word)
    (hsystem : scope.system = registry.system) {depth : Nat} {part rest : List Char}
    (hpart : Lone part) (hfit : Fitting part) (htrimmed : Trimmed (part ++ ' ' :: 't' :: rest)) :
    (parseWithin registry scope depth (String.ofList (part ++ ' ' :: 't' :: rest)) slot).result =
      none := by
  cases depth with
  | zero => exact result_parseWithin_zero
  | succ depth =>
    rw [Option.eq_none_iff_forall_ne_some]
    intro e h
    have hsingle {rest : List Char} : (parseSingle registry (parseWithin registry scope depth) scope
        (String.ofList (part ++ ' ' :: 't' :: rest)) slot).result = none :=
      result_parseSingle_of_trails hknows hsystem hpart (.inr ⟨'t', rest, rfl, by decide⟩)
        String.toList_ofList
    rw [result_parseWithin_of_leads (by rw [String.toList_ofList]; exact leads_append hpart.leads)
      (by rwa [String.toList_ofList]), hsingle, Option.none_or] at h
    -- As a list it would begin with an item that has words behind a single value again.
    obtain ⟨enumeration, es, hsplit, -, -, hitems, -⟩ := result_parseList_iff.1 h.1
    rw [String.toList_ofList] at hsplit
    obtain ⟨more, items, hfirst⟩ := exists_item_of_words hfit hsplit
    rw [hfirst, result_parseItems_iff] at hitems
    obtain ⟨first, _, hread, -, -⟩ := List.forall₂_cons_left_iff.1 hitems
    rw [readItem, stripParens_of_leads (leads_append hpart.leads)] at hread
    simp only at hread
    rw [result_parseSingle_of_trails hknows hsystem hpart (.inr ⟨'t', more, rfl, by decide⟩)
      String.toList_ofList] at hread
    cases hread

/-- What stands behind the first part of a list. -/
theorem exists_trails (together : Bool) (second : List Char) (rest : List (List Char)) :
    ∃ tail, Trails tail ∧ ∀ part, enumerate together (part :: second :: rest) = part ++ tail := by
  match rest with
  | [] =>
    refine ⟨' ' :: (conjunction together).toList ++ ' ' :: second, ?_, fun part => ?_⟩
    · cases together
      · exact .inr ⟨'o', _, rfl, by decide⟩
      · exact .inr ⟨'a', _, rfl, by decide⟩
    · simp [enumerate_pair]
  | third :: rest => exact ⟨_, .inl ⟨_, rfl⟩, fun part => enumerate_cons together part second third rest⟩

/-- Several values that are meant together are not read where one is asked for. -/
theorem result_parseWithin_of_several (hknows : Knows registry word)
    (hsystem : scope.system = registry.system) (hslot : slot.single = true) {depth : Nat}
    {part second : List Char} {rest : List (List Char)} (hpart : Lone part)
    (hfit : ∀ p ∈ part :: second :: rest, Fitting p)
    (htrimmed : Trimmed (enumerate true (part :: second :: rest))) :
    (parseWithin registry scope depth (String.ofList (enumerate true (part :: second :: rest)))
      slot).result = none := by
  obtain ⟨tail, htail, heq⟩ := exists_trails true second rest
  have hsplit := splitList_enumerate true (by simp) hfit
  rw [heq] at htrimmed hsplit ⊢
  cases depth with
  | zero => exact result_parseWithin_zero
  | succ depth =>
    rw [Option.eq_none_iff_forall_ne_some]
    intro e h
    rw [result_parseWithin_of_leads (by rw [String.toList_ofList]; exact leads_append hpart.leads)
      (by rwa [String.toList_ofList]), result_parseSingle_of_trails hknows hsystem hpart htail
      String.toList_ofList, Option.none_or] at h
    -- As a list with `and` it has as many values as items.
    obtain ⟨enumeration, es, hfound, -, -, hitems, rfl⟩ := result_parseList_iff.1 h.1
    rw [String.toList_ofList, hsplit, Option.some.injEq] at hfound
    subst hfound
    have hlength := (result_parseItems_iff.1 hitems).length_eq
    have hsingle := h.2 hslot
    rw [(kind_of_listSeparators true _ _).2.2] at hsingle
    simp [Expression.isSingle, ← hlength] at hsingle

/-- **A list that begins with a range is no range.** Its first bound would be followed by more
words, or its second one would be several values. -/
theorem result_tryEntry_range_of_list (hknows : Knows registry word)
    (hsystem : scope.system = registry.system) {depth : Nat} {low high second : List Char}
    {rest : List (List Char)} (hlow : Lone low) (hhigh : Lone high) (hlowFit : Fitting low)
    (hfree : Free Expression.boundWords low)
    (hfit : ∀ part ∈ high :: second :: rest, Fitting part)
    (htext : text.toList = enumerate true (rangeText low high :: second :: rest)) :
    (tryEntry (parseWithin registry scope depth) scope text slot rangeEntry).result = none := by
  refine result_tryEntry_eq_none ?_
  refine result_matchElement_eq_none fun p hp index split hsplit parts hparts => ?_
  obtain rfl := List.mem_singleton.1 hp
  obtain ⟨tail, htail, heq⟩ := exists_trails true second rest
  obtain ⟨front, text', first, last, -, -, hfirst, hlast, hjoined, htext', rfl⟩ :=
    exists_of_mem_splits_range hsplit
  obtain ⟨_, _, -, hreadFirst, hreadLast⟩ := exists_of_parseSlots_pair hparts
  obtain rfl := htext' (low ++ ([' ', 't', 'o', ' '] ++ (high ++ tail))) (by
    rw [htext, heq, rangeText]
    simp) (by
    rw [List.head?_append_of_ne_nil _ hlowFit.ne_nil]
    exact hlowFit.trimmed.first)
  rcases cases_of_joined hjoined hfirst hfree hlowFit.trimmed (by
    rw [List.head?_append_of_ne_nil _ (hfit high (by simp)).ne_nil]
    exact (hfit high (by simp)).trimmed.first) with ⟨-, hsecond⟩ | ⟨more, hmore⟩
  · have htrimmed := (trimmed_of_admissible hlast).2
    rw [hsecond, ← heq] at htrimmed hreadLast
    rw [result_parseWithin_of_several hknows hsystem rfl hhigh hfit htrimmed] at hreadLast
    cases hreadLast
  · have htrimmed := (trimmed_of_admissible hfirst).2
    rw [hmore] at htrimmed hreadFirst
    rw [result_parseWithin_of_trails hknows hsystem hlow hlowFit htrimmed] at hreadFirst
    cases hreadFirst

theorem cases_of_canBeListed (h : e.canBeListed = true) : e.bounds? = none ∧ e.isLone = true ∨
    ∃ low high, e.bounds? = some (low, high) ∧ low.isLone = true ∧ high.isLone = true ∧
      Undivided low.spelling ∧ Undivided high.spelling := by
  rw [Expression.canBeListed, Bool.and_eq_true] at h
  cases hbounds : e.bounds? with
  | none =>
    rw [hbounds] at h
    exact .inl ⟨rfl, h.2⟩
  | some bounds =>
    obtain ⟨low, high⟩ := bounds
    simp only [hbounds, Bool.and_eq_true, decide_eq_true_eq] at h
    obtain ⟨-, ⟨⟨hlow, hhigh⟩, hlowUndivided⟩, hhighUndivided⟩ := h
    exact .inr ⟨low, high, rfl, hlow, hhigh, hlowUndivided, hhighUndivided⟩

/-- The first bound of a legible range can stand before the words that end it. -/
theorem free_of_bounds {low high : Expression} (hbounds : e.bounds? = some (low, high))
    (h : e.legible scope = true) : Free Expression.boundWords low.spelling := by
  fun_induction Expression.bounds? e with
  | case1 low' high' =>
    cases hbounds
    simp only [Expression.legible, Bool.and_eq_true, Expression.standsBefore,
      decide_eq_true_eq] at h
    exact h.1.2
  | case2 inner target ih =>
    rw [Expression.legible] at h
    exact ih hbounds h
  | case3 => cases hbounds

/-- **A list that is written down is no single value.** -/
theorem result_parseSingle_of_items (hknows : Knows registry word)
    (hsystem : scope.system = registry.system) {deep : Nat} {slot' : Slot} {together : Bool}
    (hitems : Items registry (parseWithin registry scope deep) scope slot' items es)
    (hlegible : ∀ e ∈ es, e.legible scope = true)
    (hfirst : together = true ∨ ∀ e ∈ es.head?, e.bounds? = none)
    (htext : text.toList = enumerate together (es.map Expression.spelling)) :
    (parseSingle registry (parseWithin registry scope deep) scope text slot).result = none := by
  have hcount := hitems.count
  match es, hitems, hcount with
  | first :: second :: rest, hitems, _ =>
  obtain ⟨item, _, hrenewed, -, -⟩ := List.forall₂_cons_right_iff.1 hitems.renewed
  obtain ⟨tail, htail, heq⟩ := exists_trails together second.spelling (rest.map Expression.spelling)
  -- No single value but a range has words in it that may go on in the rest of the list.
  rcases cases_of_canBeListed (hitems.listed first (by simp)) with ⟨-, hlone⟩ |
    ⟨low, high, hbounds, hlow, hhigh, hlowUndivided, hhighUndivided⟩
  · exact result_parseSingle_of_trails hknows hsystem (hrenewed.shaped.lone hlone) htail
      (htext.trans (heq _))
  · obtain rfl : together = true := hfirst.resolve_right fun hnone => by
      rw [hnone first rfl] at hbounds
      cases hbounds
    have hbounded := hrenewed.shaped.bounds low high hbounds
    have hlowLone := hbounded.low_lone hlow
    have hhighLone := hbounded.high_lone hhigh
    have hlowFit := fitting_of_leads hlowLone.leads hbounded.low_trimmed hlowUndivided
    have hhighFit := fitting_of_leads hhighLone.leads hbounded.high_trimmed hhighUndivided
    have hrange : text.toList = rangeText low.spelling (high.spelling ++ tail) := by
      rw [htext, List.map_cons, List.map_cons, heq, hbounded.spelling, rangeText, rangeText]
      simp only [List.append_assoc]
    have hragged : Ragged text.toList := hrange ▸ ragged_rangeText _ _
    have hleads : leads text.toList = true := by
      rw [hrange]
      rfl
    have hhead : text.toList.head? = some 'n' := by
      rw [hrange]
      rfl
    have htext' : text.toList = enumerate true (rangeText low.spelling high.spelling ::
        second.spelling :: rest.map Expression.spelling) := by
      rw [htext, List.map_cons, List.map_cons, hbounded.spelling]
    have hfit : ∀ part ∈ high.spelling :: second.spelling :: rest.map Expression.spelling,
        Fitting part :=
      List.forall_mem_cons.2 ⟨hhighFit, fun part hpart =>
        hitems.fitting part (List.mem_cons_of_mem first.spelling hpart)⟩
    refine result_parseSingle_of_ragged hknows hsystem hragged
      (unquote_eq_none_of_head? (by simp [hhead])) fun entry hentry => ?_
    simp only [List.mem_cons, List.not_mem_nil, or_false] at hentry
    rcases hentry with rfl | rfl | rfl | rfl
    · exact result_tryEntry_variable_of_head? (by simp [hhead])
    · exact result_tryEntry_loop_of_head? hleads (by simp [hhead])
    · exact result_tryEntry_event_of_head? (by rw [hsystem, hknows.types]) hleads (by simp [hhead])
        (lookup?_of_ragged hragged)
    · exact result_tryEntry_range_of_list hknows hsystem hlowLone hhighLone hlowFit
        (free_of_bounds hbounds (hlegible first (by simp))) hfit htext'

/-! ### All expressions -/

theorem Renewed.widen {inner : String} (h : Renewed read' inner slot e)
    (hmarks : marks text.toList = marks inner.toList) (hsubset : inner.toList ⊆ text.toList) :
    Renewed read' text slot e :=
  ⟨h.written.of_subset hmarks hsubset, h.shaped, h.again⟩

/-- What is read of a text is read of it without the blanks around it. -/
theorem Renewed.of_trimString (h : Renewed read' (trimString text) slot e) :
    Renewed read' text slot e := by
  refine h.widen ?_ ?_
  · rw [trimString, String.toList_ofList]
    exact (filter_trim (fun _ => not_isMark_of_isBlank) _).symm
  · rw [trimString, String.toList_ofList]
    exact fun c hc => mem_of_mem_trim hc

/-- What is read by one level without parentheses is read by all levels. -/
theorem Renewed.of_level {deep : Nat}
    (h : ∀ e', Alike e e' → (read' (e.describe false) slot).result = some e' →
      (parseSingle registry (parseWithin registry scope deep) scope (e.describe false) slot).result.or
        (parseList registry (parseWithin registry scope deep) scope (e.describe false) slot).result =
          some e')
    (hrenewed : Renewed read' text slot e) (hsingle : slot.single = true → e.isSingle = true) :
    Renewed (parseWithin registry scope (deep + 1)) text slot e := by
  obtain ⟨hwritten, hshaped, e', hagain, halike⟩ := hrenewed
  refine ⟨hwritten, hshaped, e', ?_, halike⟩
  exact (result_parseWithin_of_leads hwritten.leads hwritten.trimmed).2
    ⟨h e' halike hagain, fun hslot => halike.single.trans (hsingle hslot)⟩

/-- **Expressions are read again as they are written down**, with at least as many levels of
nesting. -/
theorem renews_parseWithin (hknows : Knows registry word)
    (hsystem : scope.system = registry.system) (depth : Nat) : ∀ deep, depth ≤ deep →
      Renews scope (parseWithin registry scope depth) (parseWithin registry scope deep) := by
  induction depth with
  | zero =>
    intro deep _ text slot e h
    rw [result_parseWithin_zero] at h
    cases h
  | succ depth ih =>
    intro deep hdeep text slot e h hlegible
    obtain ⟨deep, rfl⟩ := Nat.exists_eq_succ_of_ne_zero (Nat.ne_of_gt (Nat.lt_of_lt_of_le
      (Nat.succ_pos depth) hdeep))
    -- Parts are read one level below, and what stood in parentheses one level above that.
    have hread : Renews scope (parseWithin registry scope depth) (parseWithin registry scope deep) :=
      @ih deep (Nat.le_of_succ_le_succ hdeep)
    have hdeeper : Renews scope (parseWithin registry scope depth)
        (parseWithin registry scope (deep + 1)) :=
      @ih (deep + 1) (Nat.le_of_succ_le hdeep)
    obtain ⟨-, honce, hsingle⟩ := result_parseWithin_iff.1 h
    refine Renewed.of_trimString ?_
    cases hparens : stripParens (trimString text).toList with
    | some inner =>
      rw [parseOnce, hparens] at honce
      refine (hdeeper honce hlegible).widen ?_ ?_
      · rw [String.toList_ofList]
        exact marks_of_stripParens hparens
      · rw [String.toList_ofList]
        exact subset_of_stripParens hparens
    | none =>
      rw [parseOnce, hparens, Attempt.result_framed, result_orElse, Option.or_eq_some_iff] at honce
      rcases honce with honce | ⟨-, honce⟩
      · refine Renewed.of_level (fun e' _ he' => ?_)
          (renews_parseSingle hknows hsystem hread honce hlegible) hsingle
        rw [he', Option.some_or]
      · refine Renewed.of_level (fun e' _ he' => ?_)
          (renewed_of_parseList hknows hsystem hread hdeeper honce hlegible) hsingle
        obtain ⟨enumeration, es, -, hitems, rfl, hfirst⟩ :=
          exists_items hknows hsystem hread hdeeper honce hlegible
        simp only [Expression.legible, Bool.and_eq_true, legibleAll_iff] at hlegible
        rw [result_parseSingle_of_items hknows hsystem hitems hlegible.1.1 hfirst, Option.none_or,
          he']
        exact spelling_list _ _ _

/-- All that is legible is read again. -/
theorem renews_parseExpression (hregistry : builtIn = .ok registry)
    (hsystem : scope.system = registry.system) :
    Renews scope (parseExpression registry scope) (parseExpression registry scope) := by
  obtain ⟨word, hknows⟩ := exists_knows hregistry
  exact renews_parseWithin hknows hsystem maxDepth maxDepth (Nat.le_refl _)

/-- **Descriptions are read again.** What is read of a text is written down as a text that is read
for the same slot, as an expression that is written down as this text again. -/
theorem exists_parseExpression_describe (hregistry : builtIn = .ok registry)
    (hsystem : scope.system = registry.system)
    (h : (parseExpression registry scope text slot).result = some e)
    (hlegible : e.legible scope = true) :
    ∃ e', (parseExpression registry scope (e.describe false) slot).result = some e' ∧
      e'.describe false = e.describe false := by
  obtain ⟨e', he', halike⟩ := (renews_parseExpression hregistry hsystem h hlegible).again
  exact ⟨e', he', halike.describe⟩

end Parsing

end TriggerScript

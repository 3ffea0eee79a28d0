import Mathlib
import TriggerScript.Proofs.Pattern.Numbering
import TriggerScript.Proofs.Pattern.Offers

/-!
# The ways to match a whole text

Every split that a pattern offers belongs to one way to match the whole text, and tells what this
way takes and nothing else. No number is used twice on a way, so nothing is written over; what
other ways take is never written.

* `Way.mark`, `Way.spans`, `Way.regexTexts` : what a way takes.
* `recordAll_eq` : this is what it writes down.
* `Fits.indices_sublist` : a way goes through slots and regular expressions from left to right.
* `Records` : a split tells what a way takes.
* `Complete`, `completeWays` : the ways to match a whole text.
* `offer_eq_tryEach` : what a pattern offers.
-/

namespace TriggerScript

/-! ### Filling a split -/

/-- Fills places one after the other. -/
def fill {α : Type} (places : List (Option α)) (entries : List (Nat × α)) : List (Option α) :=
  entries.foldl (fun places entry => places.set entry.1 (some entry.2)) places

section Fill

variable {α : Type} {places : List (Option α)} {entries : List (Nat × α)}

theorem fill_append (xs ys : List (Nat × α)) :
    fill places (xs ++ ys) = fill (fill places xs) ys :=
  List.foldl_append

theorem length_fill : (fill places entries).length = places.length := by
  induction entries generalizing places with
  | nil => rfl
  | cons entry rest ih => exact ih.trans List.length_set

theorem getElem?_fill_of_not_mem {i : Nat} (h : i ∉ entries.map Prod.fst) :
    (fill places entries)[i]? = places[i]? := by
  induction entries generalizing places with
  | nil => rfl
  | cons entry rest ih =>
    rw [List.map_cons, List.mem_cons, not_or] at h
    exact (ih h.2).trans (List.getElem?_set_ne (Ne.symm h.1))

theorem getElem?_fill_of_mem {i : Nat} {a : α} (hnodup : (entries.map Prod.fst).Nodup)
    (hbound : ∀ j ∈ entries.map Prod.fst, j < places.length) (h : (i, a) ∈ entries) :
    (fill places entries)[i]? = some (some a) := by
  induction entries generalizing places with
  | nil => cases h
  | cons entry rest ih =>
    rw [List.map_cons, List.nodup_cons] at hnodup
    rw [List.map_cons, List.forall_mem_cons] at hbound
    rcases List.mem_cons.1 h with rfl | hrest
    -- No later entry is for the same place.
    · exact (getElem?_fill_of_not_mem hnodup.1).trans (List.getElem?_set_self hbound.1)
    · exact ih hnodup.2 (fun j hj => (hbound.2 j hj).trans_eq List.length_set.symm) hrest

/-- Empty places hold after filling what was put there. -/
theorem getElem?_fill_eq_iff {i : Nat} {a : α} (hempty : ∀ place ∈ places, place = none)
    (hnodup : (entries.map Prod.fst).Nodup)
    (hbound : ∀ j ∈ entries.map Prod.fst, j < places.length) :
    (fill places entries)[i]? = some (some a) ↔ (i, a) ∈ entries := by
  refine ⟨fun h => ?_, getElem?_fill_of_mem hnodup hbound⟩
  by_cases hmem : i ∈ entries.map Prod.fst
  · obtain ⟨⟨_, b⟩, hb, rfl⟩ := List.mem_map.1 hmem
    rw [getElem?_fill_of_mem hnodup hbound hb] at h
    cases h
    exact hb
  · rw [getElem?_fill_of_not_mem hmem] at h
    cases hempty _ (List.mem_of_getElem? h)

end Fill

namespace Split

/-- A split with further marks and entries. -/
def extend (split : Split) (mark : Int32) (spans : List (Nat × Span))
    (regexes : List (Nat × List Char)) : Split :=
  ⟨split.mark ||| mark, fill split.spans spans, fill split.regexes regexes⟩

theorem extend_nothing (split : Split) : split.extend 0 [] [] = split := by
  rw [extend, Int32.or_zero]
  rfl

theorem extend_extend (split : Split) (m n : Int32) (xs ys : List (Nat × Span))
    (us vs : List (Nat × List Char)) :
    (split.extend m xs us).extend n ys vs = split.extend (m ||| n) (xs ++ ys) (us ++ vs) := by
  rw [extend, extend, extend, Int32.or_assoc, fill_append, fill_append]

end Split

namespace Pattern

/-! ### What a way takes -/

mutual

/-- The marks of the alternatives that are taken, as bits. -/
def Way.mark : Way → Int32
  | .taken _ mark ways => mark ||| waysMark ways
  | .literal _ => 0
  | .space _ => 0
  | .skipped => 0
  | .slot _ _ => 0
  | .regex _ _ => 0

def waysMark : List Way → Int32
  | [] => 0
  | way :: rest => way.mark ||| waysMark rest

end

mutual

/-- The slots on a way that begins at an offset, with what they take. -/
def Way.spans (offset : Nat) : Way → List (Nat × Span)
  | .taken _ _ ways => waysSpans offset ways
  | .slot i text => [(i, ⟨offset, offset + byteSize text, text⟩)]
  | .literal _ => []
  | .space _ => []
  | .skipped => []
  | .regex _ _ => []

def waysSpans (offset : Nat) : List Way → List (Nat × Span)
  | [] => []
  | way :: rest => way.spans offset ++ waysSpans (offset + byteSize way.text) rest

end

mutual

/-- The regular expressions on a way, with what they take. -/
def Way.regexTexts : Way → List (Nat × List Char)
  | .taken _ _ ways => waysRegexTexts ways
  | .regex i text => [(i, text)]
  | .literal _ => []
  | .space _ => []
  | .skipped => []
  | .slot _ _ => []

def waysRegexTexts : List Way → List (Nat × List Char)
  | [] => []
  | way :: rest => way.regexTexts ++ waysRegexTexts rest

end

mutual

theorem record_eq (offset : Nat) (split : Split) (way : Way) :
    way.record offset split = split.extend way.mark (way.spans offset) way.regexTexts := by
  match way with
  | .literal _ => exact (Split.extend_nothing split).symm
  | .space _ => exact (Split.extend_nothing split).symm
  | .skipped => exact (Split.extend_nothing split).symm
  | .slot i text =>
    rw [Way.mark, Split.extend, Int32.or_zero]
    rfl
  | .regex i text =>
    rw [Way.mark, Split.extend, Int32.or_zero]
    rfl
  | .taken _ mark ways =>
    rw [Way.record, recordAll_eq offset _ ways, Way.mark, Split.extend, Split.extend,
      Int32.or_assoc]
    rfl

/-- **What ways write down is what they take.** -/
theorem recordAll_eq (offset : Nat) (split : Split) (ways : List Way) :
    recordAll offset split ways =
      split.extend (waysMark ways) (waysSpans offset ways) (waysRegexTexts ways) := by
  match ways with
  | [] => exact (Split.extend_nothing split).symm
  | way :: rest =>
    rw [recordAll, recordAll_eq _ _ rest, record_eq offset split way, Split.extend_extend]
    rfl

end

/-! ### A way goes from left to right -/

theorem elementsLeaves_sublist {alternatives : List Alternative} {n : Nat} {mark : Int32}
    {elements : List Element} (h : alternatives[n]? = some (.mk mark elements)) :
    (elementsLeaves elements).Sublist (alternativesLeaves alternatives) := by
  induction alternatives generalizing n with
  | nil => cases h
  | cons alternative rest ih =>
    obtain ⟨mark', elements'⟩ := alternative
    rw [alternativesLeaves]
    cases n with
    | zero =>
      cases h
      exact List.sublist_append_left _ _
    | succ n => exact (ih h).trans (List.sublist_append_right _ _)

mutual

/-- A way goes through slots and regular expressions of a part in their order. -/
theorem Fits.indices_sublist {p : Pattern} {before : Option Char} {element : Element} {way : Way}
    {after : List Char} (offset : Nat) (h : Fits p before element way after) :
    ((way.spans offset).map Prod.fst).Sublist (element.leaves.filterMap (·.slot?)) ∧
      (way.regexTexts.map Prod.fst).Sublist (element.leaves.filterMap (·.regex?)) := by
  match h with
  | .literal _ => exact ⟨List.nil_sublist _, List.nil_sublist _⟩
  | .space _ => exact ⟨List.nil_sublist _, List.nil_sublist _⟩
  | .skipped => exact ⟨List.nil_sublist _, List.nil_sublist _⟩
  | .slot _ => exact ⟨List.Sublist.refl _, List.nil_sublist _⟩
  | .regex _ _ _ => exact ⟨List.nil_sublist _, List.Sublist.refl _⟩
  | .taken hnumber h =>
    obtain ⟨hslots, hregexes⟩ := h.indices_sublist offset
    have hleaves := elementsLeaves_sublist hnumber
    exact ⟨hslots.trans (hleaves.filterMap _), hregexes.trans (hleaves.filterMap _)⟩

theorem AllFit.indices_sublist {p : Pattern} {before : Option Char} {elements : List Element}
    {ways : List Way} {after : List Char} (offset : Nat) (h : AllFit p before elements ways after) :
    ((waysSpans offset ways).map Prod.fst).Sublist
        ((elementsLeaves elements).filterMap (·.slot?)) ∧
      ((waysRegexTexts ways).map Prod.fst).Sublist
        ((elementsLeaves elements).filterMap (·.regex?)) := by
  match h with
  | .nil => exact ⟨List.nil_sublist _, List.nil_sublist _⟩
  | .cons h hrest =>
    obtain ⟨hslots, hregexes⟩ := h.indices_sublist offset
    obtain ⟨hslots', hregexes'⟩ := hrest.indices_sublist (offset + byteSize (Way.text _))
    rw [waysSpans, waysRegexTexts, elementsLeaves, List.map_append, List.map_append,
      List.filterMap_append, List.filterMap_append]
    exact ⟨hslots.append hslots', hregexes.append hregexes'⟩

end

/-! ### The ways to match a whole text -/

/-- A split tells which marks the ways add and what each slot and each regular expression on them
takes, and nothing else. -/
structure Records (p : Pattern) (ways : List Way) (split : Split) : Prop where
  mark : split.mark = waysMark ways
  length_spans : split.spans.length = p.slots.length
  spans : ∀ i span, split.spans[i]? = some (some span) ↔ (i, span) ∈ waysSpans 0 ways
  length_regexes : split.regexes.length = p.regexes.length
  regexes : ∀ i text, split.regexes[i]? = some (some text) ↔ (i, text) ∈ waysRegexTexts ways

/-- Numbers from left to right are used once and are not too large. -/
theorem nodup_and_lt_of_sublist {indices : List Nat} {count : Nat}
    (h : indices.Sublist (List.range count)) : indices.Nodup ∧ ∀ i ∈ indices, i < count :=
  ⟨List.nodup_range.sublist h, fun _ hi => List.mem_range.1 (h.subset hi)⟩

/-- A compiled pattern writes down what the ways take. -/
theorem records_recordAll {types : TypeTable} {source : String} {p : Pattern}
    {before : Option Char} {ways : List Way} {after : List Char}
    (hp : compile types source = .ok p) (h : AllFit p before p.elements ways after) :
    Records p ways (recordAll 0 p.blankSplit ways) := by
  have hslots : ((waysSpans 0 ways).map Prod.fst).Sublist p.slotIndices :=
    (h.indices_sublist 0).1
  have hregexes : ((waysRegexTexts ways).map Prod.fst).Sublist p.regexIndices :=
    (h.indices_sublist 0).2
  rw [slotIndices_of_compile hp] at hslots
  rw [regexIndices_of_compile hp] at hregexes
  obtain ⟨hslotsOnce, hslotsBound⟩ := nodup_and_lt_of_sublist hslots
  obtain ⟨hregexesOnce, hregexesBound⟩ := nodup_and_lt_of_sublist hregexes
  have hslotsLength : p.blankSplit.spans.length = p.slots.length := List.length_map _
  have hregexesLength : p.blankSplit.regexes.length = p.regexes.length := List.length_map _
  rw [recordAll_eq]
  constructor
  · exact Int32.zero_or
  · exact length_fill.trans hslotsLength
  · intro i span
    refine getElem?_fill_eq_iff ?_ hslotsOnce fun j hj =>
      (hslotsBound j hj).trans_eq hslotsLength.symm
    simp [blankSplit]
  · exact length_fill.trans hregexesLength
  · intro i text
    refine getElem?_fill_eq_iff ?_ hregexesOnce fun j hj =>
      (hregexesBound j hj).trans_eq hregexesLength.symm
    simp [blankSplit]

section Whole

variable (p : Pattern) (text : List Char)

/-- Ways to match the parts of a pattern one after the other that take a whole text. -/
def Complete (ways : List Way) : Prop :=
  AllFit p none p.elements ways [] ∧ waysText ways = text

/-- All ways to match a whole text, in the order in which they are tried. -/
def completeWays : List (List Way) :=
  (elementsWays p (.start text) p.elements).filter fun ways =>
    ((Cursor.start text).advance (waysText ways)).rest.isEmpty

variable {p text}

theorem mem_completeWays_iff {ways : List Way} :
    ways ∈ p.completeWays text ↔ p.Complete text ways := by
  rw [completeWays, List.mem_filter, mem_elementsWays_iff, List.isEmpty_iff]
  constructor
  · rintro ⟨⟨after, hrest, hfit⟩, hempty⟩
    rw [Cursor.rest_advance hrest] at hempty
    subst hempty
    exact ⟨hfit, (hrest.trans (List.append_nil _)).symm⟩
  · rintro ⟨hfit, rfl⟩
    have hrest : (Cursor.start (waysText ways)).rest = waysText ways ++ [] :=
      (List.append_nil _).symm
    exact ⟨⟨[], hrest, hfit⟩, Cursor.rest_advance hrest⟩

theorem pairwise_completeWays : (p.completeWays text).Pairwise (WaysPrecede p) :=
  (pairwise_elementsWays (.start text) p.elements).filter _

/-- The matcher offers what the ways to match the whole text write down. -/
theorem offer_eq_tryEach_record {σ : Type} (sink : Split → σ → Bool × σ) (s : σ) :
    p.offer text sink s =
      tryEach sink ((p.completeWays text).map (recordAll 0 p.blankSplit)) s := by
  rw [offer, runElements_eq_tryEach, tryEach_map, completeWays, tryEach_filter]
  rfl

theorem splits_eq_map : p.splits text = (p.completeWays text).map (recordAll 0 p.blankSplit) := by
  rw [splits, offer_eq_tryEach_record, tryEach_reject, List.append_nil, List.reverse_reverse]

/-- Whatever the sink, a pattern offers its splits one after the other. -/
theorem offer_eq_tryEach {σ : Type} (sink : Split → σ → Bool × σ) (s : σ) :
    p.offer text sink s = tryEach sink (p.splits text) s := by
  rw [offer_eq_tryEach_record, splits_eq_map]

theorem first?_eq_head? : p.first? text = (p.splits text).head? := by
  rw [first?, offer_eq_tryEach, tryEach_take]

/-- A sink that goes by a property of splits sees the splits up to the first that has it. -/
theorem offer_pure (accept : Split → Bool) :
    p.offer text (fun split seen => (accept split, seen ++ [split])) [] =
      ((p.splits text).any accept,
        (p.splits text).takeWhile (fun split => !accept split) ++
          ((p.splits text).find? accept).toList) := by
  rw [offer_eq_tryEach, tryEach_pure, List.nil_append]

end Whole

/-- **A compiled pattern offers one split for each way to match a text, in the order in which the
ways are tried**: the split tells what the way takes and nothing else, and a sink that goes by a
property of splits gets them one after the other up to the first that has it. -/
theorem splits_of_compile {types : TypeTable} {source : String} {p : Pattern}
    (hp : compile types source = .ok p) (text : List Char) :
    (∃ paths : List (List Way), (∀ ways, ways ∈ paths ↔ p.Complete text ways) ∧ paths.Nodup ∧
      paths.Pairwise (WaysPrecede p) ∧ List.Forall₂ (Records p) paths (p.splits text)) ∧
    p.first? text = (p.splits text).head? ∧
    ∀ accept : Split → Bool,
      p.offer text (fun split seen => (accept split, seen ++ [split])) [] =
        ((p.splits text).any accept,
          (p.splits text).takeWhile (fun split => !accept split) ++
            ((p.splits text).find? accept).toList) := by
  refine ⟨⟨p.completeWays text, fun ways => mem_completeWays_iff, ?_, pairwise_completeWays, ?_⟩,
    first?_eq_head?, offer_pure⟩
  · exact pairwise_completeWays.imp fun h => h.ne
  · rw [splits_eq_map, List.forall₂_map_right_iff, List.forall₂_same]
    intro ways hways
    exact records_recordAll hp (mem_completeWays_iff.1 hways).1

/-- One type, named text. -/
def textTable : TypeTable := ⟨[.named "text" "text¦s"]⟩

/-- A pattern with a part that may be left out. -/
def sendPattern : Pattern where
  source := "send %text%[2¦ to %text%]"
  elements := [.literal ['s', 'e', 'n', 'd'], .space, .slot 0,
    .group [.mk 2 [.space, .literal ['t', 'o'], .space, .slot 1]] true]
  slots := [.one ["text"], .one ["text"]]
  regexes := []

/-- It is sent to someone, or `a to b` is sent. -/
theorem splits_of_compile_sendPattern :
    compile textTable "send %text%[2¦ to %text%]" = .ok sendPattern ∧
    ∃ paths : List (List Way),
      (∀ ways, ways ∈ paths ↔ sendPattern.Complete "send a to b".toList ways) ∧
      List.Forall₂ (Records sendPattern) paths
        [⟨2, [some ⟨5, 6, "a".toList⟩, some ⟨10, 11, "b".toList⟩], []⟩,
          ⟨0, [some ⟨5, 11, "a to b".toList⟩, none], []⟩] := by
  have hp : compile textTable "send %text%[2¦ to %text%]" = .ok sendPattern := by cbv
  obtain ⟨⟨paths, hmem, -, -, hrecords⟩, -⟩ := splits_of_compile hp "send a to b".toList
  have hsplits : sendPattern.splits "send a to b".toList =
      [⟨2, [some ⟨5, 6, "a".toList⟩, some ⟨10, 11, "b".toList⟩], []⟩,
        ⟨0, [some ⟨5, 11, "a to b".toList⟩, none], []⟩] := by cbv
  exact ⟨hp, paths, hmem, hsplits ▸ hrecords⟩

end Pattern

end TriggerScript

import TriggerScript.Proofs.Pattern.Cursor

/-!
# The ways to match a pattern

A way says for each part of a pattern which text it takes, and for each group which alternative is
taken. What ways there are, and which of two comes first, is said without a search.

* `Way` : how one part is matched.
* `Fits` : what a part may take, given what stands around it.
* `Way.Precedes` : which of two ways is tried first.
* `elementWays`, `elementsWays` : all ways to match parts from a place on.
* `mem_elementWays_iff` : these are the ways that fit.
* `pairwise_elementWays` : they come in the order in which they are tried.
-/

namespace TriggerScript.Pattern

/-- How one part of a pattern is matched. -/
inductive Way where
  | literal (text : List Char)
  | space (text : List Char)
  /-- By the alternative with this number, which adds a mark. -/
  | taken (number : Nat) (mark : Int32) (ways : List Way)
  /-- A group is left out. -/
  | skipped
  | slot (index : Nat) (text : List Char)
  | regex (index : Nat) (text : List Char)

mutual

/-- The text that a way takes. -/
def Way.text : Way → List Char
  | .literal text => text
  | .space text => text
  | .taken _ _ ways => waysText ways
  | .skipped => []
  | .slot _ text => text
  | .regex _ text => text

/-- The text that ways take one after the other. -/
def waysText : List Way → List Char
  | [] => []
  | way :: rest => way.text ++ waysText rest

end

attribute [grind =] Way.text waysText

/-- Whether a slot is to take the longest text first. -/
def isGreedy (p : Pattern) (index : Nat) : Bool :=
  (p.slots[index]?.map (·.greedy)).getD false

mutual

/-- A way fits a part of a pattern between the character before it and the text behind it. -/
inductive Fits (p : Pattern) : Option Char → Element → Way → List Char → Prop where
  | literal {before : Option Char} {cs text after : List Char}
      (h : List.Forall₂ (fun c expected => Text.sameLetter c expected = true) text cs) :
      Fits p before (.literal cs) (.literal text) after
  | space {before : Option Char} {text after : List Char} (h : TakesBlanks before text after) :
      Fits p before .space (.space text) after
  | taken {before : Option Char} {after : List Char} {alternatives : List Alternative}
      {optional : Bool} {number : Nat} {mark : Int32} {elements : List Element} {ways : List Way}
      (hnumber : alternatives[number]? = some (.mk mark elements))
      (h : AllFit p before elements ways after) :
      Fits p before (.group alternatives optional) (.taken number mark ways) after
  | skipped {before : Option Char} {after : List Char} {alternatives : List Alternative} :
      Fits p before (.group alternatives true) .skipped after
  | slot {before : Option Char} {after text : List Char} {index : Nat} (h : Admissible text) :
      Fits p before (.slot index) (.slot index text) after
  | regex {before : Option Char} {after text : List Char} {index : Nat} {re : Regex}
      (hre : p.regexes[index]? = some re) (hne : text ≠ []) (h : re.accepts text = true) :
      Fits p before (.regex index) (.regex index text) after

/-- Ways fit parts that stand one after the other. -/
inductive AllFit (p : Pattern) : Option Char → List Element → List Way → List Char → Prop where
  | nil {before : Option Char} {after : List Char} : AllFit p before [] [] after
  | cons {before : Option Char} {after : List Char} {element : Element} {elements : List Element}
      {way : Way} {ways : List Way} (h : Fits p before element way (waysText ways ++ after))
      (hrest : AllFit p (way.text.getLast?.or before) elements ways after) :
      AllFit p before (element :: elements) (way :: ways) after

end

mutual

/-- One way to match a part is tried before another: alternatives in order and no alternative last;
short texts before long ones, but long ones first for a greedy slot. -/
inductive Way.Precedes (p : Pattern) : Way → Way → Prop where
  | number {m n : Nat} {mark mark' : Int32} {ways ways' : List Way} (h : m < n) :
      Way.Precedes p (.taken m mark ways) (.taken n mark' ways')
  | inside {n : Nat} {mark : Int32} {ways ways' : List Way} (h : WaysPrecede p ways ways') :
      Way.Precedes p (.taken n mark ways) (.taken n mark ways')
  | skipped {n : Nat} {mark : Int32} {ways : List Way} :
      Way.Precedes p (.taken n mark ways) .skipped
  | shorter {index : Nat} {text text' : List Char} (hgreedy : isGreedy p index = false)
      (h : text.length < text'.length) : Way.Precedes p (.slot index text) (.slot index text')
  | longer {index : Nat} {text text' : List Char} (hgreedy : isGreedy p index = true)
      (h : text'.length < text.length) : Way.Precedes p (.slot index text) (.slot index text')
  | regex {index : Nat} {text text' : List Char} (h : text.length < text'.length) :
      Way.Precedes p (.regex index text) (.regex index text')

/-- Ways are tried before others if the first that differs is. -/
inductive WaysPrecede (p : Pattern) : List Way → List Way → Prop where
  | head {way way' : Way} {ways ways' : List Way} (h : way.Precedes p way') :
      WaysPrecede p (way :: ways) (way' :: ways')
  | tail {way : Way} {ways ways' : List Way} (h : WaysPrecede p ways ways') :
      WaysPrecede p (way :: ways) (way :: ways')

end

mutual

/-- All ways to match a part from a place on, in the order in which they are tried. -/
def elementWays (p : Pattern) (cur : Cursor) : Element → List Way
  | .literal cs => (cur.afterLiteral? cs).toList.map fun stop => .literal (cur.textTo stop)
  | .space => cur.afterSpace?.toList.map fun stop => .space (cur.textTo stop)
  | .group alternatives optional =>
    alternativesWays p cur 0 alternatives ++ if optional then [.skipped] else []
  | .slot i =>
    (if isGreedy p i then cur.slotTexts.reverse else cur.slotTexts).map (.slot i)
  | .regex i =>
    (p.regexes[i]?).toList.flatMap fun re =>
      ((re.ends cur.rest).map (cur.rest.take ·)).map (.regex i)

/-- All ways to match parts one after the other. -/
def elementsWays (p : Pattern) (cur : Cursor) : List Element → List (List Way)
  | [] => [[]]
  | e :: rest =>
    (elementWays p cur e).flatMap fun way =>
      (elementsWays p (cur.advance way.text) rest).map (way :: ·)

/-- All ways to match one of several alternatives, the first of which has the number `n`. -/
def alternativesWays (p : Pattern) (cur : Cursor) (n : Nat) : List Alternative → List Way
  | [] => []
  | .mk mark elements :: rest =>
    (elementsWays p cur elements).map (.taken n mark) ++ alternativesWays p cur (n + 1) rest

end

attribute [grind =] elementWays elementsWays alternativesWays

/-! ### They are the ways that fit -/

section Fit

variable {p : Pattern} {cur : Cursor}

/-- A way to match a part from a place on fits what stands there. -/
def FitsAt (p : Pattern) (cur : Cursor) (element : Element) (way : Way) : Prop :=
  ∃ after, cur.rest = way.text ++ after ∧ Fits p cur.before element way after

/-- Ways to match parts from a place on fit what stands there. -/
def AllFitAt (p : Pattern) (cur : Cursor) (elements : List Element) (ways : List Way) : Prop :=
  ∃ after, cur.rest = waysText ways ++ after ∧ AllFit p cur.before elements ways after

/-- Parts one after the other: the first one fits here, and the others behind its text. -/
theorem allFitAt_cons_iff {element : Element} {elements : List Element} {way : Way}
    {ways : List Way} :
    AllFitAt p cur (element :: elements) (way :: ways) ↔
      FitsAt p cur element way ∧ AllFitAt p (cur.advance way.text) elements ways := by
  constructor
  · rintro ⟨after, hrest, hfit⟩
    cases hfit with
    | cons h hmore =>
      rw [waysText, List.append_assoc] at hrest
      exact ⟨⟨_, hrest, h⟩, after, Cursor.rest_advance hrest, hmore⟩
  · rintro ⟨⟨after, hrest, hfit⟩, after', hrest', hmore⟩
    rw [Cursor.rest_advance hrest] at hrest'
    subst hrest'
    exact ⟨after', by rw [hrest, waysText, List.append_assoc], .cons hfit hmore⟩

/-- Parts that take one text at most. -/
theorem mem_map_textTo_iff {stop? : Option Cursor} {takes : List Char → List Char → Prop}
    (hstop : ∀ stop, stop? = some stop ↔
      ∃ text after, cur.rest = text ++ after ∧ takes text after ∧ stop = cur.advance text)
    (make : List Char → Way) {way : Way} :
    way ∈ stop?.toList.map (fun stop => make (cur.textTo stop)) ↔
      ∃ text after, cur.rest = text ++ after ∧ takes text after ∧ way = make text := by
  simp only [List.mem_map, Option.mem_toList, hstop]
  constructor
  · rintro ⟨_, ⟨text, after, hrest, htakes, rfl⟩, rfl⟩
    exact ⟨text, after, hrest, htakes, by rw [Cursor.textTo_advance hrest]⟩
  · rintro ⟨text, after, hrest, htakes, rfl⟩
    exact ⟨_, ⟨text, after, hrest, htakes, rfl⟩, by rw [Cursor.textTo_advance hrest]⟩

theorem mem_literal_iff {cs : List Char} {way : Way} :
    way ∈ elementWays p cur (.literal cs) ↔ FitsAt p cur (.literal cs) way := by
  rw [elementWays, mem_map_textTo_iff fun _ => Cursor.afterLiteral?_eq_some_iff]
  constructor
  · rintro ⟨text, after, hrest, hsame, rfl⟩
    exact ⟨after, hrest, .literal hsame⟩
  · rintro ⟨after, hrest, hfit⟩
    cases hfit with
    | literal hsame => exact ⟨_, after, hrest, hsame, rfl⟩

theorem mem_space_iff {way : Way} :
    way ∈ elementWays p cur .space ↔ FitsAt p cur .space way := by
  rw [elementWays, mem_map_textTo_iff fun _ => Cursor.afterSpace?_eq_some_iff]
  constructor
  · rintro ⟨text, after, hrest, htakes, rfl⟩
    exact ⟨after, hrest, .space htakes⟩
  · rintro ⟨after, hrest, hfit⟩
    cases hfit with
    | space htakes => exact ⟨_, after, hrest, htakes, rfl⟩

theorem mem_slot_iff {i : Nat} {way : Way} :
    way ∈ elementWays p cur (.slot i) ↔ FitsAt p cur (.slot i) way := by
  have horder : ∀ text, text ∈ (if isGreedy p i then cur.slotTexts.reverse else cur.slotTexts) ↔
      text <+: cur.rest ∧ Admissible text := by
    intro text
    rw [← Cursor.mem_slotTexts_iff]
    split
    · exact List.mem_reverse
    · rfl
  simp only [elementWays, List.mem_map, horder]
  constructor
  · rintro ⟨text, ⟨⟨after, hrest⟩, hadmissible⟩, rfl⟩
    exact ⟨after, hrest.symm, .slot hadmissible⟩
  · rintro ⟨after, hrest, hfit⟩
    cases hfit with
    | slot hadmissible => exact ⟨_, ⟨⟨after, hrest.symm⟩, hadmissible⟩, rfl⟩

theorem mem_regex_iff {i : Nat} {way : Way} :
    way ∈ elementWays p cur (.regex i) ↔ FitsAt p cur (.regex i) way := by
  simp only [elementWays, List.mem_flatMap, Option.mem_toList]
  constructor
  · rintro ⟨re, hre, h⟩
    obtain ⟨text, htext, rfl⟩ := List.mem_map.1 h
    obtain ⟨⟨after, hrest⟩, hne, haccepts⟩ := mem_map_take_ends_iff.1 htext
    exact ⟨after, hrest.symm, .regex hre hne haccepts⟩
  · rintro ⟨after, hrest, hfit⟩
    cases hfit with
    | regex hre hne haccepts =>
      refine ⟨_, hre, List.mem_map_of_mem ?_⟩
      exact mem_map_take_ends_iff.2 ⟨⟨after, hrest.symm⟩, hne, haccepts⟩

mutual

/-- **The ways to match a part are the ways that fit.** -/
theorem mem_elementWays_iff {cur : Cursor} (element : Element) {way : Way} :
    way ∈ elementWays p cur element ↔ FitsAt p cur element way := by
  match element with
  | .literal cs => exact mem_literal_iff
  | .space => exact mem_space_iff
  | .slot i => exact mem_slot_iff
  | .regex i => exact mem_regex_iff
  | .group alternatives optional =>
    -- Which alternative it is does not depend on where the count begins.
    have htaken := fun n => @mem_alternativesWays_iff cur n alternatives way
    rw [elementWays, List.mem_append, htaken 0]
    constructor
    · rintro (⟨k, mark, elements, ways, hk, rfl, ⟨after, hrest, hfit⟩⟩ | hskipped)
      · rw [Nat.zero_add]
        exact ⟨after, hrest, .taken hk hfit⟩
      · cases optional with
        | false => cases hskipped
        | true =>
          obtain rfl := List.mem_singleton.1 hskipped
          exact ⟨cur.rest, rfl, .skipped⟩
    · rintro ⟨after, hrest, hfit⟩
      cases hfit with
      | taken hk hfit =>
        exact .inl ⟨_, _, _, _, hk, by rw [Nat.zero_add], ⟨after, hrest, hfit⟩⟩
      | skipped => exact .inr (List.mem_singleton.2 rfl)

theorem mem_elementsWays_iff {cur : Cursor} (elements : List Element) {ways : List Way} :
    ways ∈ elementsWays p cur elements ↔ AllFitAt p cur elements ways := by
  match elements with
  | [] =>
    rw [elementsWays, List.mem_singleton]
    constructor
    · rintro rfl
      exact ⟨cur.rest, rfl, .nil⟩
    · rintro ⟨after, -, hfit⟩
      cases hfit
      rfl
  | element :: rest =>
    simp only [elementsWays, List.mem_flatMap, List.mem_map]
    constructor
    · rintro ⟨way, hway, ways, hways, rfl⟩
      exact allFitAt_cons_iff.2
        ⟨(mem_elementWays_iff element).1 hway, (mem_elementsWays_iff rest).1 hways⟩
    · intro h
      obtain ⟨way, ways, rfl⟩ : ∃ way ways', ways = way :: ways' := by
        obtain ⟨after, -, hfit⟩ := h
        cases hfit
        exact ⟨_, _, rfl⟩
      obtain ⟨hway, hways⟩ := allFitAt_cons_iff.1 h
      exact ⟨way, (mem_elementWays_iff element).2 hway, ways, (mem_elementsWays_iff rest).2 hways,
        rfl⟩

theorem mem_alternativesWays_iff {cur : Cursor} {n : Nat} (alternatives : List Alternative)
    {way : Way} :
    way ∈ alternativesWays p cur n alternatives ↔ ∃ k mark elements ways,
      alternatives[k]? = some (.mk mark elements) ∧ way = .taken (n + k) mark ways ∧
        AllFitAt p cur elements ways := by
  match alternatives with
  | [] => simp [alternativesWays]
  | .mk mark elements :: rest =>
    rw [alternativesWays, List.mem_append, mem_alternativesWays_iff rest, List.mem_map]
    constructor
    · rintro (⟨ways, hways, rfl⟩ | ⟨k, mark', elements', ways, hk, rfl, hfit⟩)
      · exact ⟨0, mark, elements, ways, rfl, rfl, (mem_elementsWays_iff elements).1 hways⟩
      · refine ⟨k + 1, mark', elements', ways, hk, ?_, hfit⟩
        rw [Nat.add_assoc, Nat.add_comm 1]
    · rintro ⟨k, mark', elements', ways, hk, rfl, hfit⟩
      cases k with
      | zero =>
        cases hk
        exact .inl ⟨ways, (mem_elementsWays_iff elements).2 hfit, rfl⟩
      | succ k =>
        refine .inr ⟨k, mark', elements', ways, hk, ?_, hfit⟩
        rw [Nat.add_assoc, Nat.add_comm 1]

end

end Fit

/-! ### They come in order -/

section Order

variable {p : Pattern}

/-- A part with at most one way needs no order. -/
theorem pairwise_map_toList {α : Type} (o : Option α) (f : α → Way) :
    (o.toList.map f).Pairwise (Way.Precedes p) := by
  cases o with
  | none => exact .nil
  | some a => exact List.pairwise_singleton _ _

theorem pairwise_slot (cur : Cursor) (i : Nat) :
    (elementWays p cur (.slot i)).Pairwise (Way.Precedes p) := by
  have horder := cur.pairwise_slotTexts
  rw [elementWays, List.pairwise_map]
  cases hgreedy : isGreedy p i with
  | true =>
    rw [if_pos rfl, List.pairwise_reverse]
    exact horder.imp fun h => .longer hgreedy h
  | false =>
    rw [if_neg Bool.false_ne_true]
    exact horder.imp fun h => .shorter hgreedy h

theorem pairwise_regex (cur : Cursor) (i : Nat) :
    (elementWays p cur (.regex i)).Pairwise (Way.Precedes p) := by
  rw [elementWays]
  cases p.regexes[i]? with
  | none => exact .nil
  | some re =>
    rw [Option.toList_some, List.flatMap_singleton, List.pairwise_map]
    exact (pairwise_map_take_ends re cur.rest).imp fun h => .regex h

/-- Ways of later alternatives have higher numbers. -/
theorem exists_eq_taken {cur : Cursor} {n : Nat} {alternatives : List Alternative} {way : Way}
    (h : way ∈ alternativesWays p cur n alternatives) :
    ∃ k mark ways, n ≤ k ∧ way = .taken k mark ways := by
  obtain ⟨k, mark, _, ways, -, rfl, -⟩ := (mem_alternativesWays_iff alternatives).1 h
  exact ⟨n + k, mark, ways, Nat.le_add_right n k, rfl⟩

mutual

/-- **The ways to match a part come in the order in which they are tried.** -/
theorem pairwise_elementWays (cur : Cursor) (element : Element) :
    (elementWays p cur element).Pairwise (Way.Precedes p) := by
  match element with
  | .literal cs => exact pairwise_map_toList _ _
  | .space => exact pairwise_map_toList _ _
  | .slot i => exact pairwise_slot cur i
  | .regex i => exact pairwise_regex cur i
  | .group alternatives optional =>
    rw [elementWays]
    refine List.pairwise_append.2 ⟨pairwise_alternativesWays cur 0 alternatives, ?_, ?_⟩
    · split
      · exact List.pairwise_singleton _ _
      · exact .nil
    · intro way hway last hlast
      obtain ⟨k, mark, ways, -, rfl⟩ := exists_eq_taken hway
      split at hlast
      · obtain rfl := List.mem_singleton.1 hlast
        exact .skipped
      · cases hlast

theorem pairwise_elementsWays (cur : Cursor) (elements : List Element) :
    (elementsWays p cur elements).Pairwise (WaysPrecede p) := by
  match elements with
  | [] => exact List.pairwise_singleton _ _
  | element :: rest =>
    rw [elementsWays, List.pairwise_flatMap]
    constructor
    · intro way _
      exact List.pairwise_map.2
        ((pairwise_elementsWays (cur.advance way.text) rest).imp fun h => .tail h)
    · refine (pairwise_elementWays cur element).imp fun hway ways hways ways' hways' => ?_
      obtain ⟨more, -, rfl⟩ := List.mem_map.1 hways
      obtain ⟨more', -, rfl⟩ := List.mem_map.1 hways'
      exact .head hway

theorem pairwise_alternativesWays (cur : Cursor) (n : Nat) (alternatives : List Alternative) :
    (alternativesWays p cur n alternatives).Pairwise (Way.Precedes p) := by
  match alternatives with
  | [] => exact .nil
  | .mk mark elements :: rest =>
    rw [alternativesWays]
    refine List.pairwise_append.2 ⟨?_, pairwise_alternativesWays cur (n + 1) rest, ?_⟩
    · exact List.pairwise_map.2 ((pairwise_elementsWays cur elements).imp fun h => .inside h)
    · intro way hway later hlater
      obtain ⟨ways, -, rfl⟩ := List.mem_map.1 hway
      obtain ⟨k, mark', ways', hk, rfl⟩ := exists_eq_taken hlater
      exact .number hk

end

mutual

theorem Way.Precedes.asymm {way way' : Way} (h : way.Precedes p way') :
    ¬ way'.Precedes p way := by
  intro h'
  match h, h' with
  | .number h, .number h' => exact Nat.lt_asymm h h'
  | .number h, .inside _ => exact Nat.lt_irrefl _ h
  | .inside _, .number h => exact Nat.lt_irrefl _ h
  | .inside h, .inside h' => exact h.asymm h'
  | .shorter _ h, .shorter _ h' => exact Nat.lt_asymm h h'
  | .shorter hgreedy _, .longer hgreedy' _ => exact Bool.noConfusion (hgreedy.symm.trans hgreedy')
  | .longer hgreedy _, .shorter hgreedy' _ => exact Bool.noConfusion (hgreedy'.symm.trans hgreedy)
  | .longer _ h, .longer _ h' => exact Nat.lt_asymm h h'
  | .regex h, .regex h' => exact Nat.lt_asymm h h'

/-- Of two ways at most one is tried before the other. -/
theorem WaysPrecede.asymm {ways ways' : List Way} (h : WaysPrecede p ways ways') :
    ¬ WaysPrecede p ways' ways := by
  intro h'
  match h, h' with
  | .head h, .head h' => exact h.asymm h'
  | .head h, .tail _ => exact h.asymm h
  | .tail _, .head h => exact h.asymm h
  | .tail h, .tail h' => exact h.asymm h'

end

theorem WaysPrecede.ne {ways ways' : List Way} (h : WaysPrecede p ways ways') : ways ≠ ways' := by
  rintro rfl
  exact h.asymm h

end Order

end TriggerScript.Pattern

import TriggerScript.Pattern.Compile
import Mathlib.Data.List.Basic
import Mathlib.Data.List.Range

/-!
# The numbers of slots

While a source is read, slots are added behind those that were read before, and parts behind the
parts that were read before. So slots are numbered from left to right, and each number is used once;
the same goes for regular expressions.

* `Element.leaves` : the parts of a part that are not groups, from left to right.
* `Element.slot?`, `Element.regex?` : the number that a part has.
* `Draft.leaves` : the parts that were read so far.
* `Draft.Numbered` : the numbers of these parts are those of the slots that were read so far.
* `numbered_step`, `Draft.run_induction` : this is kept by every token, and so by a run.
* `compile_eq_ok_iff` : a compiled pattern is what was read when the source ended.
* `slotIndices_of_compile` : the numbers of the slots of a pattern, from left to right.
-/

namespace TriggerScript

/-! ### The parts of a pattern -/

mutual

/-- The parts of a part that are not groups, from left to right. -/
def Element.leaves : Element → List Element
  | .group alternatives _ => alternativesLeaves alternatives
  | .literal cs => [.literal cs]
  | .space => [.space]
  | .slot i => [.slot i]
  | .regex i => [.regex i]

def elementsLeaves : List Element → List Element
  | [] => []
  | e :: rest => e.leaves ++ elementsLeaves rest

def alternativesLeaves : List Alternative → List Element
  | [] => []
  | .mk _ elements :: rest => elementsLeaves elements ++ alternativesLeaves rest

end

attribute [grind =] Element.leaves elementsLeaves alternativesLeaves

/-- The number of a slot. -/
def Element.slot? : Element → Option Nat
  | .slot i => some i
  | _ => none

/-- The number of a regular expression. -/
def Element.regex? : Element → Option Nat
  | .regex i => some i
  | _ => none

theorem elementsLeaves_append (xs ys : List Element) :
    elementsLeaves (xs ++ ys) = elementsLeaves xs ++ elementsLeaves ys := by
  induction xs with
  | nil => rfl
  | cons e xs ih => rw [List.cons_append, elementsLeaves, elementsLeaves, ih, List.append_assoc]

theorem alternativesLeaves_append (xs ys : List Alternative) :
    alternativesLeaves (xs ++ ys) = alternativesLeaves xs ++ alternativesLeaves ys := by
  induction xs with
  | nil => rfl
  | cons a xs ih =>
    obtain ⟨mark, elements⟩ := a
    rw [List.cons_append, alternativesLeaves, alternativesLeaves, ih, List.append_assoc]

/-- A part that is added to a sequence in reverse comes last. -/
theorem elementsLeaves_reverse_cons (e : Element) (elements : List Element) :
    elementsLeaves (e :: elements).reverse = elementsLeaves elements.reverse ++ e.leaves := by
  rw [List.reverse_cons, elementsLeaves_append, elementsLeaves, elementsLeaves, List.append_nil]

theorem alternativesLeaves_reverse_cons (mark : Int32) (elements : List Element)
    (alternatives : List Alternative) :
    alternativesLeaves (.mk mark elements :: alternatives).reverse =
      alternativesLeaves alternatives.reverse ++ elementsLeaves elements := by
  rw [List.reverse_cons, alternativesLeaves_append, alternativesLeaves, alternativesLeaves,
    List.append_nil]

namespace Pattern

/-- The numbers of the slots of a pattern, from left to right. -/
def slotIndices (p : Pattern) : List Nat :=
  (elementsLeaves p.elements).filterMap (·.slot?)

/-- The numbers of the regular expressions of a pattern, from left to right. -/
def regexIndices (p : Pattern) : List Nat :=
  (elementsLeaves p.elements).filterMap (·.regex?)

/-! ### The parts that were read so far -/

/-- The parts before an open group and in its alternatives that have ended. -/
def OpenGroup.leaves (group : OpenGroup) : List Element :=
  elementsLeaves group.outer.reverse ++ alternativesLeaves group.alternatives.reverse

/-- The parts before the innermost sequence. -/
@[grind =]
def groupsLeaves : List OpenGroup → List Element
  | [] => []
  | group :: outer => groupsLeaves outer ++ group.leaves

namespace Draft

/-- The parts that were read so far, without a literal that has not ended. -/
def leaves (d : Draft) : List Element :=
  groupsLeaves d.groups ++ elementsLeaves d.elements.reverse

/-- The numbers of the parts are those of the slots and regular expressions in order. -/
structure Numbered (d : Draft) : Prop where
  slots : d.leaves.filterMap (·.slot?) = List.range d.slots.length
  regexes : d.leaves.filterMap (·.regex?) = List.range d.regexes.length

theorem numbered_empty : Numbered empty := ⟨rfl, rfl⟩

/-- A part that has no number changes nothing. -/
theorem Numbered.append {d d' : Draft} (h : d.Numbered) (more : List Element)
    (hleaves : d'.leaves = d.leaves ++ more) (hslot : ∀ e ∈ more, e.slot? = none)
    (hregex : ∀ e ∈ more, e.regex? = none) (hslots : d'.slots = d.slots)
    (hregexes : d'.regexes = d.regexes) : d'.Numbered := by
  constructor
  · rw [hleaves, List.filterMap_append, List.filterMap_eq_nil_iff.2 hslot, List.append_nil, hslots,
      h.slots]
  · rw [hleaves, List.filterMap_append, List.filterMap_eq_nil_iff.2 hregex, List.append_nil,
      hregexes, h.regexes]

/-- Moving parts between groups changes nothing. -/
theorem Numbered.of_leaves_eq {d d' : Draft} (h : d.Numbered) (hleaves : d'.leaves = d.leaves)
    (hslots : d'.slots = d.slots) (hregexes : d'.regexes = d.regexes) : d'.Numbered :=
  h.append [] (hleaves.trans (List.append_nil _).symm) nofun nofun hslots hregexes

@[simp] theorem flush_groups (d : Draft) : d.flush.groups = d.groups := by
  unfold flush
  split <;> rfl

@[simp] theorem flush_slots (d : Draft) : d.flush.slots = d.slots := by
  unfold flush
  split <;> rfl

@[simp] theorem flush_regexes (d : Draft) : d.flush.regexes = d.regexes := by
  unfold flush
  split <;> rfl

theorem leaves_push (d : Draft) (e : Element) : (d.push e).leaves = d.flush.leaves ++ e.leaves := by
  rw [push, leaves, leaves, elementsLeaves_reverse_cons, List.append_assoc]

theorem numbered_flush {d : Draft} (h : d.Numbered) : d.flush.Numbered := by
  unfold flush
  split
  · exact h
  · refine h.append [.literal d.word.reverse] ?_ (by simp [Element.slot?])
      (by simp [Element.regex?]) rfl rfl
    rw [leaves, leaves, elementsLeaves_reverse_cons, List.append_assoc, Element.leaves]

theorem numbered_pushSpace {d : Draft} (h : d.Numbered) : d.pushSpace.Numbered := by
  simp only [pushSpace]
  split
  · exact numbered_flush h
  · refine (numbered_flush h).append [.space] ?_ (by simp [Element.slot?])
      (by simp [Element.regex?]) rfl rfl
    rw [leaves, leaves, elementsLeaves_reverse_cons, List.append_assoc, Element.leaves]

/-- The next slot has the next number. -/
theorem numbered_slot {d : Draft} (h : d.Numbered) (slot : Slot) :
    Numbered { d.push (.slot d.slots.length) with slots := d.slots ++ [slot] } := by
  have hflush := numbered_flush h
  have hleaves : leaves { d.push (.slot d.slots.length) with slots := d.slots ++ [slot] } =
      d.flush.leaves ++ [.slot d.slots.length] := leaves_push d _
  constructor
  · rw [hleaves, List.filterMap_append, hflush.slots, flush_slots, List.length_append,
      List.length_singleton, List.range_succ]
    rfl
  · rw [hleaves, List.filterMap_append, hflush.regexes]
    exact List.append_nil _

/-- The next regular expression has the next number. -/
theorem numbered_regex {d : Draft} (h : d.Numbered) (re : Regex) :
    Numbered { d.push (.regex d.regexes.length) with regexes := d.regexes ++ [re] } := by
  have hflush := numbered_flush h
  have hleaves : leaves { d.push (.regex d.regexes.length) with regexes := d.regexes ++ [re] } =
      d.flush.leaves ++ [.regex d.regexes.length] := leaves_push d _
  constructor
  · rw [hleaves, List.filterMap_append, hflush.slots]
    exact List.append_nil _
  · rw [hleaves, List.filterMap_append, hflush.regexes, flush_regexes, List.length_append,
      List.length_singleton, List.range_succ]
    rfl

/-- The end of an alternative, or of a group, moves parts outwards. -/
theorem numbered_delimiter {types : TypeTable} {source : String} {d d' : Draft} {c : Char}
    {place : Nat} (h : d.Numbered) (hstep : d.step types source (.delimiter c place) = .ok d') :
    d'.Numbered := by
  -- The literal that ends here belongs to the alternative, so it is put down first.
  have hflush := numbered_flush h
  simp only [step] at hstep
  split at hstep
  · cases hstep
  next group outer hgroups =>
  have hread : d.flush.leaves = groupsLeaves outer ++ group.leaves ++
      elementsLeaves d.flush.elements.reverse := by
    rw [leaves, flush_groups, hgroups, groupsLeaves]
  split at hstep
  · cases hstep
    refine hflush.of_leaves_eq ?_ rfl rfl
    rw [hread, leaves, groupsLeaves, OpenGroup.leaves, OpenGroup.leaves,
      alternativesLeaves_reverse_cons, List.reverse_nil, elementsLeaves, List.append_nil]
    simp only [List.append_assoc]
  split at hstep
  · cases hstep
    refine hflush.of_leaves_eq ?_ rfl rfl
    rw [hread, leaves, elementsLeaves_reverse_cons, Element.leaves,
      alternativesLeaves_reverse_cons, OpenGroup.leaves]
    simp only [List.append_assoc]
  · cases hstep

/-- **The numbers of slots and regular expressions stay in order with every token.** -/
theorem numbered_step {types : TypeTable} {source : String} {d d' : Draft} {token : Token}
    (h : d.Numbered) (hstep : d.step types source token = .ok d') : d'.Numbered := by
  cases token with
  | char c =>
    cases hstep
    exact h.of_leaves_eq rfl rfl rfl
  | blank =>
    cases hstep
    exact numbered_pushSpace h
  | opening c =>
    cases hstep
    refine (numbered_flush h).of_leaves_eq ?_ rfl rfl
    rw [leaves, leaves, groupsLeaves, OpenGroup.leaves, List.reverse_nil, List.reverse_nil,
      alternativesLeaves, elementsLeaves, List.append_nil, List.append_nil]
  | mark n =>
    simp only [step] at hstep
    split at hstep
    · next group outer hgroups =>
      cases hstep
      refine h.of_leaves_eq ?_ rfl rfl
      rw [leaves, leaves, hgroups]
      rfl
    · cases hstep
      exact h
  | delimiter c place => exact numbered_delimiter h hstep
  | slot body place =>
    simp only [step] at hstep
    split at hstep
    · cases hstep
    · cases hstep
      exact numbered_slot h _
  | regex body place =>
    simp only [step] at hstep
    split at hstep
    · cases hstep
    · cases hstep
      exact numbered_regex h _
  | bad message place => cases hstep

/-- What every token keeps is kept by a run. -/
theorem run_induction {types : TypeTable} {source : String} {P : Draft → Prop}
    (hstep : ∀ {d d' : Draft} {token : Token},
      P d → d.step types source token = .ok d' → P d')
    {d d' : Draft} {tokens : List Token} (h : P d) (hrun : d.run types source tokens = .ok d') :
    P d' := by
  induction tokens generalizing d with
  | nil =>
    cases hrun
    exact h
  | cons token rest ih =>
    rw [run] at hrun
    cases hnext : d.step types source token with
    | error fault =>
      rw [hnext] at hrun
      cases hrun
    | ok next =>
      rw [hnext] at hrun
      exact ih (hstep h hnext) hrun

end Draft

/-- A compiled pattern is what was read when the source ended, outside of groups. -/
theorem compile_eq_ok_iff {types : TypeTable} {source : String} {p : Pattern} :
    compile types source = .ok p ↔ ∃ d : Draft,
      Draft.empty.run types source (tokens source.toList) = .ok d ∧ d.groups = [] ∧
        d.flush.elements ≠ [] ∧
        p = ⟨source, d.flush.elements.reverse, d.slots, d.regexes⟩ := by
  unfold compile
  cases Draft.empty.run types source (tokens source.toList) with
  | error fault => simp [Except.bind]
  | ok d =>
    simp only [Except.bind, Except.ok.injEq, exists_eq_left']
    cases d.groups with
    | cons group outer => simp
    | nil =>
      cases helements : d.flush.elements.reverse with
      | nil => simp_all
      | cons e rest =>
        have hne : d.flush.elements ≠ [] := by
          rintro hnil
          rw [hnil] at helements
          cases helements
        simp [hne, eq_comm]

theorem numbered_of_compile {types : TypeTable} {source : String} {p : Pattern}
    (h : compile types source = .ok p) :
    p.slotIndices = List.range p.slots.length ∧ p.regexIndices = List.range p.regexes.length := by
  obtain ⟨d, hrun, hgroups, -, rfl⟩ := compile_eq_ok_iff.1 h
  have hnumbered := Draft.numbered_flush
    (Draft.run_induction Draft.numbered_step Draft.numbered_empty hrun)
  have hleaves : d.flush.leaves = elementsLeaves d.flush.elements.reverse := by
    rw [Draft.leaves, Draft.flush_groups, hgroups, groupsLeaves, List.nil_append]
  constructor
  · rw [slotIndices, ← hleaves, hnumbered.slots, Draft.flush_slots]
  · rw [regexIndices, ← hleaves, hnumbered.regexes, Draft.flush_regexes]

/-- **The slots of a pattern are numbered from left to right.** -/
theorem slotIndices_of_compile {types : TypeTable} {source : String} {p : Pattern}
    (h : compile types source = .ok p) : p.slotIndices = List.range p.slots.length :=
  (numbered_of_compile h).1

/-- **The regular expressions of a pattern are numbered from left to right.** -/
theorem regexIndices_of_compile {types : TypeTable} {source : String} {p : Pattern}
    (h : compile types source = .ok p) : p.regexIndices = List.range p.regexes.length :=
  (numbered_of_compile h).2

end Pattern

end TriggerScript

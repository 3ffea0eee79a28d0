import Mathlib
import TriggerScript.Proofs.Pattern.Numbering
import TriggerScript.Proofs.Text.Casing

/-!
# Normal patterns

Compiling joins what can be joined: literals that follow each other are one literal, blanks are one
part however many there are, and letters are lowered. So compiled patterns are in a normal form.

* `Apart` : two parts that are not joined when one follows the other.
* `Element.Normal`, `ElementsNormal` : parts in normal form.
* `Pattern.Normal` : patterns in normal form.
* `Draft.Normal` : what was read so far is in normal form.
* `normal_step` : this is kept by every token.
* `normal_of_compile` : compiled patterns are in normal form.
-/

namespace TriggerScript

/-- Two parts that stay two when one follows the other. -/
def Apart : Element → Element → Prop
  | .literal _, .literal _ => False
  | .space, .space => False
  | _, _ => True

theorem Apart.symm {e e' : Element} (h : Apart e e') : Apart e' e := by
  cases e <;> cases e' <;> trivial

theorem apart_group {alternatives : List Alternative} {optional : Bool} (e : Element) :
    Apart (.group alternatives optional) e := by
  cases e <;> trivial

theorem apart_slot {i : Nat} (e : Element) : Apart (.slot i) e := by
  cases e <;> trivial

theorem apart_regex {i : Nat} (e : Element) : Apart (.regex i) e := by
  cases e <;> trivial

mutual

/-- Literals are not empty and in lower case, groups have alternatives, and neither two literals
nor two blanks follow each other. -/
inductive Element.Normal : Element → Prop where
  | literal {cs : List Char} (hne : cs ≠ []) (hlower : ∀ c ∈ cs, Text.lowerChar c = [c]) :
      Element.Normal (.literal cs)
  | space : Element.Normal .space
  | group {alternatives : List Alternative} {optional : Bool} (hne : alternatives ≠ [])
      (h : ∀ a ∈ alternatives, a.Normal) : Element.Normal (.group alternatives optional)
  | slot {i : Nat} : Element.Normal (.slot i)
  | regex {i : Nat} : Element.Normal (.regex i)

inductive Alternative.Normal : Alternative → Prop where
  | mk {mark : Int32} {elements : List Element} (hapart : elements.IsChain Apart)
      (h : ∀ e ∈ elements, e.Normal) : Alternative.Normal (.mk mark elements)

end

/-- Parts one after the other in normal form. -/
structure ElementsNormal (elements : List Element) : Prop where
  apart : elements.IsChain Apart
  each : ∀ e ∈ elements, e.Normal

namespace ElementsNormal

theorem nil : ElementsNormal [] := ⟨.nil, nofun⟩

theorem cons {e : Element} {elements : List Element} (h : ElementsNormal elements)
    (he : e.Normal) (hapart : ∀ e' ∈ elements.head?, Apart e e') :
    ElementsNormal (e :: elements) :=
  ⟨List.isChain_cons.2 ⟨hapart, h.apart⟩, List.forall_mem_cons.2 ⟨he, h.each⟩⟩

theorem reverse {elements : List Element} (h : ElementsNormal elements) :
    ElementsNormal elements.reverse :=
  ⟨List.isChain_reverse.2 (h.apart.imp fun _ _ hapart => hapart.symm), fun e he =>
    h.each e (List.mem_reverse.1 he)⟩

end ElementsNormal

/-- A pattern with parts in normal form, whose slots and regular expressions are numbered from left
to right. -/
structure Pattern.Normal (p : Pattern) : Prop where
  ne_nil : p.elements ≠ []
  elements : ElementsNormal p.elements
  slots : p.slotIndices = List.range p.slots.length
  regexes : p.regexIndices = List.range p.regexes.length

namespace Pattern

namespace Draft

/-- What was read so far is in normal form. Between two tokens no literal that has ended comes last:
what ends it is put behind it. -/
structure Normal (d : Draft) : Prop where
  elements : ElementsNormal d.elements
  last : ∀ cs, .literal cs ∉ d.elements.head?
  word : ∀ c ∈ d.word, Text.lowerChar c = [c]
  groups : ∀ group ∈ d.groups,
    ElementsNormal group.outer ∧ ∀ a ∈ group.alternatives, a.Normal

theorem normal_empty : Normal empty := ⟨.nil, nofun, nofun, nofun⟩

@[simp] theorem flush_word (d : Draft) : d.flush.word = [] := by
  unfold flush
  split
  · next h => exact List.isEmpty_iff.1 h
  · rfl

/-- The literal at the end is put behind a part that is none. -/
theorem Normal.flush {d : Draft} (h : d.Normal) : ElementsNormal d.flush.elements := by
  unfold Draft.flush
  split
  · exact h.elements
  · next hword =>
    have hne : d.word.reverse ≠ [] := by simpa using hword
    refine h.elements.cons (.literal hne fun c hc => h.word c (List.mem_reverse.1 hc)) ?_
    intro e he
    cases e with
    | literal cs => exact absurd he (h.last cs)
    | _ => trivial

/-- A part that may follow any part. -/
theorem Normal.push {d : Draft} (h : d.Normal) {e : Element} (he : e.Normal)
    (hapart : ∀ e', Apart e e') (hlast : ∀ cs, e ≠ .literal cs) : (d.push e).Normal where
  elements := h.flush.cons he fun e' _ => hapart e'
  last := fun cs hcs => hlast cs (Option.some.inj hcs)
  word := by simp [Draft.push]
  groups := by simpa [Draft.push] using h.groups

theorem normal_pushSpace {d : Draft} (h : d.Normal) : d.pushSpace.Normal := by
  have hgroups : ∀ group ∈ d.flush.groups,
      ElementsNormal group.outer ∧ ∀ a ∈ group.alternatives, a.Normal := by
    simpa using h.groups
  simp only [pushSpace]
  split
  · next before hbefore =>
    refine ⟨h.flush, fun cs hcs => ?_, by simp, hgroups⟩
    rw [hbefore] at hcs
    cases hcs
  · next hspace =>
    refine ⟨h.flush.cons .space fun e he => ?_, by simp, by simp, hgroups⟩
    cases e with
    | space =>
      obtain ⟨before, hbefore⟩ := List.head?_eq_some_iff.1 he
      exact absurd hbefore (hspace before)
    | _ => trivial

/-- A group begins with an alternative that has no parts yet. -/
theorem normal_opening {d : Draft} (h : d.Normal) (close : Char) :
    Normal { d.flush with
      groups := ⟨close, [], 0, d.flush.elements⟩ :: d.flush.groups, elements := [] } where
  elements := .nil
  last := by simp
  word := by simp
  groups := List.forall_mem_cons.2 ⟨⟨h.flush, by simp⟩, by simpa using h.groups⟩

/-- An alternative or a group ends. -/
theorem normal_delimiter {types : TypeTable} {source : String} {d d' : Draft} {c : Char}
    {place : Nat} (h : d.Normal) (hstep : d.step types source (.delimiter c place) = .ok d') :
    d'.Normal := by
  simp only [step] at hstep
  split at hstep
  · cases hstep
  next group outer hgroups =>
  obtain ⟨⟨houter, halternatives⟩, hothers⟩ := List.forall_mem_cons.1 (hgroups ▸ h.groups)
  have hnew : ∀ a ∈ Alternative.mk group.mark d.flush.elements.reverse :: group.alternatives,
      a.Normal :=
    List.forall_mem_cons.2 ⟨.mk h.flush.reverse.apart h.flush.reverse.each, halternatives⟩
  split at hstep
  · cases hstep
    exact ⟨.nil, by simp, by simp, List.forall_mem_cons.2 ⟨⟨houter, hnew⟩, hothers⟩⟩
  split at hstep
  · cases hstep
    refine ⟨houter.cons (.group ?_ ?_) fun e _ => apart_group e, fun cs hcs => ?_, by simp,
      hothers⟩
    · exact List.reverse_ne_nil_iff.2 (List.cons_ne_nil _ _)
    · exact fun a ha => hnew a (List.mem_reverse.1 ha)
    · cases hcs
  · cases hstep

/-- **What was read stays in normal form with every token.** -/
theorem normal_step {types : TypeTable} {source : String} {d d' : Draft} {token : Token}
    (h : d.Normal) (hstep : d.step types source token = .ok d') : d'.Normal := by
  cases token with
  | char c =>
    cases hstep
    refine ⟨h.elements, h.last, fun x hx => ?_, h.groups⟩
    rcases List.mem_append.1 hx with hx | hx
    · exact Text.lowerChar_of_mem_lowerChar (List.mem_reverse.1 hx)
    · exact h.word x hx
  | blank =>
    cases hstep
    exact normal_pushSpace h
  | opening c =>
    cases hstep
    exact normal_opening h _
  | mark n =>
    simp only [step] at hstep
    split at hstep
    · next group outer hgroups =>
      cases hstep
      exact ⟨h.elements, h.last, h.word,
        List.forall_mem_cons.2 (List.forall_mem_cons.1 (hgroups ▸ h.groups))⟩
    · cases hstep
      exact h
  | delimiter c place => exact normal_delimiter h hstep
  | slot body place =>
    simp only [step] at hstep
    split at hstep
    · cases hstep
    · cases hstep
      have hpush := h.push (e := .slot d.slots.length) .slot apart_slot (by simp)
      exact ⟨hpush.elements, hpush.last, hpush.word, hpush.groups⟩
  | regex body place =>
    simp only [step] at hstep
    split at hstep
    · cases hstep
    · cases hstep
      have hpush := h.push (e := .regex d.regexes.length) .regex apart_regex (by simp)
      exact ⟨hpush.elements, hpush.last, hpush.word, hpush.groups⟩
  | bad message place => cases hstep

end Draft

/-- **Compiled patterns are in normal form.** -/
theorem normal_of_compile {types : TypeTable} {source : String} {p : Pattern}
    (h : compile types source = .ok p) : p.Normal := by
  obtain ⟨hslots, hregexes⟩ := numbered_of_compile h
  obtain ⟨d, hrun, -, hne, rfl⟩ := compile_eq_ok_iff.1 h
  have hnormal := Draft.run_induction Draft.normal_step Draft.normal_empty hrun
  exact ⟨List.reverse_ne_nil_iff.2 hne, hnormal.flush.reverse, hslots, hregexes⟩

end Pattern

end TriggerScript

import TriggerScript.Proofs.Pattern.Splits
import TriggerScript.Proofs.Text.Casing

/-!
# Where slots lie in a text

What a slot takes is a part of the text that could be taken out on its own: it is not empty, it has
no blanks at its ends, and its quotes and brackets are closed. Slots lie one behind the other. If
nothing but slots can take quotes and brackets, these are closed at both ends of each slot also
when they are counted from the start of the text.

* `Balanced` : quotes and brackets are closed behind a text.
* `Span.LiesIn` : where a span lies in a text.
* `Bare` : only slots of a pattern can take quotes and brackets.
* `AllFit.balanced`, `AllFit.liesIn` : what is kept along the parts of a pattern.
* `AllFit.pairwise_spans` : slots come one behind the other.
* `spans_of_compile` : the slots of every split of a compiled pattern.
-/

namespace TriggerScript

/-! ### Closed quotes and brackets -/

theorem scan_append (state : Nat × Bool) (xs ys : List Char) :
    scan state (xs ++ ys) = (scan state xs).bind fun state => scan state ys := by
  induction xs generalizing state with
  | nil => rfl
  | cons c xs ih =>
    rw [List.cons_append, scan, scan, Option.bind_assoc]
    exact congrArg _ (funext fun state => ih state)

/-- Quotes and brackets are closed behind a text, and no bracket closes more than is open. -/
def Balanced (text : List Char) : Prop :=
  scan (0, false) text = some (0, false)

theorem balanced_nil : Balanced [] := rfl

theorem Balanced.append {xs ys : List Char} (hx : Balanced xs) (hy : Balanced ys) :
    Balanced (xs ++ ys) := by
  rw [Balanced, scan_append, hx]
  exact hy

/-- The characters that open or close something. -/
def isGuard (c : Char) : Bool :=
  c == '"' || c == '(' || c == '{' || c == ')' || c == '}'

theorem isGuard_eq_true_iff {c : Char} :
    isGuard c = true ↔ c = '"' ∨ c = '(' ∨ c = '{' ∨ c = ')' ∨ c = '}' := by
  simp [isGuard, or_assoc]

/-- Without quotes and brackets there is nothing to close. -/
theorem balanced_of_forall {text : List Char} (h : ∀ c ∈ text, isGuard c = false) :
    Balanced text := by
  induction text with
  | nil => rfl
  | cons c text ih =>
    obtain ⟨hc, htext⟩ := List.forall_mem_cons.1 h
    simp only [isGuard, Bool.or_eq_false_iff] at hc
    obtain ⟨⟨⟨⟨hquote, hopen⟩, hbrace⟩, hclose⟩, hbrace'⟩ := hc
    have hstay : scanChar (0, false) c = some (0, false) := by
      simp [scanChar, hquote, hopen, hbrace, hclose, hbrace']
    rw [Balanced, scan, hstay]
    exact ih htext

theorem isGuard_of_isBlank {c : Char} (h : Text.isBlank c = true) : isGuard c = false := by
  rw [Bool.eq_false_iff, ne_eq, isGuard_eq_true_iff]
  rintro (rfl | rfl | rfl | rfl | rfl) <;> exact absurd h (by decide)

/-- Quotes and brackets have no other letter case. -/
theorem eq_of_sameLetter_of_isGuard {c expected : Char}
    (h : Text.sameLetter c expected = true) (hc : isGuard c = true) : c = expected := by
  have hown : c.toNat < 128 ∧ c.isAlpha = false ∧ Text.lowerChar c = [c] := by
    rcases isGuard_eq_true_iff.1 hc with rfl | rfl | rfl | rfl | rfl <;> decide
  obtain ⟨hbasic, halpha, hlower⟩ := hown
  rw [Text.sameLetter, Bool.or_eq_true, beq_iff_eq, beq_iff_eq, hlower] at h
  refine h.elim id fun h => ?_
  exact Text.eq_of_not_isAlpha_mem_lowerChar (h ▸ List.mem_singleton_self c) hbasic halpha

/-! ### Places -/

/-- In a text that starts at an offset, a span lies between two parts of the text. -/
structure Span.LiesIn (span : Span) (offset : Nat) (before after text : List Char) : Prop where
  text_eq : text = before ++ span.text ++ after
  start : span.start = offset + byteSize before
  stop : span.stop = span.start + byteSize span.text

namespace Span.LiesIn

variable {span : Span} {offset : Nat} {before after text : List Char}

theorem append (h : span.LiesIn offset before after text) (more : List Char) :
    span.LiesIn offset before (after ++ more) (text ++ more) := by
  refine ⟨?_, h.start, h.stop⟩
  rw [h.text_eq, List.append_assoc]

theorem behind (more : List Char)
    (h : span.LiesIn (offset + byteSize more) before after text) :
    span.LiesIn offset (more ++ before) after (more ++ text) := by
  refine ⟨?_, ?_, h.stop⟩
  · rw [h.text_eq, List.append_assoc, List.append_assoc, List.append_assoc]
  · rw [h.start, byteSize_append, Nat.add_assoc]

theorem le_start (h : span.LiesIn offset before after text) : offset ≤ span.start := by
  rw [h.start]
  exact Nat.le_add_right _ _

theorem stop_le (h : span.LiesIn offset before after text) :
    span.stop ≤ offset + byteSize text := by
  rw [h.stop, h.start, h.text_eq, byteSize_append, byteSize_append]
  omega

end Span.LiesIn

namespace Pattern

/-- Only slots can take quotes and brackets: there are no regular expressions, and no literal among
the parts holds one of these characters. -/
def Bare (p : Pattern) (parts : List Element) : Prop :=
  p.regexes = [] ∧ ∀ cs, .literal cs ∈ parts → ∀ c ∈ cs, isGuard c = false

theorem Bare.mono {p : Pattern} {parts parts' : List Element} (h : Bare p parts)
    (hparts : parts' ⊆ parts) : Bare p parts' :=
  ⟨h.1, fun cs hcs => h.2 cs (hparts hcs)⟩

/-- A literal without quotes and brackets takes none. -/
theorem balanced_literal {text cs : List Char}
    (h : List.Forall₂ (fun c expected => Text.sameLetter c expected = true) text cs)
    (hcs : ∀ c ∈ cs, isGuard c = false) : Balanced text := by
  refine balanced_of_forall ?_
  induction h with
  | nil => exact nofun
  | cons hsame _ ih =>
    obtain ⟨hexpected, hmore⟩ := List.forall_mem_cons.1 hcs
    refine List.forall_mem_cons.2 ⟨?_, ih hmore⟩
    by_contra hguard
    rw [Bool.not_eq_false] at hguard
    rw [← eq_of_sameLetter_of_isGuard hsame hguard, hguard] at hexpected
    cases hexpected

mutual

/-- Behind a part of a bare pattern quotes and brackets are closed. -/
theorem Fits.balanced {p : Pattern} {before : Option Char} {element : Element} {way : Way}
    {after : List Char} (h : Fits p before element way after) (hbare : Bare p element.leaves) :
    Balanced way.text := by
  match h with
  | .literal hsame => exact balanced_literal hsame (hbare.2 _ (List.mem_singleton_self _))
  | .space htakes => exact balanced_of_forall fun c hc => isGuard_of_isBlank (htakes.1 c hc)
  | .taken hnumber h => exact h.balanced (hbare.mono (elementsLeaves_sublist hnumber).subset)
  | .skipped => exact balanced_nil
  | .slot hadmissible => exact hadmissible.2.1
  | .regex hre _ _ =>
    rw [hbare.1] at hre
    cases hre

theorem AllFit.balanced {p : Pattern} {before : Option Char} {elements : List Element}
    {ways : List Way} {after : List Char} (h : AllFit p before elements ways after)
    (hbare : Bare p (elementsLeaves elements)) : Balanced (waysText ways) := by
  match h with
  | .nil => exact balanced_nil
  | .cons h hrest =>
    rw [elementsLeaves] at hbare
    exact (h.balanced (hbare.mono (List.subset_append_left _ _))).append
      (hrest.balanced (hbare.mono (List.subset_append_right _ _)))

end

mutual

/-- What a slot takes lies in the text of the part that it belongs to, and behind what precedes it
in a bare pattern quotes and brackets are closed. -/
theorem Fits.liesIn {p : Pattern} {c : Option Char} {element : Element} {way : Way}
    {rest : List Char} {offset : Nat} {entry : Nat × Span} (h : Fits p c element way rest)
    (hentry : entry ∈ way.spans offset) :
    ∃ before after, entry.2.LiesIn offset before after way.text ∧ Admissible entry.2.text ∧
      (Bare p element.leaves → Balanced before) := by
  match h with
  | .literal _ => cases hentry
  | .space _ => cases hentry
  | .skipped => cases hentry
  | .regex _ _ _ => cases hentry
  | .slot hadmissible =>
    obtain rfl := List.mem_singleton.1 hentry
    exact ⟨[], [], ⟨(List.append_nil _).symm, rfl, rfl⟩, hadmissible, fun _ => balanced_nil⟩
  | .taken hnumber h =>
    obtain ⟨before, after, hlies, hadmissible, hbalanced⟩ := h.liesIn hentry
    exact ⟨before, after, hlies, hadmissible, fun hbare =>
      hbalanced (hbare.mono (elementsLeaves_sublist hnumber).subset)⟩

theorem AllFit.liesIn {p : Pattern} {c : Option Char} {elements : List Element}
    {ways : List Way} {rest : List Char} {offset : Nat} {entry : Nat × Span}
    (h : AllFit p c elements ways rest) (hentry : entry ∈ waysSpans offset ways) :
    ∃ before after, entry.2.LiesIn offset before after (waysText ways) ∧
      Admissible entry.2.text ∧ (Bare p (elementsLeaves elements) → Balanced before) := by
  match h with
  | .nil => cases hentry
  | .cons h hrest =>
    rw [waysSpans, List.mem_append] at hentry
    rw [elementsLeaves, waysText]
    rcases hentry with hentry | hentry
    · obtain ⟨before, after, hlies, hadmissible, hbalanced⟩ := h.liesIn hentry
      exact ⟨before, _, hlies.append _, hadmissible, fun hbare =>
        hbalanced (hbare.mono (List.subset_append_left _ _))⟩
    · obtain ⟨before, after, hlies, hadmissible, hbalanced⟩ := hrest.liesIn hentry
      refine ⟨_, after, hlies.behind _, hadmissible, fun hbare => ?_⟩
      exact (h.balanced (hbare.mono (List.subset_append_left _ _))).append
        (hbalanced (hbare.mono (List.subset_append_right _ _)))

end

mutual

/-- Slots on a way lie one behind the other. -/
theorem Fits.pairwise_spans {p : Pattern} {c : Option Char} {element : Element} {way : Way}
    {rest : List Char} (offset : Nat) (h : Fits p c element way rest) :
    (way.spans offset).Pairwise fun a b => a.2.stop ≤ b.2.start := by
  match h with
  | .literal _ => exact .nil
  | .space _ => exact .nil
  | .skipped => exact .nil
  | .regex _ _ _ => exact .nil
  | .slot _ => exact List.pairwise_singleton _ _
  | .taken _ h => exact h.pairwise_spans offset

theorem AllFit.pairwise_spans {p : Pattern} {c : Option Char} {elements : List Element}
    {ways : List Way} {rest : List Char} (offset : Nat) (h : AllFit p c elements ways rest) :
    (waysSpans offset ways).Pairwise fun a b => a.2.stop ≤ b.2.start := by
  match h with
  | .nil => exact .nil
  | .cons h hrest =>
    rw [waysSpans]
    refine List.pairwise_append.2
      ⟨h.pairwise_spans offset, hrest.pairwise_spans _, fun a ha b hb => ?_⟩
    obtain ⟨_, _, hfirst, -⟩ := h.liesIn ha
    obtain ⟨_, _, hsecond, -⟩ := hrest.liesIn hb
    exact hfirst.stop_le.trans hsecond.le_start

end

/-- Entries whose numbers increase are related if the one with the smaller number comes first. -/
theorem rel_of_fst_lt {α : Type} {R : Nat × α → Nat × α → Prop} {entries : List (Nat × α)}
    (hfst : (entries.map Prod.fst).Pairwise (· < ·)) (hR : entries.Pairwise R) {a b : Nat × α}
    (ha : a ∈ entries) (hb : b ∈ entries) (h : a.1 < b.1) : R a b := by
  induction entries with
  | nil => cases ha
  | cons entry entries ih =>
    rw [List.map_cons, List.pairwise_cons] at hfst
    rw [List.pairwise_cons] at hR
    rcases List.mem_cons.1 ha with rfl | ha'
    · rcases List.mem_cons.1 hb with rfl | hb'
      · exact absurd h (Nat.lt_irrefl _)
      · exact hR.1 b hb'
    · rcases List.mem_cons.1 hb with rfl | hb'
      -- The one with the larger number cannot come first.
      · exact absurd h (Nat.lt_asymm (hfst.1 _ (List.mem_map_of_mem ha')))
      · exact ih hfst.2 hR.2 ha' hb'

theorem trimmed_of_admissible {text : List Char} (h : Admissible text) :
    text ≠ [] ∧ Text.Trimmed text := by
  obtain ⟨hfirst, -, c, hc, hblank⟩ := h
  refine ⟨?_, hfirst, fun d hd => ?_⟩
  · rintro rfl
    cases hc
  · obtain rfl := Option.mem_unique hc hd
    exact hblank

/-- **What the slots of a compiled pattern take.** In every split that is offered of a text, what a
slot takes lies within the text, is not empty, has no blanks at its ends, and has its quotes and
brackets closed; the slots take their parts of the text from left to right. If nothing but slots can
take quotes and brackets, then these are closed at both ends of each slot for the text as a
whole, too. -/
theorem spans_of_compile {types : TypeTable} {source : String} {p : Pattern}
    (hp : compile types source = .ok p) (text : List Char) :
    (∀ split ∈ p.splits text,
      (∀ (i : Nat) span, split.spans[i]? = some (some span) → ∃ before after,
        span.LiesIn 0 before after text ∧ span.text ≠ [] ∧ Text.Trimmed span.text ∧
          Balanced span.text ∧
          (Bare p (elementsLeaves p.elements) →
            Balanced before ∧ Balanced (before ++ span.text))) ∧
      ∀ (i j : Nat) span span', i < j → split.spans[i]? = some (some span) →
        split.spans[j]? = some (some span') → span.stop ≤ span'.start) ∧
    ∀ {σ : Type} (sink : Split → σ → Bool × σ) (s : σ),
      p.offer text sink s = tryEach sink (p.splits text) s := by
  refine ⟨fun split hsplit => ?_, fun sink s => offer_eq_tryEach sink s⟩
  rw [splits_eq_map] at hsplit
  obtain ⟨ways, hways, rfl⟩ := List.mem_map.1 hsplit
  obtain ⟨hfit, rfl⟩ := mem_completeWays_iff.1 hways
  have hrecords := records_recordAll hp hfit
  constructor
  · intro i span hspan
    obtain ⟨before, after, hlies, hadmissible, hbalanced⟩ :=
      hfit.liesIn ((hrecords.spans i span).1 hspan)
    obtain ⟨hne, htrimmed⟩ := trimmed_of_admissible hadmissible
    exact ⟨before, after, hlies, hne, htrimmed, hadmissible.2.1, fun hbare =>
      ⟨hbalanced hbare, (hbalanced hbare).append hadmissible.2.1⟩⟩
  · intro i j span span' hlt hspan hspan'
    have hindices := (hfit.indices_sublist 0).1
    rw [← slotIndices, slotIndices_of_compile hp] at hindices
    have hfst : ((waysSpans 0 ways).map Prod.fst).Pairwise (· < ·) :=
      List.pairwise_lt_range.sublist hindices
    exact rel_of_fst_lt hfst (hfit.pairwise_spans 0) ((hrecords.spans i span).1 hspan)
      ((hrecords.spans j span').1 hspan') hlt

/-- Something in braces is sent to someone. -/
theorem spans_of_compile_sendPattern :
    compile textTable "send %text%[2¦ to %text%]" = .ok sendPattern ∧
    Bare sendPattern (elementsLeaves sendPattern.elements) ∧
    ⟨2, [some ⟨5, 13, "(a to b)".toList⟩, some ⟨17, 18, "c".toList⟩], []⟩ ∈
      sendPattern.splits "send (a to b) to c".toList ∧
    ∃ before after, (⟨17, 18, "c".toList⟩ : Span).LiesIn 0 before after
      "send (a to b) to c".toList ∧ Balanced before ∧ Balanced (before ++ "c".toList) := by
  have hp : compile textTable "send %text%[2¦ to %text%]" = .ok sendPattern := by cbv
  have hbare : Bare sendPattern (elementsLeaves sendPattern.elements) :=
    ⟨rfl, fun cs hcs => by
      simp [sendPattern, elementsLeaves, Element.leaves, alternativesLeaves] at hcs
      rcases hcs with rfl | rfl <;> simp [isGuard]⟩
  have hsplit : ⟨2, [some ⟨5, 13, "(a to b)".toList⟩, some ⟨17, 18, "c".toList⟩], []⟩ ∈
      sendPattern.splits "send (a to b) to c".toList := by
    have hsplits : sendPattern.splits "send (a to b) to c".toList =
        [⟨2, [some ⟨5, 13, "(a to b)".toList⟩, some ⟨17, 18, "c".toList⟩], []⟩,
          ⟨0, [some ⟨5, 18, "(a to b) to c".toList⟩, none], []⟩] := by cbv
    rw [hsplits]
    exact List.mem_cons_self
  obtain ⟨before, after, hlies, -, -, -, hbalanced⟩ :=
    ((spans_of_compile hp _).1 _ hsplit).1 1 _ rfl
  exact ⟨hp, hbare, hsplit, before, after, hlies, hbalanced hbare⟩

end Pattern

end TriggerScript

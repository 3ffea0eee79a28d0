import TriggerScript.Proofs.Parsing.Performs
import Mathlib.Data.Prod.Lex
import Mathlib.Order.Bounds.Basic

/-!
# The element that takes a text

Each candidate is told by what it does alone: which splits its pattern has, what the slots of a
split are read as, and whether the element accepts. The first place of a candidate that takes the
text is least in an order; here places are made of the number of an element and the number of a
pattern.

* `Desk.withPast` : a desk on which other things have been logged.
* `Desk.slots?` : what the slots of a split are read as, each by itself.
* `Desk.firstReadable?` : the first split all of whose slots can be read.
* `Desk.Takes` : an element accepts the first readable split of one of its patterns.
* `Selects` : the result of the first place that has one.
* `selects_matchElement` : an element takes a text by its first pattern that does.
-/

namespace TriggerScript.Parsing

/-! ### What candidates do alone -/

namespace Desk

variable {α : Type}

/-- The desk as it would be had other things been logged before. -/
def withPast (d : Desk) (log : Log) : Desk :=
  d.withLog (log.setLocation d.state.log.location)

@[simp] theorem spot_withPast (d : Desk) (log : Log) : (d.withPast log).spot = d.spot := rfl

/-- What a slot is read as that took this text, or none. -/
def slot? (d : Desk) (slot : Slot) : Option Span → Option (Option Expression)
  | some span => (Procedure.parseExpression (String.ofList span.text) slot d).1.map some
  | none => some (defaultExpression? d.scope slot)

/-- What slots are read as, each by itself, if all of them can be read. -/
def slots? (d : Desk) : List Slot → List (Option Span) → Option (List (Option Expression))
  | [], _ => some []
  | slot :: slots, spans =>
    (d.slot? slot spans.head?.join).bind fun e => (d.slots? slots spans.tail).map fun es => e :: es

/-- The first split of a text all of whose slots can be read, and what they are read as. -/
def firstReadable? (d : Desk) (p : Pattern) (text : String) :
    Option (Split × List (Option Expression)) :=
  (p.splits text.toList).findSome? fun split =>
    (d.slots? p.slots split.spans).map fun parts => (split, parts)

/-- An element accepts the first readable split of its pattern with this number. -/
def Takes (d : Desk) (setup : Scope → Capture → Setup α) (index : Nat) (p : Pattern)
    (text : String) (a : α) : Prop :=
  ∃ split parts, d.firstReadable? p text = some (split, parts) ∧
    (Procedure.runSetup Procedure.parseExpression
      (setup d.scope (capture index split parts)) d).1 = some a

end Desk

/-! ### Results of attempts -/

section Results

variable {α β : Type}

theorem result_bind (a : Attempt α) (f : α → Attempt β) :
    (a.bind f).result = a.result.bind fun x => (f x).result := by
  unfold Attempt.bind
  split <;> simp_all

theorem result_orElse (a : Attempt α) (b : Unit → Attempt α) :
    (a.orElse b).result = a.result.or (b ()).result := by
  unfold Attempt.orElse
  split <;> simp_all

theorem result_firstOf (f : α → Attempt β) (xs : List α) :
    (Attempt.firstOf f xs).result = xs.findSome? fun a => (f a).result := by
  induction xs with
  | nil => rfl
  | cons a rest ih =>
    rw [Attempt.firstOf, result_orElse, ih, List.findSome?_cons]
    cases (f a).result <;> rfl

theorem result_runSetup_map (read : Reader) (location : Option Location) (setup : Setup α)
    (f : α → β) : (runSetup read location (setup.map f)).result =
      (runSetup read location setup).result.map f := by
  induction setup with
  | done result => cases result <;> rfl
  | error message quality next ih => exact ih
  | warning message next ih => exact ih
  | parse text slot next ih => exact ih _

/-- All expressions of a group are tried, and the first result is kept. -/
theorem result_tryGroup (read : Reader) (scope : Scope) (text : String) (slot : Slot)
    (entries : List (ExpressionEntry Pattern)) :
    (tryGroup read scope text slot entries).result =
      entries.findSome? fun entry => (tryEntry read scope text slot entry).result := by
  have hfold (sofar : Attempt Expression) : (entries.foldl (fun sofar entry =>
      let next := tryEntry read scope text slot entry
      ⟨sofar.result.or next.result, sofar.entries ++ next.entries⟩) sofar).result =
        sofar.result.or
          (entries.findSome? fun entry => (tryEntry read scope text slot entry).result) := by
    induction entries generalizing sofar with
    | nil => simp
    | cons entry rest ih =>
      rw [List.foldl_cons, ih, List.findSome?_cons]
      dsimp only
      rw [Option.or_assoc]
      cases (tryEntry read scope text slot entry).result <;> rfl
  exact (hfold .no).trans Option.none_or

theorem result_parseLiteral (scope : Scope) (text : String) (slot : Slot) :
    (parseLiteral scope text slot).result =
      (slot.types.findSome? fun type => scope.system.types.readLiteral? type text).map fun value =>
        .literal [value] value.typeName true := by
  unfold parseLiteral
  split
  · next h => rw [h]; rfl
  · next h => rw [h]; rfl

variable {p : Spot} {d : Desk}

theorem fst_of_performs (hd : d.spot = p) {m : Procedure α} {a : Attempt α} (hm : Performs p m a) :
    (m d).1 = a.result := by
  rw [hm d hd]
  rfl

theorem result_parseSlots (hd : d.spot = p) (slots : List Slot) (spans : List (Option Span)) :
    (parseSlots p.read p.scope slots spans).result = d.slots? slots spans := by
  induction slots generalizing spans with
  | nil => rfl
  | cons slot slots ih =>
    rw [parseSlots, Desk.slots?]
    cases spans.head?.join with
    | some span =>
      rw [result_bind, Desk.slot?, fst_of_performs hd (performs_parseExpression _ _),
        Option.bind_map]
      simp only [Attempt.result_map, ih]
      rfl
    | none =>
      rw [Attempt.result_map, ih, Desk.slot?, show d.scope = p.scope from congrArg Spot.scope hd]
      rfl

/-- Splits are tried until all slots of one can be read. -/
theorem result_tryEach (slots : List Slot) (made : Split → List (Option Expression) → Capture)
    (read : Reader) (scope : Scope) (splits : List Split) (entries : List Entry) :
    (tryEach (fun split (sofar : Attempt Capture) =>
      let parts := parseSlots read scope slots split.spans
      (parts.result.isSome, (parts.map (made split)).after sofar.entries)) splits
        ⟨none, entries⟩).2.result =
      splits.findSome? fun split =>
        (parseSlots read scope slots split.spans).result.map (made split) := by
  induction splits generalizing entries with
  | nil => rfl
  | cons split rest ih =>
    rw [tryEach, List.findSome?_cons]
    cases hresult : (parseSlots read scope slots split.spans).result with
    | some parts => simp [hresult]
    | none =>
      rw [← ih (entries ++ (parseSlots read scope slots split.spans).entries)]
      simp [Attempt.after, Attempt.map, hresult]

theorem result_matchPattern (hd : d.spot = p) (index : Nat) (pattern : Pattern) (text : String) :
    (matchPattern p.read p.scope index pattern text).result =
      (d.firstReadable? pattern text).map fun r => capture index r.1 r.2 := by
  rw [matchPattern, Pattern.offer_eq_tryEach]
  refine (result_tryEach _ _ _ _ _ []).trans ?_
  rw [Desk.firstReadable?, List.map_findSome?]
  simp only [result_parseSlots hd, Option.map_map, Function.comp_def]

/-- What an element makes of a text by one of its patterns. -/
def Spot.matchAt (p : Spot) (setup : Scope → Capture → Setup α) (index : Nat) (pattern : Pattern)
    (text : String) : Attempt α :=
  (matchPattern p.read p.scope index pattern text).bind fun c =>
    runSetup p.read p.scope.location (setup p.scope c)

/-- An element that takes a text alone takes it among others. -/
theorem takes_iff (hd : d.spot = p) {setup : Scope → Capture → Setup α} {index : Nat}
    {pattern : Pattern} {text : String} {a : α} :
    d.Takes setup index pattern text a ↔ (p.matchAt setup index pattern text).result = some a := by
  have hscope : d.scope = p.scope := congrArg Spot.scope hd
  have hrun (c : Capture) : (Procedure.runSetup Procedure.parseExpression (setup p.scope c) d).1 =
      (runSetup p.read p.scope.location (setup p.scope c)).result :=
    fst_of_performs hd (.runSetup performs_parseExpression _)
  rw [Spot.matchAt, result_bind, result_matchPattern hd, Desk.Takes, hscope]
  cases d.firstReadable? pattern text with
  | none => simp
  | some r =>
    constructor
    · rintro ⟨split, parts, hsplit, htake⟩
      cases hsplit
      rw [hrun] at htake
      exact htake
    · intro htake
      exact ⟨r.1, r.2, rfl, (hrun _).trans htake⟩

/-- What can be seen from a spot tells what a pattern reads. -/
theorem takes_congr {d' : Desk} (h : d.spot = d'.spot) {setup : Scope → Capture → Setup α}
    {index : Nat} {pattern : Pattern} {text : String} {a : α} :
    d.Takes setup index pattern text a ↔ d'.Takes setup index pattern text a :=
  (takes_iff h).trans (takes_iff rfl).symm

end Results

/-! ### First places -/

section Places

variable {α β : Type}

/-- The result of the first place that has one, if any has: places are numbered by two numbers, such
as those of an element and of one of its patterns, and come in lexicographic order. -/
def Selects (has : Nat → Nat → β → Prop) : Option β → Prop
  | some b => ∃ i j, has i j b ∧ ∀ i' j' b', has i' j' b' → toLex (i, j) ≤ toLex (i', j')
  | none => ∀ i j b, ¬has i j b

theorem first_of_findSome? {f : α → Option β} {xs : List α} {b : β} (h : xs.findSome? f = some b) :
    ∃ (i : Nat) (a : α), xs[i]? = some a ∧ f a = some b ∧
      ∀ (i' : Nat) (a' : α), i' < i → xs[i']? = some a' → f a' = none := by
  obtain ⟨before, a, behind, rfl, ha, hbefore⟩ := List.findSome?_eq_some_iff.1 h
  refine ⟨before.length, a, by simp, ha, fun i' a' hlt ha' => hbefore a' ?_⟩
  rw [List.getElem?_append_left hlt] at ha'
  exact List.mem_of_getElem? ha'

theorem findSome?_filter (keep : α → Bool) (f : α → Option β) (xs : List α) :
    (xs.filter keep).findSome? f = xs.findSome? fun a => if keep a then f a else none := by
  induction xs with
  | nil => rfl
  | cons x xs ih =>
    rw [List.filter_cons, List.findSome?_cons]
    cases keep x with
    | false => exact ih
    | true =>
      rw [if_pos rfl, List.findSome?_cons, ih]
      rfl

variable {γ : Type}

/-- Numbered candidates, the first of which is taken. -/
theorem findSome?_zipIdx_eq_some_iff (f : Nat → γ → Option β) (xs : List γ) {b : β} :
    (xs.zipIdx.findSome? fun c => f c.2 c.1) = some b ↔
      ∃ j c, xs[j]? = some c ∧ f j c = some b ∧
        ∀ j' c' b', xs[j']? = some c' → f j' c' = some b' → j ≤ j' := by
  have hfirst {b : β} (h : (xs.zipIdx.findSome? fun c => f c.2 c.1) = some b) :
      ∃ j c, xs[j]? = some c ∧ f j c = some b ∧
        ∀ j' c' b', xs[j']? = some c' → f j' c' = some b' → j ≤ j' := by
    obtain ⟨j, ⟨c, k⟩, hc, hb, hearlier⟩ := first_of_findSome? h
    obtain ⟨hcandidate, rfl⟩ : xs[j]? = some c ∧ j = k := by
      simpa [List.getElem?_zipIdx] using hc
    refine ⟨j, c, hcandidate, hb, fun j' c' b' hc' hb' => not_lt.1 fun hlt => ?_⟩
    have := hearlier j' (c', j') hlt (by simp [List.getElem?_zipIdx, hc'])
    simp [hb'] at this
  refine ⟨hfirst, ?_⟩
  rintro ⟨j, c, hc, hb, hleast⟩
  cases hresult : xs.zipIdx.findSome? fun c => f c.2 c.1 with
  | none =>
    have := List.findSome?_eq_none_iff.1 hresult (c, j) (List.mk_mem_zipIdx_iff_getElem?.2 hc)
    simp [hb] at this
  | some b' =>
    obtain ⟨j', c', hc', hb', hleast'⟩ := hfirst hresult
    obtain rfl := le_antisymm (hleast j' c' b' hc' hb') (hleast' j c b hc hb)
    cases hc.symm.trans hc'
    exact hb'.symm.trans hb

variable (xs : List α) (parts : α → List γ) (f : α → Nat → γ → Option β)

/-- Going through the elements, and for each through its patterns, selects the first place. -/
theorem selects_findSome? :
    Selects (fun i j b => ∃ a c, xs[i]? = some a ∧ (parts a)[j]? = some c ∧ f a j c = some b)
      (xs.findSome? fun a => (parts a).zipIdx.findSome? fun c => f a c.2 c.1) := by
  have hnone {a : α} {j : Nat} {c : γ} {b : β} (hc : (parts a)[j]? = some c)
      (hb : f a j c = some b) : ((parts a).zipIdx.findSome? fun c => f a c.2 c.1) ≠ none := by
    intro hall
    have := List.findSome?_eq_none_iff.1 hall (c, j) (List.mk_mem_zipIdx_iff_getElem?.2 hc)
    simp [hb] at this
  cases hresult : xs.findSome? fun a => (parts a).zipIdx.findSome? fun c => f a c.2 c.1 with
  | none =>
    rintro i j b ⟨a, c, ha, hc, hb⟩
    exact hnone hc hb (List.findSome?_eq_none_iff.1 hresult a (List.mem_of_getElem? ha))
  | some b =>
    obtain ⟨i, a, ha, hparts, hbefore⟩ := first_of_findSome? hresult
    obtain ⟨j, c, hc, hb, hleast⟩ := (findSome?_zipIdx_eq_some_iff (f a) (parts a)).1 hparts
    refine ⟨i, j, ⟨a, c, ha, hc, hb⟩, ?_⟩
    rintro i' j' b' ⟨a', c', ha', hc', hb'⟩
    rw [Prod.Lex.toLex_le_toLex]
    rcases lt_trichotomy i i' with hlt | rfl | hgt
    · exact .inl hlt
    · obtain rfl : a = a' := Option.some.inj (ha.symm.trans ha')
      exact .inr ⟨rfl, hleast j' c' b' hc' hb'⟩
    · exact absurd (hbefore i' a' hgt ha') (hnone hc' hb')

/-- Two ways to say what a place has. -/
theorem Selects.congr {has has' : Nat → Nat → β → Prop} {result : Option β}
    (h : Selects has result) (heq : ∀ i j b, has i j b ↔ has' i j b) : Selects has' result := by
  cases result with
  | none => exact fun i j b hb => h i j b ((heq i j b).2 hb)
  | some b =>
    obtain ⟨i, j, hb, hleast⟩ := h
    exact ⟨i, j, (heq i j b).1 hb, fun i' j' b' hb' => hleast i' j' b' ((heq i' j' b').2 hb')⟩

theorem Selects.bind {has : Nat → Nat → α → Prop} {result : Option α} (h : Selects has result)
    {g : α → Option β} (hg : ∀ i j a, has i j a → (g a).isSome) :
    Selects (fun i j b => ∃ a, has i j a ∧ g a = some b) (result.bind g) := by
  cases result with
  | none =>
    rintro i j b ⟨a, ha, -⟩
    exact h i j a ha
  | some a =>
    obtain ⟨i, j, ha, hleast⟩ := h
    obtain ⟨b, hb⟩ := Option.isSome_iff_exists.1 (hg i j a ha)
    rw [Option.bind_some, hb]
    exact ⟨i, j, ⟨a, ha, hb⟩, fun i' j' b' ⟨a', ha', _⟩ => hleast i' j' a' ha'⟩

/-- If the first place of all is one of some sort, it is the first of this sort. -/
theorem Selects.restrict {has : Nat → Nat → β → Prop} {g : α → β} {a : α} {result : Option α}
    (h : Selects has (some (g a))) (hresult : Selects (fun i j a => has i j (g a)) result)
    (hunique : ∀ i j b b', has i j b → has i j b' → b = b') (hg : Function.Injective g) :
    result = some a := by
  obtain ⟨i, j, ha, hleast⟩ := h
  cases result with
  | none => exact absurd ha (hresult i j a)
  | some a' =>
    obtain ⟨i', j', ha', hleast'⟩ := hresult
    have hplace := le_antisymm (hleast i' j' (g a') ha') (hleast' i j a ha)
    obtain ⟨rfl, rfl⟩ := Prod.mk.inj (toLex.injective hplace)
    rw [hg (hunique i j _ _ ha' ha)]

end Places

/-! ### The first element -/

section Elements

variable {ι α β : Type} (text : String)

theorem result_matchElement (p : Spot) (setup : Scope → Capture → Setup α)
    (patterns : List Pattern) :
    (matchElement p.read p.scope setup patterns text).result =
      patterns.zipIdx.findSome? fun c => (p.matchAt setup c.2 c.1 text).result := by
  rw [matchElement, result_firstOf, numbered, List.findSome?_map]
  rfl

variable (desk : ι → Desk) (setup : ι → Scope → Capture → Setup α) (patterns : ι → List Pattern)
  (made : ι → α → β)

/-- Trying elements in order selects the first one that takes the text, by its first pattern that
does. Each element is told by what it does on a desk of its own. -/
theorem selects_elements (elements : List ι) :
    Selects (fun i j b => ∃ e p a, elements[i]? = some e ∧ (patterns e)[j]? = some p ∧
        (desk e).Takes (setup e) j p text a ∧ made e a = b)
      (elements.findSome? fun e =>
        (matchElement (desk e).spot.read (desk e).spot.scope (setup e) (patterns e) text).result.map
          (made e)) := by
  have hselects := selects_findSome? elements patterns fun e j p =>
    ((desk e).spot.matchAt (setup e) j p text).result.map (made e)
  simp only [result_matchElement, List.map_findSome?]
  refine hselects.congr fun i j b => ?_
  simp only [takes_iff rfl, Option.map_eq_some_iff, exists_and_left]

/-- What is set up as a condition is one, and what is set up as an effect is none. -/
theorem isSome_condition?_of_matchAt {p : Spot} {setup : StatementSetup} {index : Nat}
    {pattern : Pattern} {s : Statement}
    (h : (p.matchAt setup.run index pattern text).result = some s) :
    s.condition?.isSome = setup.isCondition := by
  rw [Spot.matchAt, result_bind] at h
  obtain ⟨c, -, hrun⟩ := Option.bind_eq_some_iff.1 h
  cases setup with
  | condition setup =>
    rw [StatementSetup.run, result_runSetup_map] at hrun
    obtain ⟨condition, -, rfl⟩ := Option.map_eq_some_iff.1 hrun
    rfl
  | effect setup =>
    rw [StatementSetup.run, result_runSetup_map] at hrun
    obtain ⟨effect, -, rfl⟩ := Option.map_eq_some_iff.1 hrun
    rfl

end Elements

end TriggerScript.Parsing

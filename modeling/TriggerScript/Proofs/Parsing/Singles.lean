import TriggerScript.Proofs.Parsing.Checks
import TriggerScript.Proofs.Syntax.Rolls

/-!
# Single values

Where a single value is asked for, whatever is read comes to one value at most. Built-in expressions
can always be evaluated, and so can the expressions that are read inside them: in the name of a
variable, in a text and at the ends of a range.

* `Expression.Concise` : an expression that can be evaluated, and yields one value at most if it
  counts as single.
* `concise_list` and so on : the forms of expressions that are concise.
* `concise_parseWithin` : whatever is read is concise.
* `isSingle_of_parseWithin` : what is read for a slot for a single value counts as single.
* `one_value_at_most` : what is read for a slot for a single value yields one value at most.
-/

namespace TriggerScript

/-! ### Concise expressions -/

namespace Eval

theorem always_roll (n : Nat) : (roll n).Always fun _ => True :=
  fun _ => ⟨_, _, rfl, trivial⟩

theorem always_pickValue (vs : List Value) :
    (pickValue vs).Always fun picked => picked.length ≤ 1 := by
  unfold pickValue
  split
  · exact always_pure.2 (Nat.zero_le 1)
  · exact .bind ((always_roll _).mono fun i _ => always_pure.2 Option.length_toList_le)

end Eval

namespace Expression

open Eval

/-- The expression can be evaluated whatever the dice show, and if it counts as single, effects see
one value at most. -/
def Concise (sight : Sight) (e : Expression) : Prop :=
  (e.array sight).Always fun vs => e.isSingle = true → vs.length ≤ 1

variable {sight : Sight}

theorem concise_loopValue (name : String) (loop : ItemId) (type : String) :
    (loopValue name loop type).Concise sight :=
  always_pure.2 fun _ => Option.length_toList_le

theorem concise_eventValue (type : String) : (eventValue type).Concise sight :=
  always_pure.2 fun _ => Option.length_toList_le

theorem concise_literal (vs : List Value) (type : String) (together : Bool) :
    (literal vs type together).Concise sight := by
  rw [Concise, array, values]
  cases together with
  | false => exact (always_pickValue vs).mono fun _ h _ => h
  | true =>
    refine always_pure.2 fun hsingle => ?_
    have hone : vs.length = 1 := by simpa [isSingle] using hsingle
    exact hone.le

theorem concise_range {low high : Expression} (hlow : low.Concise sight)
    (hhigh : high.Concise sight) : (range low high).Concise sight := by
  rw [Concise, array, values]
  exact .bind (hlow.mono fun _ _ => .bind (hhigh.mono fun _ _ => always_pure.2 nofun))

theorem concise_converted {inner : Expression} (h : inner.Concise sight) (target : String) :
    (converted inner target).Concise sight := by
  rw [Concise, array, values]
  refine .bind (h.mono fun vs hvs => always_pure.2 fun hsingle => ?_)
  exact (List.length_filterMap_le _ vs).trans (hvs hsingle)

/-- A text can be put together if the expressions in it can be evaluated. -/
theorem always_textOf {parts : List Part} (h : ∀ e, .expression e ∈ parts → e.Concise sight) :
    (textOf sight parts).Always fun _ => True := by
  induction parts with
  | nil => exact always_pure.2 trivial
  | cons part rest ih =>
    rw [textOf]
    have hpart : (textOfPart sight part).Always fun _ => True := by
      cases part with
      | text s => exact always_pure.2 trivial
      | expression e =>
        exact .bind ((h e List.mem_cons_self).mono fun _ _ => always_pure.2 trivial)
    have hrest := ih fun e he => h e (List.mem_cons_of_mem _ he)
    exact .bind (hpart.mono fun _ _ => .bind (hrest.mono fun _ _ => always_pure.2 trivial))

theorem concise_variable {name : List Part}
    (h : ∀ e, .expression e ∈ name → e.Concise sight) :
    (Expression.variable name).Concise sight := by
  rw [Concise, array, values]
  exact .bind ((always_textOf h).mono fun _ _ => always_pure.2 fun _ => Option.length_toList_le)

theorem concise_quoted {parts : List Part} (h : ∀ e, .expression e ∈ parts → e.Concise sight) :
    (quoted parts).Concise sight := by
  rw [Concise, array, values]
  exact .bind ((always_textOf h).mono fun _ _ => always_pure.2 fun _ => le_rfl)

/-- Single expressions yield no more values than there are expressions. -/
theorem always_valuesOf {items : List Expression} (h : ∀ e ∈ items, e.Concise sight) :
    (valuesOf sight true items).Always fun vs =>
      allSingle items = true → vs.length ≤ items.length := by
  induction items with
  | nil => exact always_pure.2 fun _ => le_rfl
  | cons e rest ih =>
    rw [valuesOf]
    obtain ⟨he, hrest⟩ := List.forall_mem_cons.1 h
    refine .bind (he.mono fun vs hvs => .bind ((ih hrest).mono fun more hmore => ?_))
    refine always_pure.2 fun hsingle => ?_
    rw [allSingle, Bool.and_eq_true] at hsingle
    have hfirst := hvs hsingle.1
    have hbehind := hmore hsingle.2
    rw [List.length_append, List.length_cons]
    omega

/-- One of some single expressions yields one value at most. -/
theorem always_valuesAt {items : List Expression} (h : ∀ e ∈ items, e.Concise sight) (i : Nat) :
    (valuesAt sight i items).Always fun vs => allSingle items = true → vs.length ≤ 1 := by
  induction items generalizing i with
  | nil => exact always_pure.2 fun _ => Nat.zero_le 1
  | cons e rest ih =>
    rw [valuesAt]
    obtain ⟨he, hrest⟩ := List.forall_mem_cons.1 h
    simp only [allSingle, Bool.and_eq_true]
    split
    · exact he.mono fun _ hvs hsingle => hvs hsingle.1
    · exact (ih hrest (i - 1)).mono fun _ hvs hsingle => hvs hsingle.2

theorem concise_list {items : List Expression} (h : ∀ e ∈ items, e.Concise sight)
    (together : Bool) (type : String) : (list items together type).Concise sight := by
  rw [Concise, array, values, isSingle]
  cases together with
  | true =>
    refine (always_valuesOf h).mono fun vs hvs hsingle => ?_
    simp only [if_true, Bool.and_eq_true, beq_iff_eq] at hsingle
    exact (hvs hsingle.2).trans hsingle.1.le
  | false =>
    simp only [Bool.false_eq_true, if_false]
    split
    · exact .bind ((always_roll _).mono fun i _ => always_valuesAt h i)
    · next hempty =>
      obtain rfl : items = [] := by simpa using hempty
      exact always_pure.2 fun _ => Nat.zero_le 1

end Expression

/-! ### Built-in expressions -/

namespace Parsing

open Expression

variable {registry : Registry} {scope : Scope} {read : Reader} {text : String} {slot : Slot}
  {e e' : Expression} {location : Option Location} {parts : List Part}

/-- The expressions in a text have been read by themselves. -/
theorem exists_of_mem_readPieces {whole : String} {pieces : List Piece}
    (h : (runSetup read location (readPieces whole pieces)).result = some parts)
    (he : .expression e ∈ parts) : ∃ text slot, (read text slot).result = some e := by
  induction pieces generalizing parts with
  | nil =>
    cases h
    cases he
  | cons piece rest ih =>
    cases piece with
    | text cs =>
      rw [readPieces, result_runSetup_map] at h
      obtain ⟨more, hmore, rfl⟩ := Option.map_eq_some_iff.1 h
      exact ih hmore ((List.mem_cons.1 he).resolve_left nofun)
    | segment cs =>
      rw [readPieces, runSetup] at h
      cases hfirst : (read (String.ofList cs) (.many [objectType])).result with
      | none =>
        simp only [hfirst] at h
        cases h
      | some first =>
        simp only [hfirst] at h
        obtain ⟨more, hmore, rfl⟩ := Option.map_eq_some_iff.1
          ((result_runSetup_map read location (readPieces whole rest) _).symm.trans h)
        rcases List.mem_cons.1 he with heq | he
        · cases heq
          exact ⟨_, _, hfirst⟩
        · exact ih hmore he
    | unclosed => cases h

theorem exists_of_mem_readTemplate {quoted : Bool} {content : String}
    (h : (runSetup read location (readTemplate quoted content)).result = some parts)
    (he : .expression e ∈ parts) : ∃ text slot, (read text slot).result = some e := by
  rw [readTemplate, result_runSetup_map] at h
  obtain ⟨pieces, hpieces, rfl⟩ := Option.map_eq_some_iff.1 h
  split at he
  · cases List.mem_singleton.1 he
  · exact exists_of_mem_readPieces hpieces he

theorem exists_of_mem_namedVariable {c : Capture}
    (h : (runSetup read location (Vocabulary.namedVariable scope c)).result =
      some (.variable parts)) (he : .expression e ∈ parts) :
    ∃ text slot, (read text slot).result = some e := by
  unfold Vocabulary.namedVariable at h
  split at h
  · rw [result_runSetup_map] at h
    obtain ⟨name, hname, heq⟩ := Option.map_eq_some_iff.1 h
    cases heq
    unfold variableName at hname
    split at hname
    · cases hname
    · exact exists_of_mem_readTemplate hname he
    · cases hname
  · cases h

theorem part?_of_range {c : Capture} {low high : Expression}
    (h : (runSetup read location (Vocabulary.range scope c)).result = some (.range low high)) :
    c.part? 0 = some low ∧ c.part? 1 = some high := by
  unfold Vocabulary.range at h
  split at h
  · next hlow hhigh =>
    cases h
    exact ⟨hlow, hhigh⟩
  · cases h

section Read

variable {sight : Sight}
  (hbuiltIn : ∀ p, ∀ entry ∈ registry.inGroup p, Vocabulary.BuiltIn entry.setup)

theorem concise_convertExpression? {system : TypeSystem} {required : List String}
    (he : e.Concise sight) (h : convertExpression? system required e = some e') :
    e'.Concise sight := by
  unfold convertExpression? at h
  split at h
  · cases h
  · cases h
    exact he
  · next target _ =>
    split at h
    · obtain ⟨values, -, rfl⟩ := Option.map_eq_some_iff.1 h
      exact concise_literal values target _
    · cases h
      exact concise_converted he target

theorem concise_of_captured {c : Capture} {i : Nat}
    (hread : ∀ text slot e, (read text slot).result = some e → e.Concise sight)
    (hcaptured : CapturedBy read c) (he : c.part? i = some e) : e.Concise sight := by
  rcases hcaptured i e he with ⟨text, slot, hinside⟩ | ⟨type, rfl⟩
  · exact hread text slot e hinside
  · exact concise_eventValue type

include hbuiltIn

/-- **What a single value is read as is concise** if everything is that is read inside it. -/
theorem concise_of_own (hread : read.Satisfies fun _ _ e => e.Concise sight)
    (h : Own registry read scope text slot e) : e.Concise sight := by
  have hinside (e : Expression) : (∃ text slot, (read text slot).result = some e) →
      e.Concise sight := fun ⟨text, slot, h⟩ => hread text slot e h
  cases h with
  | quoted _ hparts =>
    exact concise_quoted fun e he => hinside e (exists_of_mem_readTemplate hparts he)
  | number _ _ => exact concise_literal _ _ _
  | registered _ hentry haccepts hmatched =>
    obtain ⟨_, _, _, hmatch⟩ := hmatched
    have hcaptured := captured_of_matchPattern hmatch
    -- The ends of a range come from slots; the name of a variable is cut and read by its setup.
    rcases Vocabulary.builtIn_iff.1 (hbuiltIn _ _ hentry) with hsetup | hsetup | hsetup | hsetup <;>
      rw [hsetup] at haccepts
    · obtain ⟨name, rfl⟩ := Vocabulary.exists_of_namedVariable haccepts
      exact concise_variable fun e he => hinside e (exists_of_mem_namedVariable haccepts he)
    · obtain ⟨name, wanted, index, l, -, rfl⟩ := Vocabulary.exists_of_loopValue haccepts
      exact concise_loopValue _ _ _
    · obtain ⟨type, rfl⟩ := Vocabulary.exists_of_eventValue haccepts
      exact concise_eventValue type
    · obtain ⟨low, high, rfl⟩ := Vocabulary.exists_of_range haccepts
      obtain ⟨hlow, hhigh⟩ := part?_of_range haccepts
      exact concise_range (concise_of_captured hread hcaptured hlow)
        (concise_of_captured hread hcaptured hhigh)

theorem spreads_concise : Spreads registry scope fun _ _ e => e.Concise sight where
  single hread h := by
    rcases exists_own_of_parseSingle h with h | ⟨own, hown, hconvert⟩
    · rw [result_parseLiteral] at h
      obtain ⟨value, -, rfl⟩ := Option.map_eq_some_iff.1 h
      exact concise_literal _ _ _
    · exact concise_convertExpression? (concise_of_own hbuiltIn hread hown) hconvert
  list together _ h := concise_list h together _
  widen _ h := h

/-- **Whatever is read is concise.** -/
theorem concise_parseWithin {depth : Nat}
    (h : (parseWithin registry scope depth text slot).result = some e) : e.Concise sight :=
  (spreads_concise hbuiltIn).parseWithin depth _ _ _ h

end Read

/-- What is read for a slot for a single value counts as single. -/
theorem isSingle_of_parseWithin {depth : Nat} (hslot : slot.single = true)
    (h : (parseWithin registry scope depth text slot).result = some e) : e.isSingle = true := by
  cases depth with
  | zero =>
    simp only [parseWithin] at h
    split at h <;> cases h
  | succ depth =>
    simp only [parseWithin] at h
    split at h
    · cases h
    · rw [result_bind] at h
      obtain ⟨e', -, h⟩ := Option.bind_eq_some_iff.1 h
      obtain rfl := eq_of_demandSingle h
      unfold demandSingle at h
      split at h
      · cases h
      · next hsingle => simpa [hslot] using hsingle

/-- **What is read for a slot for a single value yields one value at most,** whatever can be seen of
the running trigger and whatever the dice show. -/
theorem one_value_at_most {r : Registration}
    (hbuiltIn : ∀ e ∈ r.expressions, Vocabulary.BuiltIn e.setup) (hclose : r.close = .ok registry)
    (hslot : slot.single = true)
    (hread : (parseExpression registry scope text slot).result = some e) (sight : Sight)
    (dice : Dice) : ∃ vs after, e.array sight dice = .ok (vs, after) ∧ vs.length ≤ 1 ∧
      e.one? sight dice = .ok (vs.head?, after) := by
  have hbuiltIn := Vocabulary.builtIn_of_close hbuiltIn hclose
  have hconcise : e.Concise sight := concise_parseWithin hbuiltIn hread
  obtain ⟨vs, after, harray, hvs⟩ := hconcise dice
  refine ⟨vs, after, harray, hvs (isSingle_of_parseWithin hslot hread), ?_⟩
  exact Eval.bind_eq_ok_iff.2 ⟨vs, after, harray, rfl⟩

/-- A choice between two variables. -/
def isEitherVariable : Expression → Bool
  | .list [.variable [.text _], .variable [.text _]] false _ => true
  | _ => false

theorem exists_reading_either : ∃ registry a b type, namesInTexts.close = .ok registry ∧
    (parseExpression registry (bareScope registry) "\x7ba\x7d or \x7bb\x7d"
      (.one [objectType])).result =
        some (.list [.variable [.text a], .variable [.text b]] false type) := by
  have hread : (namesInTexts.close.toOption.bind fun registry =>
      (parseExpression registry (bareScope registry) "\x7ba\x7d or \x7bb\x7d"
        (.one [objectType])).result.map isEitherVariable) = some true := by
    decide +kernel
  obtain ⟨registry, hclose, hread⟩ := Option.bind_eq_some_iff.1 hread
  obtain ⟨e, hresult, hshape⟩ := Option.map_eq_some_iff.1 hread
  rw [isEitherVariable.eq_def] at hshape
  split at hshape
  · exact ⟨registry, _, _, _, Registration.eq_ok_of_toOption hclose, hresult⟩
  · cases hshape

/-- Of two variables that are set, either is meant, although both have a value. -/
theorem one_value_at_most_either : ∃ registry e, namesInTexts.close = .ok registry ∧
    (Slot.one [objectType]).single = true ∧
    (parseExpression registry (bareScope registry) "\x7ba\x7d or \x7bb\x7d"
      (.one [objectType])).result = some e ∧
    ∀ v dice, let sight := { bareSight registry with stored? := fun _ => some v }
      e.all sight dice = .ok ([v, v], dice) ∧
      ∃ vs after, e.array sight dice = .ok (vs, after) ∧ vs.length ≤ 1 := by
  obtain ⟨registry, a, b, type, hclose, hread⟩ := exists_reading_either
  refine ⟨registry, _, hclose, rfl, hread, fun v dice => ⟨rfl, ?_⟩⟩
  obtain ⟨vs, after, harray, hone, -⟩ :=
    one_value_at_most builtIn_namesInTexts hclose rfl hread _ dice
  exact ⟨vs, after, harray, hone⟩

end Parsing

end TriggerScript

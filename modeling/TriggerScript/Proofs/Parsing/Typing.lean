import TriggerScript.Proofs.Parsing.Readings
import TriggerScript.Proofs.Registry.Closing
import TriggerScript.Proofs.Syntax.Produces
import TriggerScript.Proofs.Types.Common
import TriggerScript.Proofs.Types.Soundness

/-!
# The types of what is read

An expression that is read for a slot produces values of its own type, and each of them is of one of
the types of the slot. This holds wherever the running trigger shows values of the types that were
known when the line was read.

* `Sight.Agrees` : what a running trigger shows is of the types that were known at the line.
* `Expression.Typed`, `Expression.Suits` : what is said of the values of an expression.
* `suits_of_convertExpression?` : an expression of its own type is made to suit.
* `Vocabulary.BuiltIn` : how built-in expressions decide; whatever they accept is of its own type.
* `suits_parseWithin` : what is read for a slot suits the slot.
-/

namespace TriggerScript

/-- What can be seen of the running trigger is of the types that were known when the line was
read. -/
structure Sight.Agrees (sight : Sight) (scope : Scope) : Prop where
  system : sight.system = scope.system
  event : ∀ type v, sight.event.value? type = some v → v.IsA sight.system.types type
  loops : ∀ l ∈ scope.loops, ∀ v, sight.loopValue? l.id = some v → v.IsA sight.system.types l.type

namespace Expression

/-- All values that the expression can produce are of its type. -/
def Typed (sight : Sight) (e : Expression) : Prop :=
  ∀ v, e.Produces sight v → v.IsA sight.system.types e.returns

/-- All values that the expression can produce are of its type, and each is of a required one. -/
structure Suits (sight : Sight) (required : List String) (e : Expression) : Prop where
  typed : e.Typed sight
  required : ∀ v, e.Produces sight v → ∃ type ∈ required, v.IsA sight.system.types type

theorem Suits.mem_literal {sight : Sight} {required : List String} {vs : List Value}
    {type : String} {together : Bool}
    (h : ∀ v ∈ vs, v.IsA sight.system.types type ∧ ∃ r ∈ required, v.IsA sight.system.types r) :
    (literal vs type together).Suits sight required :=
  ⟨fun v hv => (h v (produces_literal hv)).1, fun v hv => (h v (produces_literal hv)).2⟩

end Expression

namespace Parsing

open Expression

/-- An event that carries nothing, with no variables and no loops. -/
def bareSight (registry : Registry) : Sight :=
  ⟨registry.system, default, fun _ => none, fun _ => none⟩

/-! ### Converted expressions and lists -/

theorem exists_of_mem_mapM {α β : Type} {f : α → Option β} {xs : List α} {ys : List β}
    (h : xs.mapM f = some ys) {y : β} (hy : y ∈ ys) : ∃ x ∈ xs, f x = some y := by
  induction xs generalizing ys with
  | nil =>
    cases h
    cases hy
  | cons x xs ih =>
    rw [List.mapM_cons] at h
    obtain ⟨first, hfirst, h⟩ := Option.bind_eq_some_iff.1 h
    obtain ⟨rest, hrest, h⟩ := Option.bind_eq_some_iff.1 h
    cases h
    rcases List.mem_cons.1 hy with rfl | hy
    · exact ⟨x, List.mem_cons_self, hfirst⟩
    · obtain ⟨x', hx', hf⟩ := ih hrest hy
      exact ⟨x', List.mem_cons_of_mem _ hx', hf⟩

/-- The common type of some expressions is above the type of each of them. -/
theorem isAssignable_commonType {types : TypeTable} (htypes : types.Rooted)
    {items : List Expression} {e : Expression} (he : e ∈ items) :
    types.isAssignable e.returns (commonType types items) = true := by
  have hleast := TypeTable.leastAbove_commonType htypes (List.ne_nil_of_mem he)
  exact hleast.above e.returns (List.mem_map_of_mem he)

section Values

variable {sight : Sight} (hsound : sight.system.Sound)

include hsound

theorem suits_converted {required : List String} {target : String} (htarget : target ∈ required)
    (e : Expression) : (converted e target).Suits sight required := by
  have hvalue (v : Value) (hv : (converted e target).Produces sight v) :
      v.IsA sight.system.types target := by
    obtain ⟨u, hu⟩ := produces_converted hv
    exact hsound.convert hu
  exact ⟨hvalue, fun v hv => ⟨target, htarget, hvalue v hv⟩⟩

/-- **An expression of its own type is made to suit the required types.** -/
theorem suits_of_convertExpression? {required : List String} {e e' : Expression}
    (htyped : e.Typed sight)
    (h : convertExpression? sight.system required e = some e') : e'.Suits sight required := by
  unfold convertExpression? at h
  split at h
  · cases h
  · next hdirect =>
    cases h
    obtain ⟨r, hr, hbelow⟩ := TypeSystem.exists_of_direct hdirect
    exact ⟨htyped, fun v hv => ⟨r, hr, (htyped v hv).mono hsound.rooted hbelow⟩⟩
  · next target hconvert =>
    have htarget := TypeSystem.mem_of_convert hconvert
    split at h
    -- Constants have been converted when they were read.
    · obtain ⟨vs, hvs, rfl⟩ := Option.map_eq_some_iff.1 h
      refine .mem_literal fun v hv => ?_
      obtain ⟨u, -, hu⟩ := exists_of_mem_mapM hvs hv
      exact ⟨hsound.convert hu, target, htarget, hsound.convert hu⟩
    · cases h
      exact suits_converted hsound htarget e

theorem suits_list {required : List String} {items : List Expression} {together : Bool}
    (h : ∀ e ∈ items, e.Suits sight required) :
    (list items together (commonType sight.system.types items)).Suits sight required := by
  constructor
  · intro v hv
    obtain ⟨e, he, hproduces⟩ := produces_list hv
    exact ((h e he).typed v hproduces).mono hsound.rooted
      (isAssignable_commonType hsound.rooted he)
  · intro v hv
    obtain ⟨e, he, hproduces⟩ := produces_list hv
    exact (h e he).required v hproduces

end Values

end Parsing

/-! ### Built-in expressions -/

namespace Vocabulary

open Parsing Expression

/-- How one of the built-in expressions decides. -/
def BuiltIn (setup : Scope → Capture → Setup Expression) : Prop :=
  ∃ e ∈ (addExpressions .empty).expressions, setup = e.setup

theorem builtIn_iff {setup : Scope → Capture → Setup Expression} :
    BuiltIn setup ↔ setup = namedVariable ∨ setup = loopValue ∨ setup = eventValue ∨
      setup = range := by
  simp [BuiltIn, addExpressions, Registration.addExpression, Registration.empty]

/-- If only built-in expressions are registered, there are only such to be found. -/
theorem builtIn_of_close {r : Registration} {registry : Registry}
    (hbuiltIn : ∀ e ∈ r.expressions, BuiltIn e.setup) (hclose : r.close = .ok registry) :
    ∀ p, ∀ entry ∈ registry.inGroup p, BuiltIn entry.setup := by
  obtain ⟨entries, hclosed⟩ := Registration.closed_of_close hclose
  intro p entry hentry
  obtain ⟨e, he, hsetup⟩ := Registration.exists_setup_of_closed hclosed hentry
  rw [hsetup]
  exact hbuiltIn e he

theorem mem_of_chooseLoop {candidates : List LoopInfo} {index : Option Nat} {l : LoopInfo}
    (h : chooseLoop candidates index = some l) : l ∈ candidates := by
  match index with
  | some 0 => cases h
  | some (n + 1) => exact List.mem_of_getElem? h
  | none => exact List.mem_of_getLast? h

variable {sight : Sight} {scope : Scope} {read : Parsing.Reader} {location : Option Location}
  {c : Capture} {e : Expression}

theorem exists_of_namedVariable
    (h : (runSetup read location (namedVariable scope c)).result = some e) :
    ∃ name, e = .variable name := by
  unfold namedVariable at h
  split at h
  · rw [result_runSetup_map] at h
    obtain ⟨name, -, rfl⟩ := Option.map_eq_some_iff.1 h
    exact ⟨name, rfl⟩
  · cases h

/-- A loop value is the value of a loop around the line that yields values of the wanted type. -/
theorem exists_of_loopValue
    (h : (runSetup read location (loopValue scope c)).result = some e) :
    ∃ name wanted index l, chooseLoop (loopsOf scope wanted) index = some l ∧
      e = .loopValue name l.id (wanted.getD l.type) := by
  unfold loopValue at h
  split at h
  · cases h
  · simp only at h
    split at h
    · split at h
      · cases h
      · split at h
        · next l hl =>
          cases h
          exact ⟨_, none, _, l, hl, rfl⟩
        · cases h
    · split at h
      · next info _ _ =>
        split at h
        · cases h
        · split at h
          · next l hl =>
            cases h
            exact ⟨_, some info.code, _, l, hl, rfl⟩
          · cases h
      · cases h

theorem exists_of_eventValue
    (h : (runSetup read location (eventValue scope c)).result = some e) :
    ∃ type, e = .eventValue type := by
  unfold eventValue at h
  split at h
  · cases h
  · split at h
    · cases h
    · split at h
      · next type _ =>
        cases h
        exact ⟨type, rfl⟩
      · cases h

theorem exists_of_range (h : (runSetup read location (range scope c)).result = some e) :
    ∃ low high, e = .range low high := by
  unfold range at h
  split at h
  · next low high _ _ =>
    cases h
    exact ⟨low, high, rfl⟩
  · cases h

theorem typed_loopValue (hsound : sight.system.Sound) (hsight : sight.Agrees scope)
    {wanted : Option String} {index : Option Nat} {l : LoopInfo} (name : String)
    (h : chooseLoop (loopsOf scope wanted) index = some l) :
    (Expression.loopValue name l.id (wanted.getD l.type)).Typed sight := by
  intro v hv
  have hmem := mem_of_chooseLoop h
  cases wanted with
  | none => exact hsight.loops l hmem v (produces_loopValue hv)
  | some type =>
    obtain ⟨hmem, hbelow⟩ := List.mem_filter.1 hmem
    rw [← hsight.system] at hbelow
    exact (hsight.loops l hmem v (produces_loopValue hv)).mono hsound.rooted hbelow

/-- **What a built-in expression accepts is of its own type.** -/
theorem typed_of_builtIn (hsound : sight.system.Sound) (hsight : sight.Agrees scope)
    {setup : Scope → Capture → Setup Expression} (hsetup : BuiltIn setup)
    (h : (runSetup read location (setup scope c)).result = some e) : e.Typed sight := by
  rcases builtIn_iff.1 hsetup with rfl | rfl | rfl | rfl
  · obtain ⟨name, rfl⟩ := exists_of_namedVariable h
    exact fun v _ => v.isA_object sight.system.types
  · obtain ⟨name, wanted, index, l, hl, rfl⟩ := exists_of_loopValue h
    exact typed_loopValue hsound hsight name hl
  · obtain ⟨type, rfl⟩ := exists_of_eventValue h
    exact fun v hv => hsight.event type v (produces_eventValue hv)
  · obtain ⟨low, high, rfl⟩ := exists_of_range h
    intro v hv
    obtain ⟨x, rfl⟩ := produces_range hv
    exact (Value.number x).isA_typeName sight.system.types

end Vocabulary

/-! ### Readings -/

namespace Parsing

open Expression

/-- What a reader gives for a slot suits the slot. -/
def Reader.Suits (sight : Sight) (read : Reader) : Prop :=
  ∀ text slot e, (read text slot).result = some e → e.Suits sight slot.types

section Read

variable {sight : Sight} {scope : Scope} {registry : Registry} {read : Reader} {text : String}
  {slot : Slot} {e : Expression} (hsound : sight.system.Sound) (hsight : sight.Agrees scope)
  (hbuiltIn : ∀ p, ∀ entry ∈ registry.inGroup p, Vocabulary.BuiltIn entry.setup)

include hsound hsight

theorem suits_parseLiteral (h : (parseLiteral scope text slot).result = some e) :
    e.Suits sight slot.types := by
  rw [result_parseLiteral, ← hsight.system] at h
  obtain ⟨value, hvalue, rfl⟩ := Option.map_eq_some_iff.1 h
  obtain ⟨type, htype, hread⟩ := List.exists_of_findSome?_eq_some hvalue
  refine .mem_literal fun v hv => ?_
  obtain rfl := List.mem_singleton.1 hv
  exact ⟨v.isA_typeName _, type, htype, hsound.readLiteral? hread⟩

omit hsight in
theorem typed_plainNumber {value : Value} (h : plainNumber? sight.system text slot = some value) :
    (literal [value] numberType true).Typed sight := by
  unfold plainNumber? at h
  split at h
  · intro v hv
    obtain rfl := List.mem_singleton.1 (produces_literal hv)
    exact hsound.readLiteral? h
  · cases h

include hbuiltIn

/-- What a single value is read as is of its own type. -/
theorem typed_of_own (h : Own registry read scope text slot e) : e.Typed sight := by
  cases h with
  | quoted _ _ =>
    intro v hv
    obtain ⟨s, rfl⟩ := produces_quoted hv
    exact (Value.text s).isA_typeName _
  | number _ hvalue =>
    rw [← hsight.system] at hvalue
    exact typed_plainNumber hsound hvalue
  | registered _ hentry haccepts =>
    exact Vocabulary.typed_of_builtIn hsound hsight (hbuiltIn _ _ hentry) haccepts

theorem suits_parseSingle (h : (parseSingle registry read scope text slot).result = some e) :
    e.Suits sight slot.types := by
  rcases exists_own_of_parseSingle h with h | ⟨own, hown, hconvert⟩
  · exact suits_parseLiteral hsound hsight h
  · rw [← hsight.system] at hconvert
    exact suits_of_convertExpression? hsound (typed_of_own hsound hsight hbuiltIn hown) hconvert

/-- Lists of what suits a slot suit it too. -/
theorem spreads_suits : Spreads registry scope fun _ slot e => e.Suits sight slot.types where
  single _ h := suits_parseSingle hsound hsight hbuiltIn h
  list together _ h := by
    rw [← hsight.system]
    exact suits_list hsound h
  widen _ h := h

/-- **What is read for a slot suits the slot,** however deep expressions may be nested. -/
theorem suits_parseWithin (depth : Nat) : (parseWithin registry scope depth).Suits sight :=
  fun _ _ _ h => (spreads_suits hsound hsight hbuiltIn).parseWithin depth _ _ _ h

theorem suits_parseExpression : (parseExpression registry scope).Suits sight :=
  suits_parseWithin hsound hsight hbuiltIn maxDepth

end Read

end Parsing

end TriggerScript

import TriggerScript.Proofs.Parsing.Variables
import TriggerScript.Proofs.Syntax.Produces
import TriggerScript.Proofs.Types.Soundness

/-!
# Values of variables in slots

A variable can hold values of any type. What type a slot makes of them is settled when the variable
is read: if the slot takes all objects they stay what they are, and else they are converted to one
type, the same for all values.

* `variableNamed` : a variable with a plain name, as it is written.
* `TypeSystem.Passes` : a value stays what it is in a slot for some types.
* `passes_of_forall_isA`, `passes_of_direct` : values of all types of a slot do, and so do all values
  where all objects are taken.
* `stored_value_passes_iff` : a variable is read for any slot, and stands for the value that it holds
  exactly if this stays what it is.
-/

namespace TriggerScript

namespace TypeSystem

variable {s : TypeSystem} {v : Value} {required : List String} {type : String}

/-- The value stays what it is when it comes out of a variable that stands in a slot for some
types. -/
def Passes (s : TypeSystem) (required : List String) (v : Value) : Prop :=
  ∀ target, s.acceptance? objectType required = some (.convert target) →
    s.convert v target = some v

theorem convert_of_isA (h : v.IsA s.types type) : s.convert v type = some v := by
  rw [convert, Conversions.convert]
  exact if_pos h

/-- A value of all required types passes; so values of the only type of a slot do. -/
theorem passes_of_forall_isA (h : ∀ type ∈ required, v.IsA s.types type) : s.Passes required v :=
  fun target htarget => convert_of_isA (h target (mem_of_convert htarget))

/-- Where all objects are taken, all values pass. -/
theorem passes_of_direct (h : type ∈ required)
    (hobject : s.types.isAssignable objectType type = true) : s.Passes required v := by
  intro target htarget
  rw [acceptance?, if_pos (List.any_eq_true.2 ⟨type, h, hobject⟩)] at htarget
  cases htarget

end TypeSystem

namespace Vocabulary

open Text

/-- A text that can be the name of a variable: it is not empty and of one line, and braces in it pair
up. -/
structure PlainName (name : List Char) : Prop where
  nonempty : name ≠ []
  oneLine : '\n' ∉ name
  balanced : braceDepth? 0 name = some 0

/-- The variable with a plain name, as it is written. -/
def variableNamed (name : List Char) : List Char :=
  braced (escape false name)

theorem mem_double {mark c : Char} {cs : List Char} : c ∈ double mark cs ↔ c ∈ cs := by
  induction cs with
  | nil => rfl
  | cons d rest ih =>
    by_cases hd : d = mark <;> simp [double, hd, ih]

theorem braceDepth?_double (depth : Nat) (name : List Char) :
    braceDepth? depth (double '%' name) = braceDepth? depth name := by
  induction name generalizing depth with
  | nil => rfl
  | cons c rest ih =>
    by_cases hc : c = '%'
    · simp [double, braceDepth?, hc, ih]
    · simp [double, braceDepth?, hc, ih]

theorem PlainName.nameText {name : List Char} (h : PlainName name) :
    NameText (escape false name) := by
  refine ⟨fun hempty => h.nonempty ?_, fun hmem => h.oneLine (mem_double.1 hmem)⟩
  exact List.eq_nil_iff_forall_not_mem.2 fun c hc => by
    have hmem : c ∈ escape false name := mem_double.2 hc
    rw [hempty] at hmem
    cases hmem

/-- A plain name is read as one piece of text. -/
theorem result_variableName {read : Parsing.Reader} {location : Option Location}
    {name : List Char} (h : PlainName name) :
    (Parsing.runSetup read location (variableName (String.ofList (escape false name)))).result =
      some [.text (String.ofList name)] := by
  have hdepth : braceDepth? 0 (escape false name) = some 0 :=
    (braceDepth?_double 0 name).trans h.balanced
  have hcut : cutTemplate false [] (escape false name) = [.text name] := by
    have hcut : cutTemplate false [] (escape false name ++ []) =
        cutTemplate false (name.reverse ++ []) [] := cutTemplate_escape [] name []
    rwa [List.append_nil, List.append_nil, cutTemplate_nil, plainPiece_reverse h.nonempty] at hcut
  rw [variableName, String.toList_ofList, hdepth]
  simp only [readTemplate, String.toList_ofList, hcut]
  rfl

end Vocabulary

namespace Expression

variable {sight : Sight} {choose : Bool} {name : String} {v : Value}

/-- What a variable with a plain name holds. -/
theorem values_variable (hstored : sight.stored? (Text.lowerString name) = some v) :
    (Expression.variable [.text name]).values sight choose = pure [v] := by
  rw [values, textOf, textOfPart, textOf, pure_bind, pure_bind, pure_bind, String.append_empty,
    hstored]
  rfl

theorem values_converted_variable (target : String)
    (hstored : sight.stored? (Text.lowerString name) = some v) :
    (converted (.variable [.text name]) target).values sight choose =
      pure (sight.system.convert v target).toList := by
  rw [values, values_variable hstored, pure_bind, List.filterMap_cons, List.filterMap_nil]
  cases sight.system.convert v target <;> rfl

end Expression

/-- The variable with a plain name holds a value. -/
def Sight.Holds (sight : Sight) (name : List Char) (v : Value) : Prop :=
  sight.stored? (Text.lowerString (String.ofList name)) = some v

namespace Parsing

open Vocabulary

/-- A variable that is fitted to a slot stands for the value that it holds exactly if this passes. -/
theorem values_fitVariable_iff {system : TypeSystem} {required : List String}
    {acceptance : Acceptance} (hacceptance : system.acceptance? objectType required = some acceptance)
    {name : List Char} {v : Value} :
    (∀ (sight : Sight) (choose : Bool), sight.system = system → sight.Holds name v →
      (fitVariable [.text (String.ofList name)] acceptance).values sight choose = pure [v]) ↔
      system.Passes required v := by
  rw [TypeSystem.Passes, hacceptance]
  cases acceptance with
  | direct =>
    have hpasses (target : String) : some Acceptance.direct ≠ some (.convert target) := nofun
    exact ⟨fun _ target h => absurd h (hpasses target),
      fun _ sight choose _ hholds => Expression.values_variable hholds⟩
  | convert target =>
    constructor
    · intro h target' heq
      obtain rfl : target = target' := by simpa using heq
      have hvalues := h ⟨system, default, fun _ => some v, fun _ => none⟩ false rfl rfl
      rw [fitVariable, Expression.values_converted_variable target rfl] at hvalues
      have hgives : (pure (system.convert v target).toList : Eval (List Value)).Gives [v] :=
        hvalues ▸ Eval.gives_pure.2 rfl
      exact Option.toList_eq_singleton_iff.1 (Eval.gives_pure.1 hgives)
    · intro h sight choose hsystem hholds
      rw [fitVariable, Expression.values_converted_variable target hholds, hsystem, h target rfl,
        Option.toList_some]

/-- **A variable is read for any slot that takes more than constants, and it stands for the value
that it holds exactly if this value passes,** which is so of all values of a slot for one type, and
of all values where a slot takes objects of any type. Of several types the one that values are
converted to need not be one that the value is of. -/
theorem stored_value_passes_iff {r : Registration} {registry : Registry}
    (hexpressions : r.expressions = (addExpressions .empty).expressions)
    (hclose : r.close = .ok registry) {scope : Scope} (hsystem : scope.system = registry.system)
    {slot : Slot} (hfree : slot.literalOnly = false) {type : String} (htype : type ∈ slot.types)
    {v : Value} (hv : v.IsA registry.system.types type) {name : List Char} (hname : PlainName name)
    (depth : Nat) :
    ∃ e, (parseWithin registry scope (depth + 1) (String.ofList (variableNamed name)) slot).result =
        some e ∧
      ((∀ (sight : Sight) (choose : Bool), sight.system = registry.system → sight.Holds name v →
        e.values sight choose = pure [v]) ↔ registry.system.Passes slot.types v) ∧
      (slot.types = [type] → registry.system.Passes slot.types v) ∧
      ((∃ other ∈ slot.types, registry.system.types.isAssignable objectType other = true) →
        registry.system.Passes slot.types v) := by
  have htypes : slot.types ≠ [] := List.ne_nil_of_mem htype
  obtain ⟨acceptance, hacceptance⟩ :=
    Option.isSome_iff_exists.1 (isSome_acceptance?_object scope.system htypes)
  refine ⟨_, result_parseWithin_braced (triesVariables_of_close hexpressions hclose)
    String.toList_ofList hname.nameText hfree htypes hacceptance (result_variableName hname), ?_,
    fun honly => ?_, fun ⟨_, hother, habove⟩ => TypeSystem.passes_of_direct hother habove⟩
  · rw [hsystem] at hacceptance
    exact values_fitVariable_iff hacceptance
  · refine TypeSystem.passes_of_forall_isA fun other hother => ?_
    rw [honly, List.mem_singleton] at hother
    rwa [hother]

/-! ### Numbers or texts -/

/-- A place for a number or a text. -/
def numberOrText : Slot := .one [numberType, textType]

theorem plainName_x : PlainName ['x'] := ⟨by decide, by decide, rfl⟩

theorem close_typesOnly {registry : Registry} (h : builtIn = .ok registry) :
    (addElements typesOnly).close = .ok registry := by
  rwa [builtIn, addAll_empty, Except.bind] at h

/-- Values of variables are converted to numbers, the first type of the slot. -/
theorem acceptance?_numberOrText {registry : Registry} {word : Regex} (h : Knows registry word) :
    registry.system.acceptance? objectType numberOrText.types = some (.convert numberType) := by
  rw [TypeSystem.acceptance?, h.types, h.conversions]
  decide

/-- A number passes a slot for numbers or texts. -/
theorem stored_value_passes_iff_number : ∃ (registry : Registry) (e : Expression),
    (addElements typesOnly).expressions = (addExpressions .empty).expressions ∧
    (addElements typesOnly).close = .ok registry ∧
    (bareScope registry).system = registry.system ∧ numberOrText.literalOnly = false ∧
    numberType ∈ numberOrText.types ∧
    (Value.number Number.zero).IsA registry.system.types numberType ∧ PlainName ['x'] ∧
    (parseExpression registry (bareScope registry) "\x7bx\x7d" numberOrText).result = some e ∧
    ∀ (sight : Sight) (choose : Bool), sight.system = registry.system →
      sight.Holds ['x'] (.number Number.zero) →
      e.values sight choose = pure [.number Number.zero] := by
  obtain ⟨registry, hbuiltIn⟩ := exists_builtIn
  obtain ⟨word, hknows⟩ := exists_knows hbuiltIn
  have hexpressions : (addElements typesOnly).expressions = (addExpressions .empty).expressions :=
    rfl
  have hclose := close_typesOnly hbuiltIn
  have hsystem : (bareScope registry).system = registry.system := rfl
  have hmem : numberType ∈ numberOrText.types := List.mem_cons_self
  have hv : (Value.number Number.zero).IsA registry.system.types numberType :=
    Value.isA_typeName _ _
  obtain ⟨e, hread, hpasses, -⟩ := stored_value_passes_iff hexpressions hclose hsystem rfl
    hmem hv plainName_x 63
  refine ⟨registry, e, hexpressions, hclose, hsystem, rfl, hmem, hv, plainName_x, hread,
    hpasses.2 fun target htarget => ?_⟩
  rw [acceptance?_numberOrText hknows] at htarget
  cases htarget
  exact TypeSystem.convert_of_isA hv

/-- A text does not, although texts are among the values that are asked for. -/
theorem not_stored_value_passes_text : ∃ (registry : Registry) (e : Expression) (sight : Sight),
    builtIn = .ok registry ∧ sight.system = registry.system ∧
    (Value.text "hi").IsA registry.system.types textType ∧ textType ∈ numberOrText.types ∧
    (parseExpression registry (bareScope registry) "\x7bx\x7d" numberOrText).result = some e ∧
    sight.Holds ['x'] (.text "hi") ∧ e.values sight false = pure [] := by
  obtain ⟨registry, hbuiltIn⟩ := exists_builtIn
  obtain ⟨word, hknows⟩ := exists_knows hbuiltIn
  have htypes : numberOrText.types ≠ [] := by decide
  have hacceptance : (bareScope registry).system.acceptance? objectType numberOrText.types =
      some (.convert numberType) := acceptance?_numberOrText hknows
  have hread : (parseExpression registry (bareScope registry) "\x7bx\x7d" numberOrText).result =
      some (fitVariable [.text "x"] (.convert numberType)) :=
    result_parseWithin_braced (triesVariables_of_knows hknows) rfl plainName_x.nameText rfl htypes
      hacceptance (result_variableName plainName_x)
  have hlost : registry.system.convert (.text "hi") numberType = none := by
    rw [TypeSystem.convert, hknows.types, hknows.conversions]
    rfl
  refine ⟨registry, _, ⟨registry.system, default, fun _ => some (.text "hi"), fun _ => none⟩,
    hbuiltIn, rfl, Value.isA_typeName _ _, by decide, hread, rfl, ?_⟩
  rw [fitVariable, Expression.values_converted_variable numberType rfl, hlost]
  rfl

end Parsing

end TriggerScript

import TriggerScript.Proofs.Parsing.Readings
import TriggerScript.Proofs.Registry.Closing
import TriggerScript.Proofs.Vocabulary.Template

/-!
# Constants

A slot for constants takes quoted texts and literals, and lists of them. A quoted text is taken even
if it holds expressions; then its value is not known before anything runs.

* `Expression.interpolates` : whether a quoted text with an expression in it is among the values.
* `Expression.Settled` : the values are known unless such a text is among them.
* `settled_of_literalOnly` : what is read for a slot for constants is settled, and a text without
  percent signs is read as constants.
-/

namespace TriggerScript

def Part.isExpression : Part → Bool
  | .text _ => false
  | .expression _ => true

theorem isSome_plainText? (parts : List Part) :
    (plainText? parts).isSome = !parts.any Part.isExpression := by
  induction parts with
  | nil => rfl
  | cons p rest ih =>
    cases p with
    | text s => rw [plainText?, Option.isSome_map, ih, List.any_cons, Part.isExpression,
        Bool.false_or]
    | expression e => rfl

namespace Expression

mutual

/-- Whether a quoted text with an expression in it is among the values. -/
def interpolates : Expression → Bool
  | .quoted parts => parts.any Part.isExpression
  | .list items _ _ => anyInterpolates items
  | .converted inner _ => inner.interpolates
  | _ => false

/-- Whether a quoted text with an expression in it is among the values of some expressions. -/
def anyInterpolates : List Expression → Bool
  | [] => false
  | e :: rest => e.interpolates || anyInterpolates rest

end

attribute [grind =] interpolates anyInterpolates

@[simp] theorem interpolates_literal (values : List Value) (type : String) (together : Bool) :
    (literal values type together).interpolates = false := by
  rw [interpolates] <;> intros <;> contradiction

@[simp] theorem constants?_converted (inner : Expression) (target : String) :
    (converted inner target).constants? = none := by
  rw [constants?] <;> intros <;> contradiction

/-- The values are known before anything runs, unless a quoted text with an expression in it is
among them. -/
def Settled (e : Expression) : Prop :=
  e.constants?.isSome = !e.interpolates

theorem settled_literal (values : List Value) (type : String) (together : Bool) :
    (literal values type together).Settled := by
  rw [Settled, constants?, interpolates_literal]
  rfl

theorem settled_quoted (parts : List Part) : (quoted parts).Settled := by
  rw [Settled, constants?, interpolates, Option.isSome_map, isSome_plainText?]

theorem isSome_allConstants? {items : List Expression} (h : ∀ e ∈ items, e.Settled) :
    (allConstants? items).isSome = !anyInterpolates items := by
  induction items with
  | nil => rfl
  | cons e rest ih =>
    obtain ⟨hfirst, hrest⟩ := List.forall_mem_cons.1 h
    rw [anyInterpolates, Bool.not_or, ← ih hrest, ← (show e.Settled from hfirst), allConstants?]
    cases e.constants? <;> cases allConstants? rest <;> rfl

theorem settled_list {items : List Expression} (h : ∀ e ∈ items, e.Settled) (together : Bool)
    (type : String) : (list items together type).Settled := by
  rw [Settled, constants?, interpolates, isSome_allConstants? h]

theorem anyInterpolates_eq_false {items : List Expression} :
    anyInterpolates items = false ↔ ∀ e ∈ items, e.interpolates = false := by
  induction items with
  | nil => simp [anyInterpolates]
  | cons e rest ih => rw [anyInterpolates, Bool.or_eq_false_iff, ih, List.forall_mem_cons]

end Expression

/-! ### Quoted texts without percent signs -/

theorem cutTemplate_of_not_mem {quoted : Bool} {text cs : List Char} (h : '%' ∉ cs) :
    ∃ plain, cutTemplate quoted text cs = plainPiece plain := by
  induction hn : cs.length using Nat.strong_induction_on generalizing text cs with
  | h n ih =>
    cases cs with
    | nil => exact ⟨text, cutTemplate_nil⟩
    | cons c rest =>
      rw [List.mem_cons, not_or] at h
      rw [List.length_cons] at hn
      cases hquote : quoted && c == '"' with
      | false =>
        rw [cutTemplate_plain (Ne.symm h.1) hquote]
        exact ih rest.length (by omega) h.2 rfl
      | true =>
        rw [Bool.and_eq_true, beq_iff_eq] at hquote
        obtain ⟨rfl, rfl⟩ := hquote
        rw [cutTemplate_quote]
        have hshorter : (rest.drop 1).length ≤ rest.length := by
          rw [List.length_drop]
          omega
        exact ih _ (by omega) (fun hmem => h.2 (List.mem_of_mem_drop hmem)) rfl

namespace Parsing

open Expression

variable {registry : Registry} {scope : Scope} {read : Reader} {text : String} {slot : Slot}
  {e e' : Expression}

theorem plain_of_readTemplate {location : Option Location} {quoted : Bool} {content : String}
    {parts : List Part} (hplain : '%' ∉ content.toList)
    (h : (runSetup read location (readTemplate quoted content)).result = some parts) :
    parts.any Part.isExpression = false := by
  obtain ⟨plain, hcut⟩ : ∃ plain, cutTemplate quoted [] content.toList = plainPiece plain :=
    cutTemplate_of_not_mem hplain
  rw [readTemplate, hcut, result_runSetup_map] at h
  obtain ⟨pieces, hpieces, rfl⟩ := Option.map_eq_some_iff.1 h
  unfold plainPiece at hpieces
  split at hpieces
  · cases hpieces
    rfl
  · cases hpieces
    rfl

/-! ### Readings for slots for constants -/

/-- An expression stays settled when it is made to fit a slot, and no text with expressions comes
up. -/
theorem settled_of_convertExpression? {system : TypeSystem} {required : List String}
    (he : e.Settled) (h : convertExpression? system required e = some e') :
    e'.Settled ∧ (e.interpolates = false → e'.interpolates = false) := by
  unfold convertExpression? at h
  split at h
  · cases h
  · cases h
    exact ⟨he, id⟩
  · next target _ =>
    split at h
    · obtain ⟨values, -, rfl⟩ := Option.map_eq_some_iff.1 h
      exact ⟨settled_literal values target _, fun _ => interpolates_literal ..⟩
    · next hunknown =>
      cases h
      have hinner : e.interpolates = true := by simpa [Settled, hunknown] using he
      refine ⟨?_, fun hplain => ?_⟩
      · rw [Settled, constants?_converted, interpolates, hinner]
        rfl
      · rw [hinner] at hplain
        cases hplain

theorem settled_parseLiteral (h : (parseLiteral scope text slot).result = some e) :
    e.Settled ∧ e.interpolates = false := by
  rw [result_parseLiteral] at h
  obtain ⟨value, -, rfl⟩ := Option.map_eq_some_iff.1 h
  exact ⟨settled_literal _ _ _, interpolates_literal _ _ _⟩

theorem settled_parseSingle (hslot : slot.literalOnly = true)
    (h : (parseSingle registry read scope text slot).result = some e) :
    e.Settled ∧ ('%' ∉ text.toList → e.interpolates = false) := by
  rcases exists_own_of_parseSingle h with h | ⟨own, hown, hconvert⟩
  · obtain ⟨hsettled, hplain⟩ := settled_parseLiteral h
    exact ⟨hsettled, fun _ => hplain⟩
  cases hown with
  | quoted hcontent hparts =>
    obtain ⟨hsettled, hkeeps⟩ := settled_of_convertExpression? (settled_quoted _) hconvert
    refine ⟨hsettled, fun hplain => hkeeps ?_⟩
    rw [(Text.unquote_eq_some_iff.1 hcontent).1] at hplain
    rw [interpolates]
    refine plain_of_readTemplate (fun hmem => hplain ?_) hparts
    rw [String.toList_ofList] at hmem
    exact List.mem_append_left _ (List.mem_cons_of_mem _ hmem)
  | number hfree _ | registered hfree _ _ =>
    rw [hslot] at hfree
    cases hfree

theorem spreads_settled : Spreads registry scope fun cs slot e =>
    slot.literalOnly = true → e.Settled ∧ ('%' ∉ cs → e.interpolates = false) where
  single _ h hslot := settled_parseSingle hslot h
  list together _ h hslot := by
    refine ⟨settled_list (fun e he => (h e he hslot).1) _ _, fun hplain => ?_⟩
    rw [interpolates, anyInterpolates_eq_false]
    exact fun e he => (h e he hslot).2 hplain
  widen hsubset h hslot := ⟨(h hslot).1, fun hplain => (h hslot).2 fun hmem => hplain (hsubset hmem)⟩

/-- **What is read for a slot for constants has known values unless a quoted text with an expression
in it is among them;** that needs a percent sign. -/
theorem settled_of_literalOnly {depth : Nat} (hslot : slot.literalOnly = true)
    (h : (parseWithin registry scope depth text slot).result = some e) :
    (e.constants?.isSome ↔ e.interpolates = false) ∧
      ('%' ∉ text.toList → e.constants?.isSome) := by
  obtain ⟨hsettled, hplain⟩ := spreads_settled.parseWithin depth _ _ _ h hslot
  rw [Settled] at hsettled
  rw [hsettled, Bool.not_eq_true']
  exact ⟨Iff.rfl, hplain⟩

/-- A slot for constant texts. -/
def constantText : Slot := { Slot.many [textType] with literalOnly := true }

/-- A text that holds the value of a variable. -/
def greeting : String := "\"hello %\x7bx\x7d%\""

/-- A text that holds a variable is taken for a constant text. -/
theorem exists_reading_greeting : ∃ registry e, namesInTexts.close = .ok registry ∧
    (parseExpression registry (bareScope registry) greeting constantText).result = some e ∧
    e.constants? = none := by
  have hread : (namesInTexts.close.toOption.bind fun registry =>
      (parseExpression registry (bareScope registry) greeting constantText).result.map fun e =>
        e.constants?.isNone) = some true := by
    decide +kernel
  obtain ⟨registry, hclose, hread⟩ := Option.bind_eq_some_iff.1 hread
  obtain ⟨e, hresult, hnone⟩ := Option.map_eq_some_iff.1 hread
  exact ⟨registry, e, Registration.eq_ok_of_toOption hclose, hresult,
    Option.isNone_iff_eq_none.1 hnone⟩

theorem settled_of_literalOnly_greeting : ∃ registry e, namesInTexts.close = .ok registry ∧
    constantText.literalOnly = true ∧
    (parseExpression registry (bareScope registry) greeting constantText).result = some e ∧
    e.constants? = none ∧ e.interpolates = true := by
  obtain ⟨registry, e, hclose, hresult, hnone⟩ := exists_reading_greeting
  have hslot : constantText.literalOnly = true := rfl
  obtain ⟨hknown, -⟩ := settled_of_literalOnly hslot hresult
  rw [hnone] at hknown
  refine ⟨registry, e, hclose, hslot, hresult, hnone, ?_⟩
  exact Bool.eq_true_of_not_eq_false fun hplain => nomatch hknown.2 hplain

/-- A slot for constants may get an expression whose values are not known before anything runs. -/
theorem not_constants_of_literalOnly : ¬∀ (registry : Registry) (scope : Scope) (text : String)
    (slot : Slot) (e : Expression), slot.literalOnly = true →
    (parseExpression registry scope text slot).result = some e → e.constants?.isSome := by
  intro h
  obtain ⟨registry, e, -, hresult, hnone⟩ := exists_reading_greeting
  have hsome := h registry (bareScope registry) _ constantText e rfl hresult
  rw [hnone] at hsome
  cases hsome

end Parsing

end TriggerScript

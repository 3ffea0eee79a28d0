import TriggerScript.Proofs.Parsing.Interpolation

/-!
# Every text can be written

A text is written in quotes, with each quote and each percent sign in it twice. The three readers
that such a text goes through undo this together: none of them takes a doubled sign for the start
of an expression or for the end of the text, however many of them stand in a row.

* `verbatim` : a text as it is written.
* `unquote_verbatim` : it stands in quotes from end to end.
* `readTemplate_verbatim` : it is cut into one piece, the text itself.
* `describe_verbatim` : the text is shown as it was written.
* `parseWithin_verbatim` : it is read as the constant that it stands for.
-/

namespace TriggerScript

open Text

/-- A text as it is written: in quotes, with each quote and each percent sign twice. -/
def verbatim (t : String) : String :=
  String.ofList ('"' ::
    t.toList.flatMap (fun c => if c = '"' ∨ c = '%' then [c, c] else [c]) ++ ['"'])

theorem toList_verbatim (t : String) :
    (verbatim t).toList = '"' :: escape true t.toList ++ ['"'] := by
  have hdoubled (cs : List Char) :
      cs.flatMap (fun c => if c = '"' ∨ c = '%' then [c, c] else [c]) = escape true cs := by
    induction cs with
    | nil => exact (escape_nil true).symm
    | cons c cs ih =>
      have hfirst : escape true (c :: cs) = escape true [c] ++ escape true cs :=
        escape_append true [c] cs
      rw [List.flatMap_cons, ih, hfirst, escape_singleton]
      by_cases hpercent : c = '%'
      · simp [hpercent]
      · by_cases hquote : c = '"' <;> simp [hpercent, hquote]
  rw [verbatim, String.toList_ofList, hdoubled]

/-- What is written stands in quotes from its first to its last character. -/
theorem unquote_verbatim (t : String) :
    unquote (verbatim t).toList = some (escape true t.toList) :=
  unquote_eq_some_iff.2 ⟨toList_verbatim t, quoteScan_double t.toList⟩

/-- It is cut into one piece. -/
theorem readTemplate_verbatim (t : String) :
    readTemplate true (String.ofList (escape true t.toList)) = .accept [.text t] := by
  have hcut : cutTemplate true [] (escape true t.toList) = plainPiece t.toList.reverse := by
    have hpieces : cutTemplate true [] (escape true t.toList ++ []) =
        cutTemplate true (t.toList.reverse ++ []) [] := cutTemplate_escape [] t.toList []
    rwa [List.append_nil, List.append_nil, cutTemplate_nil] at hpieces
  rw [readTemplate, String.toList_ofList, hcut]
  by_cases hempty : t.toList = []
  · obtain rfl : t = "" := String.toList_eq_nil_iff.1 hempty
    rfl
  · rw [plainPiece_reverse hempty]
    change Setup.accept [Part.text (String.ofList t.toList)] = _
    rw [String.ofList_toList]

/-- A text is shown as it was written. -/
theorem describe_verbatim (t : String) (debug : Bool) :
    (Expression.quoted [.text t]).describe debug = verbatim t := by
  rw [← String.toList_inj, toList_verbatim]
  simp [Expression.describe, Expression.describeParts, Expression.describePart, doubleString, escape]

/-- Its only value is the text, whatever a line can see. -/
theorem values_verbatim (t : String) (sight : Sight) (choose : Bool) :
    (Expression.quoted [.text t]).values sight choose = pure [.text t] := by
  rw [Expression.values, Expression.textOf, Expression.textOfPart, Expression.textOf, pure_bind,
    pure_bind, pure_bind, String.append_empty]

theorem constants?_verbatim (t : String) :
    (Expression.quoted [.text t]).constants? = some [.text t] := by
  simp [Expression.constants?, plainText?]

namespace Parsing

open Vocabulary

/-- **Every text can be written.** In quotes, with each quote and each percent sign in it twice, a
text is read for every slot that takes texts, without a word of complaint. It is a constant with the
text as its only value, and it is shown as it was written. -/
theorem parseWithin_verbatim (registry : Registry) {scope : Scope} {slot : Slot} {type : String}
    (hslot : type ∈ slot.types) (htype : scope.system.types.isAssignable textType type = true)
    (depth : Nat) (t : String) :
    (∃ content, unquote (verbatim t).toList = some content) ∧
    ∃ e, parseWithin registry scope (depth + 1) (verbatim t) slot = .ok e ∧
      e.constants? = some [.text t] ∧
      (∀ sight choose, e.values sight choose = pure [.text t]) ∧
      e.describe false = verbatim t := by
  refine ⟨⟨_, unquote_verbatim t⟩, .quoted [.text t], ?_, constants?_verbatim t, values_verbatim t,
    describe_verbatim t false⟩
  have hdirect : scope.system.acceptance? textType slot.types = some .direct :=
    if_pos (List.any_eq_true.2 ⟨type, hslot, htype⟩)
  have hparens : stripParens (verbatim t).toList = none := by
    rw [toList_verbatim]
    rfl
  have haccepted : acceptFor scope (verbatim t) slot (.quoted [.text t]) =
      .ok (.quoted [.text t]) := by
    rw [acceptFor, convertExpression?, Expression.returns, hdirect]
  have hsingle : parseSingle registry (parseWithin registry scope depth) scope (verbatim t) slot =
      .ok (.quoted [.text t]) := by
    rw [parseSingle, unquote_verbatim]
    simp only [readTemplate_verbatim]
    exact haccepted
  have honce : parseOnce registry (parseWithin registry scope depth) scope (verbatim t) slot =
      .ok (.quoted [.text t]) := by
    rw [parseOnce, hparens]
    simp only [hsingle]
    rfl
  have hdemanded : demandSingle scope (verbatim t) slot (.quoted [.text t]) =
      .ok (.quoted [.text t]) := by
    simp [demandSingle, Expression.isSingle]
  rw [parseWithin_of_ends (by decide) (by decide) (toList_verbatim t), honce]
  exact hdemanded

/-- A text with quotes and percent signs in a row. -/
def discount : String := "50% \"off\"%%\""

/-- A slot for one constant text. -/
def oneConstant : Slot := { Slot.one [textType] with literalOnly := true }

/-- Each of the signs is written twice, and the text is read back where a constant is asked for. -/
theorem parseWithin_verbatim_discount : ∃ registry, builtIn = .ok registry ∧
    textType ∈ oneConstant.types ∧
    (bareScope registry).system.types.isAssignable textType textType = true ∧
    verbatim discount = "\"50%% \"\"off\"\"%%%%\"\"\"" ∧
    ∃ e, parseExpression registry (bareScope registry) "\"50%% \"\"off\"\"%%%%\"\"\"" oneConstant =
        .ok e ∧
      e.constants? = some [.text discount] ∧
      e.describe false = "\"50%% \"\"off\"\"%%%%\"\"\"" := by
  obtain ⟨registry, hbuiltIn⟩ := exists_builtIn
  have hslot : textType ∈ oneConstant.types := List.mem_cons_self
  have htype : (bareScope registry).system.types.isAssignable textType textType = true :=
    TypeTable.isAssignable_refl _ _
  have hwritten : verbatim discount = "\"50%% \"\"off\"\"%%%%\"\"\"" := by decide
  obtain ⟨-, e, hread, hconstants, -, hshown⟩ :=
    parseWithin_verbatim registry hslot htype 63 discount
  rw [hwritten] at hread hshown
  exact ⟨registry, hbuiltIn, hslot, htype, hwritten, e, hread, hconstants, hshown⟩

end Parsing

end TriggerScript

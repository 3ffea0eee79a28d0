import TriggerScript.Proofs.Parsing.Legible

/-!
# Texts with expressions in them, read again

The expressions in a text are replaced by what is written down of them. That leaves the braces and
percent signs as they are, so the text is cut in the same places.

* `Fills` : a piece of a text and what is read of it.
* `result_readPieces_iff` : the pieces of a text are read one by one.
* `respell` : a text as it is written down.
* `respelled_of_readTemplate` : it is read again.
-/

namespace TriggerScript

open Text

/-- The piece of a text that is written down for a part. -/
def Part.piece : Part → Piece
  | .text s => .text s.toList
  | .expression e => .segment e.spelling

/-- The inside of a text as it is written down. -/
def respell (quoted : Bool) (parts : List Part) : List Char :=
  spellPieces quoted (parts.map Part.piece)

namespace Parsing

variable {scope : Scope} {read read' : Reader} {location : Option Location} {quoted : Bool}
  {pieces : List Piece} {part : Part} {parts : List Part}

/-! ### Reading pieces -/

/-- What is read of a piece. -/
inductive Fills (read : Reader) : Piece → Part → Prop
  | text (cs : List Char) : Fills read (.text cs) (.text (String.ofList cs))
  | segment {cs : List Char} {e : Expression}
    (h : (read (String.ofList cs) (.many [objectType])).result = some e) :
    Fills read (.segment cs) (.expression e)

/-- **The pieces of a text are read one by one.** -/
theorem result_readPieces_iff {whole : String} :
    (runSetup read location (readPieces whole pieces)).result = some parts ↔
      List.Forall₂ (Fills read) pieces parts := by
  induction pieces generalizing parts with
  | nil =>
    constructor
    · intro h
      cases h
      exact .nil
    · intro h
      cases h
      rfl
  | cons piece pieces ih =>
    cases piece with
    | text cs =>
      rw [readPieces, result_runSetup_map, Option.map_eq_some_iff]
      constructor
      · rintro ⟨rest, hrest, rfl⟩
        exact .cons (.text cs) (ih.1 hrest)
      · rintro h
        cases h with
        | cons hfirst hrest =>
        cases hfirst
        exact ⟨_, ih.2 hrest, rfl⟩
    | segment cs =>
      rw [readPieces, runSetup, Attempt.result_after]
      cases hread : (read (String.ofList cs) (.many [objectType])).result with
      | none =>
        constructor
        · intro h
          cases h
        · intro h
          cases h with
          | cons hfirst hrest =>
          cases hfirst with
          | segment h =>
          rw [hread] at h
          cases h
      | some e =>
        simp only [result_runSetup_map, Option.map_eq_some_iff]
        constructor
        · rintro ⟨rest, hrest, rfl⟩
          exact .cons (.segment hread) (ih.1 hrest)
        · intro h
          cases h with
          | cons hfirst hrest =>
          cases hfirst with
          | segment h =>
          rw [hread] at h
          cases h
          exact ⟨_, ih.2 hrest, rfl⟩
    | unclosed =>
      constructor
      · intro h
        cases h
      · intro h
        cases h with
        | cons hfirst _ => cases hfirst

theorem not_mem_unclosed (h : List.Forall₂ (Fills read) pieces parts) : .unclosed ∉ pieces := by
  induction h with
  | nil => simp
  | cons hfirst _ ih =>
    cases hfirst <;> simpa using ih

/-! ### What is written down -/

/-- Whether an expression can stand in a text, in quotes or not. -/
def FitsInto (scope : Scope) (quoted : Bool) (e : Expression) : Prop :=
  e.legible scope = true ∧ (quoted = true → '"' ∉ e.spelling)

theorem legibleParts_iff : Expression.legibleParts scope quoted parts = true ↔
    ∀ e, .expression e ∈ parts → FitsInto scope quoted e := by
  induction parts with
  | nil => simp [Expression.legibleParts]
  | cons part parts ih =>
    rw [Expression.legibleParts, Bool.and_eq_true, ih]
    cases part with
    | text s => simp [Expression.legiblePart]
    | expression e =>
      simp only [Expression.legiblePart, FitsInto, Bool.and_eq_true, Bool.not_eq_true',
        Bool.and_eq_false_iff, List.mem_cons, Part.expression.injEq, forall_eq_or_imp,
        List.contains_eq_mem, decide_eq_false_iff_not]
      cases quoted <;> simp

theorem respell_cons (part : Part) (parts : List Part) :
    respell quoted (part :: parts) = part.piece.spell quoted ++ respell quoted parts := rfl

theorem toList_describeParts (parts : List Part) :
    (Expression.describeParts false parts).toList = respell false parts := by
  induction parts with
  | nil => simp [Expression.describeParts, respell, spellPieces]
  | cons part parts ih =>
    rw [Expression.describeParts, String.toList_append, ih, respell_cons]
    congr 1
    cases part with
    | text s => simp [Expression.describePart, Part.piece, Piece.spell, escape, doubleString]
    | expression e =>
      simp [Expression.describePart, Part.piece, Piece.spell, Expression.spelling]

/-- In quotes the quotes of plain pieces are doubled, and expressions have none. -/
theorem double_respell (h : ∀ e, .expression e ∈ parts → '"' ∉ e.spelling) :
    double '"' (respell false parts) = respell true parts := by
  induction parts with
  | nil => rfl
  | cons part parts ih =>
    rw [respell_cons, respell_cons, double_append,
      ih fun e he => h e (List.mem_cons_of_mem _ he)]
    congr 1
    cases part with
    | text s => rfl
    | expression e =>
      refine double_of_not_mem ?_
      simpa [Part.piece, Piece.spell] using h e List.mem_cons_self

/-- What is written down of a piece, and read again. -/
inductive Refills (quoted : Bool) (read' : Reader) : Piece → Part → Prop
  | text (cs : List Char) : Refills quoted read' (.text cs) (.text (String.ofList cs))
  | segment {cs : List Char} {e : Expression} (hquote : quoted = true → '"' ∉ e.spelling)
    (hwritten : Written cs e.spelling)
    (hagain : ∃ e', (read' (e.describe false) (.many [objectType])).result = some e' ∧ Alike e e') :
    Refills quoted read' (.segment cs) (.expression e)

/-- Each expression in a text is written down so that it can be read again. -/
theorem forall₂_refills (hread : Renews scope read read')
    (hlegible : ∀ e, .expression e ∈ parts → FitsInto scope quoted e)
    (h : List.Forall₂ (Fills read) pieces parts) :
    List.Forall₂ (Refills quoted read') pieces parts := by
  induction h with
  | nil => exact .nil
  | cons hfirst _ ih =>
    refine .cons ?_ (ih fun e he => hlegible e (List.mem_cons_of_mem _ he))
    cases hfirst with
    | text cs => exact .text cs
    | @segment cs e h =>
      obtain ⟨he, hquote⟩ := hlegible e List.mem_cons_self
      obtain ⟨hwritten, -, hagain⟩ := hread h he
      rw [String.toList_ofList] at hwritten
      exact .segment hquote hwritten hagain

/-- Doubled percent signs come in pairs. -/
theorem even_count_escape (quoted : Bool) (cs : List Char) :
    Even ((escape quoted cs).count '%') := by
  induction cs with
  | nil =>
    rw [escape_nil]
    exact .zero
  | cons c cs ih =>
    rw [← List.singleton_append, escape_append, List.count_append]
    refine Even.add ?_ ih
    rw [escape_singleton]
    split
    · decide
    · next hpercent =>
      split
      · decide
      · simp [hpercent]

theorem count_eq_of_marks {xs ys : List Char} (h : marks xs = marks ys) :
    xs.count '%' = ys.count '%' := by
  have hmarks (cs : List Char) : (marks cs).count '%' = cs.count '%' :=
    List.count_filter (by decide)
  rw [← hmarks xs, h, hmarks]

section Respell

variable (h : List.Forall₂ (Refills quoted read') pieces parts)

include h

/-- The braces and percent signs stay as they are. -/
theorem marks_respell : marks (respell quoted parts) = marks (spellPieces quoted pieces) := by
  induction h with
  | nil => rfl
  | @cons piece part pieces parts hfirst _ ih =>
    rw [respell_cons, spellPieces, List.flatMap_cons, ← spellPieces, marks_append, marks_append, ih]
    congr 1
    cases hfirst with
    | text cs => rw [Part.piece, String.toList_ofList]
    | segment _ hwritten _ =>
      simp only [Part.piece, Piece.spell, List.cons_append, marks_append,
        marks_cons_of_isMark (show isMark '%' = true from rfl), hwritten.marks]

/-- Where nothing is quoted there is no line feed that was not there before. -/
theorem mem_of_mem_respell (hfeed : '\n' ∈ respell quoted parts) :
    '\n' ∈ spellPieces quoted pieces := by
  induction h with
  | nil => cases hfeed
  | @cons piece part pieces parts hfirst _ ih =>
    rw [respell_cons, List.mem_append] at hfeed
    rw [spellPieces, List.flatMap_cons, ← spellPieces, List.mem_append]
    refine hfeed.imp (fun hfeed => ?_) ih
    cases hfirst with
    | text cs => rwa [Part.piece, String.toList_ofList] at hfeed
    | segment _ hwritten _ =>
      simp only [Part.piece, Piece.spell, List.mem_append, List.mem_cons, List.not_mem_nil,
        or_false, Char.reduceEq, false_or] at hfeed ⊢
      exact hwritten.newline hfeed

/-- There are percent signs in pairs. -/
theorem even_count_respell : Even ((respell quoted parts).count '%') := by
  induction h with
  | nil => exact .zero
  | @cons piece part pieces parts hfirst _ ih =>
    rw [respell_cons, List.count_append]
    refine Even.add ?_ ih
    cases hfirst with
    | text cs =>
      rw [Part.piece, String.toList_ofList, Piece.spell]
      exact even_count_escape quoted cs
    | segment _ hwritten _ =>
      simp only [Part.piece, Piece.spell, List.cons_append, List.count_cons_self,
        List.count_append, List.count_nil, zero_add]
      exact (hwritten.even.add_one).add_one

/-- The expressions between percent signs have them in pairs themselves. -/
theorem even_count_of_mem {inside : List Char} (hinside : .segment inside ∈ pieces) :
    Even (inside.count '%') := by
  induction h with
  | nil => cases hinside
  | cons hfirst _ ih =>
    rcases List.mem_cons.1 hinside with rfl | hinside
    · cases hfirst with
      | segment _ hwritten _ => exact count_eq_of_marks hwritten.marks ▸ hwritten.even
    · exact ih hinside

/-- The pieces can be told apart again. -/
theorem proper_respell (hproper : Proper pieces) : Proper (parts.map Part.piece) := by
  induction h with
  | nil => exact .nil
  | @cons piece part pieces parts hfirst hrest ih =>
    rw [List.map_cons]
    cases hfirst with
    | text cs =>
      cases hproper with
      | text hne hnext hproper =>
      rw [Part.piece, String.toList_ofList]
      refine .text hne (fun cs' hhead => ?_) (ih hproper)
      cases hrest with
      | nil => cases hhead
      | cons hsecond _ =>
      cases hsecond with
      | text cs => exact hnext cs rfl
      | segment _ _ _ => cases hhead
    | segment _ hwritten _ =>
      cases hproper with
      | segment hne hsealed hproper =>
      refine .segment (ne_nil_of_leads hwritten.leads) ?_ (ih hproper)
      rw [← sealedFrom_marks, hwritten.marks, sealedFrom_marks, hsealed]

/-- In quotes the text is in order. -/
theorem quoteScan_respell (hquoted : quoted = true) :
    quoteScan .outside (respell quoted parts) = some .outside := by
  subst hquoted
  induction h with
  | nil => rfl
  | @cons piece part pieces parts hfirst _ ih =>
    rw [respell_cons, quoteScan_append]
    suffices hpart : quoteScan .outside (part.piece.spell true) = some .outside by
      rw [hpart]
      exact ih
    cases hfirst with
    | text cs =>
      rw [Part.piece, String.toList_ofList]
      exact quoteScan_double cs
    | @segment cs e hquote hwritten _ =>
      obtain ⟨state, hstate⟩ : ∃ state, quoteScan .embedded e.spelling = some state :=
        exists_quoteScan (hquote rfl) (by decide)
      obtain rfl := quoteScan_embedded hstate hwritten.even
      rw [Part.piece, Piece.spell, List.cons_append, quoteScan_cons, QuoteState.next?,
        Option.bind_some, if_pos rfl, quoteScan_append, hstate]
      rfl

/-- The expressions in it are read again. -/
theorem exists_fills_again : ∃ parts', List.Forall₂ (Fills read') (parts.map Part.piece) parts' ∧
    Expression.describeParts false parts' = Expression.describeParts false parts := by
  induction h with
  | nil => exact ⟨[], .nil, rfl⟩
  | @cons piece part pieces parts hfirst _ ih =>
    obtain ⟨parts', hparts', hdescribe⟩ := ih
    cases hfirst with
    | text cs =>
      refine ⟨.text (String.ofList cs) :: parts', ?_, ?_⟩
      · rw [List.map_cons, Part.piece, String.toList_ofList]
        exact .cons (.text cs) hparts'
      · rw [Expression.describeParts, Expression.describeParts, hdescribe]
    | @segment _ e _ _ hagain =>
      obtain ⟨e', hread, halike⟩ := hagain
      refine ⟨.expression e' :: parts', ?_, ?_⟩
      · refine .cons (.segment ?_) hparts'
        rwa [Expression.spelling, String.ofList_toList]
      · rw [Expression.describeParts, Expression.describeParts, hdescribe,
          Expression.describePart, Expression.describePart, halike.describe]

end Respell

/-! ### Whole texts -/

/-- A text with expressions in it is written down so that it is read again. -/
structure Respelled (quoted : Bool) (read' : Reader) (location : Option Location)
    (content spelled : List Char) (parts : List Part) : Prop where
  marks : TriggerScript.marks spelled = TriggerScript.marks content
  even : Even (spelled.count '%')
  newline : '\n' ∈ spelled → '\n' ∈ content
  ne_nil : content ≠ [] → spelled ≠ []
  scan : quoted = true → quoteScan .outside spelled = some .outside
  again : ∃ parts', (runSetup read' location
      (readTemplate quoted (String.ofList spelled))).result = some parts' ∧
    Expression.describeParts false parts' = Expression.describeParts false parts

theorem spellPieces_ne_nil (hproper : Proper pieces) (hne : pieces ≠ []) :
    spellPieces quoted pieces ≠ [] := by
  intro hnil
  have hcut : cutTemplate quoted [] (spellPieces quoted pieces) = pieces :=
    cutTemplate_spellPieces hproper
  rw [hnil, cutTemplate_nil] at hcut
  exact hne hcut.symm

/-- **What is written down of a text is read again.** -/
theorem respelled_of_readTemplate {content : String} (hread : Renews scope read read')
    (hscan : quoted = true → quoteScan .outside content.toList = some .outside)
    (h : (runSetup read location (readTemplate quoted content)).result = some parts)
    (hlegible : Expression.legibleParts scope quoted parts = true) :
    Respelled quoted read' location content.toList (respell quoted parts) parts := by
  rw [readTemplate, result_runSetup_map] at h
  obtain ⟨found, hfound, hparts⟩ := Option.map_eq_some_iff.1 h
  rw [result_readPieces_iff] at hfound
  have hclosed := not_mem_unclosed hfound
  have hspell (heven : ∀ inside, .segment inside ∈ cutTemplate quoted [] content.toList →
      Even (inside.count '%')) :
      spellPieces quoted (cutTemplate quoted [] content.toList) = content.toList := by
    rw [spellPieces_cutTemplate hclosed hscan fun _ => heven, List.reverse_nil, escape_nil,
      List.nil_append]
  by_cases hempty : found = []
  · -- An empty text is one empty piece.
    subst hempty
    obtain rfl : parts = [.text ""] := hparts.symm
    rw [List.forall₂_nil_right_iff.1 hfound] at hspell
    have hcontent : content.toList = [] := (hspell (by simp)).symm
    have hspelled : respell quoted [.text ""] = [] := by
      cases quoted <;> rfl
    rw [hspelled, hcontent]
    refine ⟨rfl, .zero, id, fun h => absurd rfl h, fun _ => rfl, [.text ""], ?_, rfl⟩
    rw [readTemplate, result_runSetup_map, String.toList_ofList, cutTemplate_nil]
    rfl
  · rw [if_neg (by simpa using hempty)] at hparts
    subst hparts
    have hrefills := forall₂_refills hread (legibleParts_iff.1 hlegible) hfound
    have hproper := proper_respell hrefills (proper_cutTemplate hclosed)
    have hspell := hspell fun _ => even_count_of_mem hrefills
    refine ⟨?_, even_count_respell hrefills, fun hfeed => ?_, fun _ => ?_,
      quoteScan_respell hrefills, ?_⟩
    · rw [marks_respell hrefills, hspell]
    · rw [← hspell]
      exact mem_of_mem_respell hrefills hfeed
    · exact spellPieces_ne_nil hproper (by simpa using hempty)
    · obtain ⟨parts', hparts', hdescribe⟩ := exists_fills_again hrefills
      refine ⟨parts', ?_, hdescribe⟩
      rw [readTemplate, result_runSetup_map, String.toList_ofList, respell,
        cutTemplate_spellPieces hproper, result_readPieces_iff.2 hparts', Option.map_some, if_neg]
      have hlength := hparts'.length_eq
      rw [List.isEmpty_iff]
      rintro rfl
      exact hempty (by simpa using hlength)

end Parsing

end TriggerScript

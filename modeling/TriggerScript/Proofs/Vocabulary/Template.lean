import TriggerScript.Proofs.Text.Quoting
import TriggerScript.Vocabulary.Template

/-!
# Cutting texts with expressions in them, and spelling them

Spelling the pieces of a text and cutting the text undo each other. Which percent signs end an
expression depends on the braces and percent signs of the text only.

* `marks` : the braces and percent signs of a text.
* `sealedFrom` : a text that can stand between percent signs.
* `segment?_eq_some_iff`, `sealedFrom_marks`, `braceDepth?_marks` : what the marks decide.
* `spellPieces` : pieces as a text.
* `Proper` : pieces that a text can be cut into.
* `cutTemplate_spellPieces`, `spellPieces_cutTemplate` : cutting and spelling undo each other.
-/

namespace TriggerScript

open Text

/-! ### Marks -/

/-- The characters by which texts with expressions in them are cut. -/
def isMark (c : Char) : Bool :=
  c == '{' || c == '}' || c == '%'

/-- The braces and percent signs of a text. -/
def marks (cs : List Char) : List Char :=
  cs.filter isMark

@[simp] theorem marks_nil : marks [] = [] := rfl

@[simp] theorem marks_append (xs ys : List Char) : marks (xs ++ ys) = marks xs ++ marks ys :=
  List.filter_append ..

theorem marks_cons_of_isMark {c : Char} (h : isMark c = true) (cs : List Char) :
    marks (c :: cs) = c :: marks cs :=
  List.filter_cons_of_pos h

theorem marks_cons_of_not {c : Char} (h : isMark c = false) (cs : List Char) :
    marks (c :: cs) = marks cs :=
  List.filter_cons_of_neg (by simp [h])

theorem marks_eq_nil {cs : List Char} (h : ∀ c ∈ cs, isMark c = false) : marks cs = [] :=
  List.filter_eq_nil_iff.2 fun c hc => by simp [h c hc]

/-- The depth of braces behind a character. -/
def depthBehind (depth : Int) (c : Char) : Int :=
  if c == '{' then depth + 1 else if c == '}' then depth - 1 else depth

theorem depthBehind_of_not_isMark {c : Char} (h : isMark c = false) (depth : Int) :
    depthBehind depth c = depth := by
  simp only [isMark, Bool.or_eq_false_iff] at h
  rw [depthBehind, h.1.1, h.1.2]
  rfl

/-- A text behind which an expression between percent signs may end, but not before: it begins at a
depth of braces, no percent sign in it stands outside of braces, and none is open at its end. -/
def sealedFrom (depth : Int) : List Char → Bool
  | [] => depth ≤ 0
  | c :: rest => !(c == '%' && depth ≤ 0) && sealedFrom (depthBehind depth c) rest

/-- An expression ends at the first percent sign outside of braces. -/
theorem segment?_eq_some_iff {depth : Int} {cs inside after : List Char} :
    segment? depth cs = some (inside, after) ↔
      cs = inside ++ '%' :: after ∧ sealedFrom depth inside = true := by
  induction cs generalizing depth inside with
  | nil => simp [segment?]
  | cons c cs ih =>
    rw [segment?]
    by_cases hend : (c == '%' && depth ≤ 0) = true
    · rw [if_pos hend]
      simp only [Bool.and_eq_true, beq_iff_eq, decide_eq_true_eq] at hend
      obtain ⟨rfl, hdepth⟩ := hend
      constructor
      · rintro h
        cases h
        exact ⟨rfl, by simpa [sealedFrom] using hdepth⟩
      · rintro ⟨heq, hsealed⟩
        cases inside with
        | nil =>
          cases heq
          rfl
        | cons d inside =>
          cases heq
          simp [sealedFrom, hdepth] at hsealed
    · rw [if_neg hend, Option.map_eq_some_iff]
      constructor
      · rintro ⟨⟨inside', after'⟩, h, heq⟩
        cases heq
        obtain ⟨rfl, hsealed⟩ := ih.1 h
        exact ⟨rfl, by
          rw [sealedFrom, Bool.eq_false_iff.2 hend]
          exact hsealed⟩
      · rintro ⟨heq, hsealed⟩
        cases inside with
        | nil =>
          cases heq
          exact absurd (by simpa [sealedFrom] using hsealed) hend
        | cons d inside =>
          cases heq
          rw [sealedFrom, Bool.and_eq_true] at hsealed
          exact ⟨(inside, after), ih.2 ⟨rfl, hsealed.2⟩, rfl⟩

/-- Whether a text can stand between percent signs depends on its marks. -/
theorem sealedFrom_marks (depth : Int) (cs : List Char) :
    sealedFrom depth (marks cs) = sealedFrom depth cs := by
  induction cs generalizing depth with
  | nil => rfl
  | cons c cs ih =>
    cases hmark : isMark c with
    | true => rw [marks_cons_of_isMark hmark, sealedFrom, sealedFrom, ih]
    | false =>
      have hpercent : (c == '%') = false := (Bool.or_eq_false_iff.1 hmark).2
      rw [marks_cons_of_not hmark, sealedFrom, ih, depthBehind_of_not_isMark hmark, hpercent]
      rfl

/-- Whether braces pair up depends on the marks of a text. -/
theorem braceDepth?_marks (depth : Nat) (cs : List Char) :
    braceDepth? depth (marks cs) = braceDepth? depth cs := by
  induction cs generalizing depth with
  | nil => rfl
  | cons c cs ih =>
    cases hmark : isMark c with
    | true =>
      rw [marks_cons_of_isMark hmark]
      simp only [braceDepth?, ih]
    | false =>
      simp only [isMark, Bool.or_eq_false_iff] at hmark
      rw [marks_cons_of_not (by simp [isMark, hmark]), ih]
      simp [braceDepth?, hmark]

/-! ### Spelling -/

/-- Plain characters as they are written in a text with expressions. -/
def escape (quoted : Bool) (cs : List Char) : List Char :=
  if quoted then double '"' (double '%' cs) else double '%' cs

/-- A piece as it is written. -/
def Piece.spell (quoted : Bool) : Piece → List Char
  | .text cs => escape quoted cs
  | .segment cs => '%' :: cs ++ ['%']
  | .unclosed => ['%']

/-- Pieces as they are written. -/
def spellPieces (quoted : Bool) (pieces : List Piece) : List Char :=
  pieces.flatMap (Piece.spell quoted)

/-- Pieces that a text can be cut into: none is empty, no two plain ones are next to each other, and
expressions can stand between percent signs. -/
inductive Proper : List Piece → Prop where
  | nil : Proper []
  | text {cs : List Char} {rest : List Piece} (hne : cs ≠ [])
      (hnext : ∀ cs', rest.head? ≠ some (.text cs')) (hrest : Proper rest) :
      Proper (.text cs :: rest)
  | segment {cs : List Char} {rest : List Piece} (hne : cs ≠ []) (hsealed : sealedFrom 0 cs = true)
      (hrest : Proper rest) : Proper (.segment cs :: rest)

theorem escape_nil (quoted : Bool) : escape quoted [] = [] := by
  cases quoted <;> rfl

theorem escape_append (quoted : Bool) (xs ys : List Char) :
    escape quoted (xs ++ ys) = escape quoted xs ++ escape quoted ys := by
  cases quoted <;> simp [escape, double_append]

/-- How one plain character is written. -/
theorem escape_singleton (quoted : Bool) (c : Char) :
    escape quoted [c] =
      if c = '%' then ['%', '%'] else if quoted && c == '"' then ['"', '"'] else [c] := by
  cases quoted <;> by_cases hpercent : c = '%' <;> by_cases hquote : c = '"' <;>
    simp [escape, double_cons, double, hpercent, hquote]

/-! ### Cutting -/

section Cut

variable {quoted : Bool} {text rest : List Char}

@[simp] theorem cutTemplate_nil : cutTemplate quoted text [] = plainPiece text := by
  rw [cutTemplate.eq_def]

theorem cutTemplate_percent :
    cutTemplate quoted text ('%' :: '%' :: rest) = cutTemplate quoted ('%' :: text) rest := by
  rw [cutTemplate.eq_def]
  simp

theorem cutTemplate_quote :
    cutTemplate true text ('"' :: rest) = cutTemplate true ('"' :: text) (rest.drop 1) := by
  rw [cutTemplate.eq_def]
  simp

theorem cutTemplate_plain {c : Char} (hpercent : c ≠ '%') (hquote : (quoted && c == '"') = false) :
    cutTemplate quoted text (c :: rest) = cutTemplate quoted (c :: text) rest := by
  rw [cutTemplate.eq_def]
  simp [hquote, hpercent]

theorem cutTemplate_segment {inside after : List Char} (hnext : rest.head? ≠ some '%')
    (h : segment? 0 rest = some (inside, after)) :
    cutTemplate quoted text ('%' :: rest) =
      plainPiece text ++ .segment inside :: cutTemplate quoted [] after := by
  rw [cutTemplate.eq_def]
  simp only [beq_self_eq_true, Bool.and_eq_true, beq_iff_eq, Char.reduceEq, and_false, if_false,
    if_true, if_neg hnext]
  split
  · next hnone => rw [h] at hnone; cases hnone
  · next inside' after' hsome =>
    rw [h] at hsome
    cases hsome
    rfl

theorem cutTemplate_unclosed (hnext : rest.head? ≠ some '%') (h : segment? 0 rest = none) :
    cutTemplate quoted text ('%' :: rest) = plainPiece text ++ [.unclosed] := by
  rw [cutTemplate.eq_def]
  simp only [beq_self_eq_true, Bool.and_eq_true, beq_iff_eq, Char.reduceEq, and_false, if_false,
    if_true, if_neg hnext]
  split
  · rfl
  · next hsome => rw [h] at hsome; cases hsome

/-- Plain characters are taken one by one. -/
theorem cutTemplate_escape (text cs rest : List Char) :
    cutTemplate quoted text (escape quoted cs ++ rest) =
      cutTemplate quoted (cs.reverse ++ text) rest := by
  induction cs generalizing text with
  | nil => rw [escape_nil]; rfl
  | cons c cs ih =>
    have hone (rest : List Char) : cutTemplate quoted text (escape quoted [c] ++ rest) =
        cutTemplate quoted (c :: text) rest := by
      rw [escape_singleton]
      by_cases hpercent : c = '%'
      · subst hpercent
        exact cutTemplate_percent
      rw [if_neg hpercent]
      split
      · next hquote =>
        rw [Bool.and_eq_true, beq_iff_eq] at hquote
        obtain ⟨rfl, rfl⟩ := hquote
        exact cutTemplate_quote
      · next hquote => exact cutTemplate_plain hpercent (by simpa using hquote)
    rw [← List.singleton_append, escape_append, List.append_assoc, hone, ih]
    simp

theorem plainPiece_reverse {cs : List Char} (h : cs ≠ []) : plainPiece cs.reverse = [.text cs] := by
  simp [plainPiece, h]

theorem head?_ne_percent {cs after : List Char} (hne : cs ≠ [])
    (hsealed : sealedFrom 0 cs = true) : (cs ++ after).head? ≠ some '%' := by
  cases cs with
  | nil => exact absurd rfl hne
  | cons c cs =>
    rw [List.cons_append, List.head?_cons]
    rintro h
    cases h
    simp [sealedFrom] at hsealed

/-- Plain characters that were read before make up the first piece. -/
theorem cutTemplate_spellPieces_behind {pieces : List Piece} (h : Proper pieces) (text : List Char)
    (hnext : text ≠ [] → ∀ cs, pieces.head? ≠ some (.text cs)) :
    cutTemplate quoted text (spellPieces quoted pieces) = plainPiece text ++ pieces := by
  induction h generalizing text with
  | nil => simp [spellPieces]
  | @text cs rest hne hrest _ ih =>
    obtain rfl : text = [] := by
      by_contra htext
      exact hnext htext cs rfl
    rw [spellPieces, List.flatMap_cons, Piece.spell, cutTemplate_escape, List.append_nil]
    rw [← spellPieces, ih cs.reverse fun _ => hrest, plainPiece_reverse hne]
    rfl
  | @segment cs rest hne hsealed _ ih =>
    have hcut : segment? 0 (cs ++ '%' :: spellPieces quoted rest) =
        some (cs, spellPieces quoted rest) := segment?_eq_some_iff.2 ⟨rfl, hsealed⟩
    rw [spellPieces, List.flatMap_cons, Piece.spell, ← spellPieces, List.cons_append,
      List.cons_append, List.append_assoc, List.singleton_append]
    rw [cutTemplate_segment (head?_ne_percent hne hsealed) hcut, ih [] fun h => absurd rfl h]
    rfl

/-- **Cutting what is spelled yields the pieces again.** -/
theorem cutTemplate_spellPieces {pieces : List Piece} (h : Proper pieces) :
    cutTemplate quoted [] (spellPieces quoted pieces) = pieces :=
  cutTemplate_spellPieces_behind h [] fun h => absurd rfl h

theorem spellPieces_plainPiece (text : List Char) :
    spellPieces quoted (plainPiece text) = escape quoted text.reverse := by
  cases text with
  | nil => rw [List.reverse_nil, escape_nil]; rfl
  | cons c text => simp [plainPiece, spellPieces, Piece.spell]

theorem proper_plainPiece (text : List Char) {rest : List Piece} (hrest : Proper rest)
    (hnext : ∀ cs, rest.head? ≠ some (.text cs)) : Proper (plainPiece text ++ rest) := by
  cases text with
  | nil => exact hrest
  | cons c text => exact .text (by simp) hnext hrest

/-- A text is cut into proper pieces, unless a percent sign is left without a partner. -/
theorem proper_cutTemplate {text cs : List Char}
    (hclosed : .unclosed ∉ cutTemplate quoted text cs) : Proper (cutTemplate quoted text cs) := by
  fun_induction cutTemplate quoted text cs with
  | case1 text => simpa using proper_plainPiece text .nil (by simp)
  | case2 text c rest _ ih => exact ih hclosed
  | case3 text c rest _ _ _ ih => exact ih hclosed
  | case4 text c rest _ _ _ _ => exact absurd (by simp) hclosed
  | case5 text c rest _ _ hnext inside after hsegment _ ih =>
    obtain ⟨rfl, hsealed⟩ := segment?_eq_some_iff.1 hsegment
    have hne : inside ≠ [] := by
      rintro rfl
      exact hnext rfl
    refine proper_plainPiece text (.segment hne hsealed (ih fun h => hclosed ?_)) (by simp)
    simp [h]
  | case6 text c rest _ _ ih => exact ih hclosed

/-- **What a text is cut into spells the text again.** Inside quotes the text has to be in order, and
the expressions in it have percent signs in pairs. -/
theorem spellPieces_cutTemplate {text cs : List Char}
    (hclosed : .unclosed ∉ cutTemplate quoted text cs)
    (hscan : quoted = true → quoteScan .outside cs = some .outside)
    (heven : quoted = true → ∀ inside, .segment inside ∈ cutTemplate quoted text cs →
      Even (inside.count '%')) :
    spellPieces quoted (cutTemplate quoted text cs) = escape quoted text.reverse ++ cs := by
  have hescape (text : List Char) (c : Char) :
      escape quoted (c :: text).reverse = escape quoted text.reverse ++ escape quoted [c] := by
    rw [List.reverse_cons, escape_append]
  fun_induction cutTemplate quoted text cs with
  | case1 text => rw [spellPieces_plainPiece, List.append_nil]
  | case2 text c rest hquote ih =>
    rw [Bool.and_eq_true, beq_iff_eq] at hquote
    obtain ⟨rfl, rfl⟩ := hquote
    -- In a text that is in order the next character is a quote too.
    obtain ⟨rest, rfl, hrest⟩ : ∃ after, rest = '"' :: after ∧
        quoteScan .outside after = some .outside := by
      have := hscan rfl
      cases rest with
      | nil => simp [quoteScan_cons, QuoteState.next?] at this
      | cons d rest =>
        by_cases hd : d = '"'
        · subst hd
          exact ⟨rest, rfl, this⟩
        · simp [quoteScan_cons, QuoteState.next?, hd] at this
    rw [ih hclosed (fun _ => hrest) heven, hescape, List.append_assoc]
    rfl
  | case3 text c rest _ hpercent hnext ih =>
    obtain rfl : c = '%' := by simpa using hpercent
    obtain ⟨rest, rfl⟩ : ∃ after, rest = '%' :: after := by
      cases rest with
      | nil => simp at hnext
      | cons d rest => exact ⟨rest, by simpa using hnext⟩
    rw [ih hclosed (fun hquoted => by simpa [quoteScan_cons, QuoteState.next?] using hscan hquoted)
      heven, hescape, List.append_assoc, escape_singleton]
    rfl
  | case4 text c rest _ _ _ _ => exact absurd (by simp) hclosed
  | case5 text c rest _ hpercent hnext inside after hsegment _ ih =>
    obtain rfl : c = '%' := by simpa using hpercent
    obtain ⟨rfl, -⟩ := segment?_eq_some_iff.1 hsegment
    have hafter : quoted = true → quoteScan .outside after = some .outside := by
      intro hquoted
      have hscan := hscan hquoted
      rw [quoteScan_cons] at hscan
      obtain ⟨state, hinside, hrest⟩ : ∃ state, quoteScan .embedded inside = some state ∧
          quoteScan state ('%' :: after) = some .outside := by
        rw [← Option.bind_eq_some_iff, ← quoteScan_append]
        exact hscan
      obtain rfl := quoteScan_embedded hinside (heven hquoted inside (by simp))
      exact hrest
    have hspell : spellPieces quoted (plainPiece text ++ .segment inside ::
        cutTemplate quoted [] after) = escape quoted text.reverse ++ ('%' :: inside ++ ['%'] ++
          spellPieces quoted (cutTemplate quoted [] after)) := by
      rw [← spellPieces_plainPiece]
      simp [spellPieces, Piece.spell]
    rw [hspell, ih (fun h => hclosed (by simp [h])) hafter
      (fun hquoted inside hmem => heven hquoted inside (by simp [hmem])), List.reverse_nil,
      escape_nil]
    simp
  | case6 text c rest hquote hpercent ih =>
    have hc : c ≠ '%' := by simpa using hpercent
    have hplain : escape quoted [c] = [c] := by
      rw [escape_singleton, if_neg hc, if_neg hquote]
    have hrest : quoted = true → quoteScan .outside rest = some .outside := by
      intro hquoted
      have hd : c ≠ '"' := by simpa [hquoted] using hquote
      simpa [quoteScan_cons, QuoteState.next?, hc, hd] using hscan hquoted
    rw [ih hclosed hrest heven, hescape, hplain, List.append_assoc]
    rfl

end Cut

end TriggerScript

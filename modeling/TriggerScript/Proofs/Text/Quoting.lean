import TriggerScript.Text.Quoted
import Mathlib.Algebra.Group.Nat.Even
import Mathlib.Data.List.Basic

/-!
# Quoted texts, character by character

Whether the inside of a quoted text is in order can be told by a machine that reads one character
after the other. Percent signs take it into an embedded part and out of it again, so the number of
percent signs tells where it is.

* `QuoteState`, `quoteScan` : the machine.
* `wellQuoted_iff` : it accepts the insides of quoted texts.
* `quoteScan_parity` : inside or outside an embedded part, by the number of percent signs.
* `quoteScan_double` : doubled characters are outside.
* `unquote_eq_some_iff` : a quoted text stands between quotes, and its inside is in order.
-/

namespace TriggerScript.Text

/-- Where the reader of a quoted text is: outside of embedded parts, behind a quote that has to be
followed by another one, or in an embedded part. -/
inductive QuoteState where
  | outside
  | half
  | embedded
  deriving DecidableEq

namespace QuoteState

/-- The state behind a character, if the character may stand there. -/
def next? : QuoteState → Char → Option QuoteState
  | outside, c => some (if c = '%' then embedded else if c = '"' then half else outside)
  | half, c => if c = '"' then some outside else none
  | embedded, c => some (if c = '%' then outside else embedded)

/-- One within an embedded part, and zero outside. -/
def parity : QuoteState → Nat
  | outside => 0
  | half => 0
  | embedded => 1

end QuoteState

open QuoteState

/-- The state behind a text. -/
def quoteScan (state : QuoteState) : List Char → Option QuoteState
  | [] => some state
  | c :: rest => (state.next? c).bind fun state => quoteScan state rest

@[simp] theorem quoteScan_nil (state : QuoteState) : quoteScan state [] = some state := rfl

theorem quoteScan_cons (state : QuoteState) (c : Char) (rest : List Char) :
    quoteScan state (c :: rest) = (state.next? c).bind fun state => quoteScan state rest := rfl

theorem quoteScan_append (state : QuoteState) (xs ys : List Char) :
    quoteScan state (xs ++ ys) = (quoteScan state xs).bind fun state => quoteScan state ys := by
  induction xs generalizing state with
  | nil => rfl
  | cons c xs ih =>
    rw [List.cons_append, quoteScan_cons, quoteScan_cons, Option.bind_assoc]
    exact Option.bind_congr fun state _ => ih state

/-- **The machine accepts the insides of quoted texts.** -/
theorem wellQuoted_iff (inPart : Bool) (cs : List Char) :
    wellQuoted inPart cs = true ↔
      quoteScan (if inPart then embedded else outside) cs = some outside := by
  fun_induction wellQuoted inPart cs with
  | case1 inPart => cases inPart <;> simp
  | case2 rest ih => simpa [quoteScan_cons, next?] using ih
  | case3 inPart rest h ih =>
    obtain rfl : inPart = false := by simpa using h
    simpa [quoteScan_cons, next?] using ih
  | case4 inPart rest h ih => cases inPart <;> simpa [quoteScan_cons, next?] using ih
  | case5 rest ih => simpa [quoteScan_cons, next?] using ih
  | case6 inPart rest h ih =>
    obtain rfl : inPart = false := by simpa using h
    simpa [quoteScan_cons, next?] using ih
  | case7 rest h ih => simpa [quoteScan_cons, next?] using ih
  | case8 inPart rest h hpart =>
    obtain rfl : inPart = false := by simpa using hpart
    cases rest with
    | nil => simp [quoteScan_cons, next?]
    | cons c rest =>
      have hc : c ≠ '"' := by
        rintro rfl
        exact h rest rfl
      simp [quoteScan_cons, next?, hc]
  | case9 inPart c rest _ hpercent _ hquote ih =>
    have hpercent : c ≠ '%' := hpercent
    have hquote : c ≠ '"' := hquote
    cases inPart <;> simpa [quoteScan_cons, next?, hpercent, hquote] using ih

/-- Percent signs take the machine into an embedded part and out of it. -/
theorem quoteScan_parity {state state' : QuoteState} {cs : List Char}
    (h : quoteScan state cs = some state') :
    state'.parity = (state.parity + cs.count '%') % 2 := by
  induction cs generalizing state with
  | nil =>
    cases h
    cases state' <;> rfl
  | cons c cs ih =>
    rw [quoteScan_cons] at h
    obtain ⟨middle, hmiddle, h⟩ := Option.bind_eq_some_iff.1 h
    have hstep : middle.parity = (state.parity + if c = '%' then 1 else 0) % 2 := by
      cases state with
      | outside =>
        cases hmiddle
        repeat' split
        all_goals rfl
      | half =>
        simp only [next?] at hmiddle
        split at hmiddle
        · next hc =>
          cases hmiddle
          subst hc
          rfl
        · cases hmiddle
      | embedded =>
        cases hmiddle
        split <;> rfl
    rw [ih h, hstep, List.count_cons, Nat.mod_add_mod, Nat.add_assoc, Nat.add_comm (cs.count '%')]
    simp only [beq_iff_eq]

theorem eq_embedded_iff {state : QuoteState} : state = embedded ↔ state.parity = 1 := by
  cases state <;> simp [parity]

/-- A text with an even number of percent signs leads from an embedded part back to it. -/
theorem quoteScan_embedded {cs : List Char} {state : QuoteState}
    (h : quoteScan embedded cs = some state) (heven : Even (cs.count '%')) : state = embedded := by
  rw [eq_embedded_iff, quoteScan_parity h, Nat.add_mod, Nat.even_iff.1 heven]
  rfl

/-- Where no quote stands, nothing has to follow one. -/
theorem exists_quoteScan {cs : List Char} (hquote : '"' ∉ cs) {state : QuoteState}
    (hstate : state ≠ half) : ∃ state', quoteScan state cs = some state' := by
  induction cs generalizing state with
  | nil => exact ⟨state, rfl⟩
  | cons c cs ih =>
    rw [List.mem_cons, not_or] at hquote
    have hc : c ≠ '"' := Ne.symm hquote.1
    obtain ⟨middle, hmiddle, hne⟩ : ∃ middle, state.next? c = some middle ∧ middle ≠ half := by
      cases state with
      | outside =>
        refine ⟨_, rfl, ?_⟩
        rw [if_neg hc]
        split <;> simp
      | half => exact absurd rfl hstate
      | embedded =>
        refine ⟨_, rfl, ?_⟩
        split <;> simp
    rw [quoteScan_cons, hmiddle]
    exact ih hquote.2 hne

/-! ### Doubled characters -/

theorem double_cons (mark c : Char) (cs : List Char) :
    double mark (c :: cs) = (if c = mark then [mark, mark] else [c]) ++ double mark cs := by
  rw [double]
  by_cases h : c = mark <;> simp [h]

theorem double_append (mark : Char) (xs ys : List Char) :
    double mark (xs ++ ys) = double mark xs ++ double mark ys := by
  induction xs with
  | nil => rfl
  | cons c xs ih => rw [List.cons_append, double_cons, double_cons, ih, List.append_assoc]

theorem double_of_not_mem {mark : Char} {cs : List Char} (h : mark ∉ cs) : double mark cs = cs := by
  induction cs with
  | nil => rfl
  | cons c cs ih =>
    rw [List.mem_cons, not_or] at h
    rw [double_cons, if_neg (Ne.symm h.1), ih h.2]
    rfl

/-- Doubled percent signs and quotes are no parts of anything else. -/
theorem quoteScan_double (cs : List Char) :
    quoteScan outside (double '"' (double '%' cs)) = some outside := by
  induction cs with
  | nil => rfl
  | cons c cs ih =>
    rw [double_cons, double_append, quoteScan_append]
    by_cases hpercent : c = '%'
    · subst hpercent
      exact ih
    rw [if_neg hpercent, double_cons]
    by_cases hquote : c = '"'
    · subst hquote
      exact ih
    · rw [if_neg hquote]
      simpa [double, quoteScan_cons, next?, hpercent, hquote] using ih

/-- A quoted text stands between quotes, and its inside is in order. -/
theorem unquote_eq_some_iff {cs content : List Char} :
    unquote cs = some content ↔
      cs = '"' :: content ++ ['"'] ∧ quoteScan outside content = some outside := by
  have hinside (content : List Char) :
      wellQuoted false content = true ↔ quoteScan outside content = some outside :=
    wellQuoted_iff false content
  constructor
  · intro h
    unfold unquote at h
    split at h
    · next rest =>
      split at h
      · next hrest =>
        cases h
        rw [Bool.and_eq_true, beq_iff_eq] at hrest
        obtain ⟨init, rfl⟩ := List.getLast?_eq_some_iff.1 hrest.1
        rw [List.dropLast_concat] at hrest ⊢
        exact ⟨rfl, (hinside init).1 hrest.2⟩
      · cases h
    · cases h
  · rintro ⟨rfl, h⟩
    rw [List.cons_append, unquote, List.getLast?_concat, List.dropLast_concat, (hinside content).2 h]
    rfl

end TriggerScript.Text

import Mathlib.Data.List.Basic
import TriggerScript.Text.Brackets

/-!
# The parentheses around a text

Parentheses count where they stand outside quotes. A text is taken out of the parentheses around it
if the last one closes the first; what is not seen to is whether a quote is still open there, in
which case the last parenthesis closes nothing.

* `inQuote`, `openAt` : whether a place is inside a quote, and how many parentheses are open there.
* `ClosesFirst` : the parenthesis that a text starts with is closed at a place.
* `LeftQuoted` : at a place only the first parenthesis is open, and a quote.
* `closes_step`, `closes_iff` : what is found out about the text between the two parentheses.
* `stripParens_eq_some_iff` : when a text is taken out of its parentheses.
-/

namespace TriggerScript.Text

/-! ### Places in a text -/

/-- Whether a place is inside a quote: an odd number of quotation marks stands before it. -/
def inQuote (cs : List Char) (i : Nat) : Bool :=
  (cs.take i).count '"' % 2 == 1

/-- How often a character stands outside quotes before a place. -/
def bareCount (cs : List Char) (c : Char) (i : Nat) : Nat :=
  (List.range i).countP fun j => cs[j]? == some c && !inQuote cs j

/-- How many more parentheses are opened than closed before a place, quotes aside. -/
def openAt (cs : List Char) (i : Nat) : Int :=
  bareCount cs '(' i - bareCount cs ')' i

/-- The parenthesis at the start of a text is closed at a place and not before. -/
structure ClosesFirst (cs : List Char) (i : Nat) : Prop where
  closing : cs[i]? = some ')'
  bare : inQuote cs i = false
  before : ∀ j, 0 < j → j ≤ i → 0 < openAt cs j
  after : openAt cs (i + 1) = 0

/-- At a place the first parenthesis is still open, and no other one, but a quote is open too. -/
structure LeftQuoted (cs : List Char) (i : Nat) : Prop where
  quoted : inQuote cs i = true
  before : ∀ j, 0 < j → j ≤ i → 0 < openAt cs j
  at_place : openAt cs i = 1

@[simp] theorem inQuote_zero (cs : List Char) : inQuote cs 0 = false := rfl

@[simp] theorem openAt_zero (cs : List Char) : openAt cs 0 = 0 := rfl

/-- A quotation mark opens or closes a quote. -/
theorem inQuote_succ {cs : List Char} {i : Nat} {c : Char} (h : cs[i]? = some c) :
    inQuote cs (i + 1) = if c = '"' then !inQuote cs i else inQuote cs i := by
  rw [inQuote, inQuote, List.take_add_one, h, Option.toList_some, List.count_append]
  by_cases hc : c = '"'
  · subst hc
    rw [if_pos rfl, List.count_singleton_self]
    obtain heven | hodd := Nat.mod_two_eq_zero_or_one ((cs.take i).count '"')
    · simp [Nat.add_mod, heven]
    · simp [Nat.add_mod, hodd]
  · rw [if_neg hc, List.count_singleton, if_neg (by simpa using hc), Nat.add_zero]

theorem bareCount_succ {cs : List Char} {i : Nat} {c : Char} (h : cs[i]? = some c) (d : Char) :
    bareCount cs d (i + 1) =
      bareCount cs d i + if c = d ∧ inQuote cs i = false then 1 else 0 := by
  rw [bareCount, List.range_succ, List.countP_append, ← bareCount, List.countP_singleton, h]
  simp

/-- In quotes no parenthesis counts. -/
theorem openAt_succ_of_quoted {cs : List Char} {i : Nat} {c : Char} (h : cs[i]? = some c)
    (hquoted : inQuote cs i = true) : openAt cs (i + 1) = openAt cs i := by
  simp [openAt, bareCount_succ h, hquoted]

theorem openAt_succ_of_bare {cs : List Char} {i : Nat} {c : Char} (h : cs[i]? = some c)
    (hbare : inQuote cs i = false) :
    openAt cs (i + 1) = openAt cs i + if c = '(' then 1 else if c = ')' then -1 else 0 := by
  simp only [openAt, bareCount_succ h, hbare, and_true]
  by_cases hopen : c = '('
  · simp [hopen]
    omega
  · by_cases hclose : c = ')'
    · simp [hclose]
      omega
    · simp [hopen, hclose]

/-! ### Reading on -/

/-- **What one character does.** Reading goes on behind it as long as the first parenthesis is still
open there. -/
theorem closes_step {cs : List Char} {i depth : Nat} {c : Char} (h : cs[i]? = some c)
    (hopenAt : openAt cs i = depth + 1) (rest : List Char) :
    closes depth (inQuote cs i) (c :: rest) = true ↔
      ∃ next : Nat, openAt cs (i + 1) = next + 1 ∧
        closes next (inQuote cs (i + 1)) rest = true := by
  have honly {n : Nat} (hn : openAt cs (i + 1) = n + 1) (quoted : Bool) :
      closes n quoted rest = true ↔
        ∃ next : Nat, openAt cs (i + 1) = next + 1 ∧ closes next quoted rest = true :=
    ⟨fun hcloses => ⟨n, hn, hcloses⟩, fun ⟨next, hnext, hcloses⟩ => by
      obtain rfl : next = n := by omega
      exact hcloses⟩
  have hquote := inQuote_succ h
  cases hquoted : inQuote cs i with
  | true =>
    rw [hquoted] at hquote
    have hread : closes depth true (c :: rest) = closes depth (c != '"') rest := by simp [closes]
    rw [← honly ((openAt_succ_of_quoted h hquoted).trans hopenAt), hquote, hread]
    by_cases hmark : c = '"'
    · simp [hmark]
    · rw [if_neg hmark, bne_iff_ne.2 hmark]
  | false =>
    have hstep := openAt_succ_of_bare h hquoted
    rw [hquoted] at hquote
    rw [hopenAt] at hstep
    by_cases hmark : c = '"'
    · rw [← honly (by simpa [hmark] using hstep), hquote]
      simp [closes, hmark]
    rw [if_neg hmark] at hquote
    by_cases hopen : c = '('
    · rw [← honly (n := depth + 1) (by simpa [hopen] using hstep), hquote]
      simp [closes, hopen]
    by_cases hclose : c = ')'
    · cases depth with
      | zero =>
        -- This closes the first parenthesis itself.
        have hclosed : openAt cs (i + 1) = 0 := by simpa [hclose] using hstep
        have hfails : closes 0 false (c :: rest) = false := by simp [closes, hclose]
        rw [hfails]
        exact ⟨nofun, fun ⟨next, hnext, _⟩ => by omega⟩
      | succ depth =>
        have hclosed : openAt cs (i + 1) = depth + 1 := by
          rw [hstep, if_neg hopen, if_pos hclose]
          omega
        rw [← honly hclosed, hquote]
        simp [closes, hclose]
    · rw [← honly (by simpa [hopen, hclose] using hstep), hquote]
      simp [closes, hmark, hopen, hclose]

/-- From the place `i` to the place `k` the first parenthesis stays open, and at `k` no other one
is. -/
def StaysOpen (cs : List Char) (i k : Nat) : Prop :=
  (∀ j, i ≤ j → j ≤ k → 0 < openAt cs j) ∧ openAt cs k = 1

theorem staysOpen_self {cs : List Char} {i : Nat} : StaysOpen cs i i ↔ openAt cs i = 1 := by
  refine ⟨And.right, fun h => ⟨fun j hij hji => ?_, h⟩⟩
  rw [Nat.le_antisymm hji hij, h]
  exact Int.one_pos

theorem staysOpen_succ {cs : List Char} {i k : Nat} (hopen : 0 < openAt cs i) :
    StaysOpen cs i k ↔ StaysOpen cs (i + 1) k := by
  constructor
  · rintro ⟨hall, hend⟩
    exact ⟨fun j hj => hall j (Nat.le_of_succ_le hj), hend⟩
  · rintro ⟨hall, hend⟩
    refine ⟨fun j hij hjk => ?_, hend⟩
    obtain rfl | hlt := Nat.eq_or_lt_of_le hij
    · exact hopen
    · exact hall j hlt hjk

/-- What is found out about a part of a text that begins `depth` parentheses deep inside the first
one: whether that stays open up to the end of the part, and the others are closed there. -/
theorem closes_iff {cs front part back : List Char} {depth : Nat} (hcs : cs = front ++ part ++ back)
    (hopenAt : openAt cs front.length = depth + 1) :
    closes depth (inQuote cs front.length) part = true ↔
      StaysOpen cs front.length (front ++ part).length := by
  -- What has been read goes over to `front`, and `depth` counts what is open behind it.
  induction part generalizing front depth with
  | nil =>
    rw [List.append_nil, staysOpen_self, hopenAt, closes, beq_iff_eq]
    omega
  | cons c part ih =>
    have hplace : cs[front.length]? = some c := by simp [hcs]
    have hcs' : cs = front ++ [c] ++ part ++ back := by simp [hcs]
    have hlength : (front ++ c :: part).length = (front ++ [c] ++ part).length := by simp
    have hnext : (front ++ [c]).length = front.length + 1 := by simp
    rw [closes_step hplace hopenAt, hlength, staysOpen_succ (by omega), ← hnext]
    constructor
    · rintro ⟨next, hopenAt', hcloses⟩
      exact (ih hcs' hopenAt').1 hcloses
    · intro hstays
      have hopen := hstays.1 _ (Nat.le_refl _) (by simp)
      have hopenAt' : openAt cs (front ++ [c]).length =
          ((openAt cs (front ++ [c]).length - 1).toNat : Nat) + 1 := by omega
      exact ⟨_, hopenAt', (ih hcs' hopenAt').2 hstays⟩

/-! ### The parentheses around a text -/

theorem stripParens_eq_some_iff_closes {cs inner : List Char} :
    stripParens cs = some inner ↔ cs = '(' :: (inner ++ [')']) ∧ closes 0 false inner = true := by
  constructor
  · intro h
    unfold stripParens at h
    split at h
    · next rest =>
      split at h
      · next hcond =>
        obtain rfl := Option.some.inj h
        rw [Bool.and_eq_true, beq_iff_eq] at hcond
        rw [List.dropLast_append_getLast? _ hcond.1]
        exact ⟨rfl, hcond.2⟩
      · cases h
    · cases h
  · rintro ⟨rfl, hcloses⟩
    simp [stripParens, hcloses]

/-- **When a text is taken out of the parentheses around it.** It stands between parentheses, and
the first one is closed by the last character and not before; or a quote is open at the last
character, and before it every other parenthesis is closed. -/
theorem stripParens_eq_some_iff (cs inner : List Char) :
    stripParens cs = some inner ↔ cs = '(' :: (inner ++ [')']) ∧
      (ClosesFirst cs (inner.length + 1) ∨ LeftQuoted cs (inner.length + 1)) := by
  rw [stripParens_eq_some_iff_closes]
  refine and_congr_right fun hcs => ?_
  have hparts : cs = ['('] ++ inner ++ [')'] := hcs
  have hfirst : cs[0]? = some '(' := by simp [hparts]
  have hlast : cs[inner.length + 1]? = some ')' := by simp [hcs]
  have hopenAt : openAt cs 1 = (0 : Nat) + 1 := by
    simpa using openAt_succ_of_bare hfirst (inQuote_zero cs)
  have hquote : inQuote cs 1 = false := by simpa using inQuote_succ hfirst
  have hlength : (['('] ++ inner).length = inner.length + 1 := by simp
  have hcloses := closes_iff hparts hopenAt
  rw [hlength, List.length_singleton, hquote] at hcloses
  rw [hcloses, StaysOpen]
  cases hquoted : inQuote cs (inner.length + 1) with
  | false =>
    have hafter : openAt cs (inner.length + 1 + 1) = openAt cs (inner.length + 1) + -1 := by
      simpa using openAt_succ_of_bare hlast hquoted
    constructor
    · rintro ⟨hall, hend⟩
      exact .inl ⟨hlast, hquoted, hall, by omega⟩
    · rintro (h | h)
      · have := h.after
        exact ⟨h.before, by omega⟩
      · exact absurd h.quoted (by simp [hquoted])
  | true =>
    constructor
    · rintro ⟨hall, hend⟩
      exact .inr ⟨hquoted, hall, hend⟩
    · rintro (h | h)
      · exact absurd h.bare (by simp [hquoted])
      · exact ⟨h.before, h.at_place⟩

/-- A text is taken out of parentheses of which the last stands in a quote that is still open. -/
theorem not_closesFirst_of_stripParens : ¬∀ cs inner : List Char,
    stripParens cs = some inner ↔
      cs = '(' :: (inner ++ [')']) ∧ ClosesFirst cs (inner.length + 1) := by
  intro h
  have hstripped : stripParens ['(', 'a', '"', ')'] = some ['a', '"'] := by decide
  have hbare := ((h _ _).1 hstripped).2.bare
  exact absurd hbare (by decide)

end TriggerScript.Text

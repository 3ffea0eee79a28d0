import TriggerScript.Proofs.Syntax.Produces

/-!
# What evaluations use of the dice

An evaluation uses some rolls one after the other, and comes to the same wherever the same rolls lie
ahead. What it comes to for all dice can then be told part by part, although the second part starts
with the dice as the first one leaves them.

* `Eval.Local` : the computation depends on the rolls that it uses only.
* `Eval.Always` : the computation succeeds for all dice, and its result has a property.
* `Eval.Always.of_bind` : what always holds of a computation in two parts.
* `Expression.local_values` : evaluating an expression is local.
-/

namespace TriggerScript

namespace Eval

variable {α β : Type}

/-- The computation uses some rolls, and comes to the same result where the same rolls lie ahead. -/
def Local (m : Eval α) : Prop :=
  ∀ dice a dice', m dice = .ok (a, dice') → ∃ rolls, dice' = ⟨dice.outcomes, dice.used + rolls⟩ ∧
    ∀ other : Dice,
      (∀ i < rolls, other.outcomes (other.used + i) = dice.outcomes (dice.used + i)) →
        m other = .ok (a, ⟨other.outcomes, other.used + rolls⟩)

/-- The computation succeeds whatever the dice show, and its result has a property. -/
def Always (m : Eval α) (P : α → Prop) : Prop :=
  ∀ dice, ∃ a dice', m dice = .ok (a, dice') ∧ P a

/-! ### Computations that depend on their own rolls -/

theorem local_pure (a : α) : Local (pure a) := by
  rintro dice _ _ h
  cases h
  exact ⟨0, rfl, fun other _ => rfl⟩

theorem local_fail (fault : Fault) : Local (fail fault : Eval α) :=
  fun _ _ _ h => nomatch h

theorem local_roll (n : Nat) : Local (roll n) := by
  rintro dice _ _ h
  cases h
  refine ⟨1, rfl, fun other hsame => ?_⟩
  have hroll : other.outcomes other.used = dice.outcomes dice.used := hsame 0 Nat.one_pos
  rw [roll, hroll]

theorem Local.bind {m : Eval α} {f : α → Eval β} (hm : m.Local) (hf : ∀ a, (f a).Local) :
    (m >>= f).Local := by
  intro dice b last h
  obtain ⟨a, middle, hfirst, hsecond⟩ := bind_eq_ok_iff.1 h
  obtain ⟨front, rfl, hfront⟩ := hm dice a middle hfirst
  obtain ⟨back, rfl, hback⟩ := hf a _ b last hsecond
  refine ⟨front + back, by rw [Nat.add_assoc], fun other hsame => ?_⟩
  have hfirst := hfront other fun i hi => hsame i (by omega)
  have hsecond := hback ⟨other.outcomes, other.used + front⟩ fun i hi => by
    rw [Nat.add_assoc, Nat.add_assoc]
    exact hsame (front + i) (by omega)
  rw [Nat.add_assoc] at hsecond
  exact bind_eq_ok_iff.2 ⟨a, _, hfirst, hsecond⟩

theorem Local.map {m : Eval α} (hm : m.Local) (f : α → β) : Local (do let a ← m; pure (f a)) :=
  hm.bind fun a => local_pure (f a)

theorem local_pickValue (values : List Value) : (pickValue values).Local := by
  unfold pickValue
  split
  · exact local_pure []
  · exact (local_roll _).map _

/-! ### What holds for all dice -/

theorem Always.mono {m : Eval α} {P Q : α → Prop} (h : m.Always P) (hPQ : ∀ a, P a → Q a) :
    m.Always Q := by
  intro dice
  obtain ⟨a, dice', hm, ha⟩ := h dice
  exact ⟨a, dice', hm, hPQ a ha⟩

theorem Always.exists {m : Eval α} {P : α → Prop} (h : m.Always P) : ∃ a, P a := by
  obtain ⟨a, -, -, ha⟩ := h default
  exact ⟨a, ha⟩

@[simp] theorem always_pure {a : α} {P : α → Prop} : Always (pure a) P ↔ P a := by
  constructor
  · intro h
    obtain ⟨_, _, ha, hP⟩ := h default
    cases ha
    exact hP
  · exact fun h dice => ⟨a, dice, rfl, h⟩

theorem Always.bind {m : Eval α} {f : α → Eval β} {P : β → Prop}
    (h : m.Always fun a => (f a).Always P) : (m >>= f).Always P := by
  intro dice
  obtain ⟨a, middle, hm, hf⟩ := h dice
  obtain ⟨b, last, hb, hP⟩ := hf middle
  exact ⟨b, last, bind_eq_ok_iff.2 ⟨a, middle, hm, hb⟩, hP⟩

/-- **What always holds of a computation in two parts,** the second part comes to for all dice, not
only for those that the first one leaves. -/
theorem Always.of_bind {m : Eval α} {f : α → Eval β} {P : β → Prop} (hm : m.Local)
    (hf : ∀ a, (f a).Local) (h : (m >>= f).Always P) : m.Always fun a => (f a).Always P := by
  intro dice
  obtain ⟨_, _, hboth, -⟩ := h dice
  obtain ⟨a, middle, hfirst, -⟩ := bind_eq_ok_iff.1 hboth
  refine ⟨a, middle, hfirst, fun wanted => ?_⟩
  obtain ⟨front, -, hfront⟩ := hm dice a middle hfirst
  -- The first part uses its rolls as before, and behind them lie the rolls that are wanted.
  let joined : Dice := ⟨fun i => if i < front then dice.outcomes (dice.used + i)
    else wanted.outcomes (wanted.used + (i - front)), 0⟩
  have hmiddle : m joined = .ok (a, ⟨joined.outcomes, 0 + front⟩) :=
    hfront joined fun i hi => by simp [joined, hi]
  obtain ⟨b, last, hjoined, hP⟩ := h joined
  obtain ⟨a', middle', hfirst', hsecond⟩ := bind_eq_ok_iff.1 hjoined
  rw [hmiddle] at hfirst'
  cases hfirst'
  obtain ⟨back, -, hback⟩ := hf a _ b last hsecond
  have hlater (i : Nat) : wanted.outcomes (wanted.used + i) = joined.outcomes (0 + front + i) := by
    have hbehind : ¬0 + front + i < front := by omega
    have hoffset : 0 + front + i - front = i := by omega
    simp only [joined, hbehind, if_false, hoffset]
  exact ⟨b, _, hback wanted fun i _ => hlater i, hP⟩

theorem Always.of_map {m : Eval α} {f : α → β} {P : β → Prop} (hm : m.Local)
    (h : Always (do let a ← m; pure (f a)) P) : m.Always fun a => P (f a) :=
  (Always.of_bind hm (fun a => local_pure (f a)) h).mono fun _ ha => always_pure.1 ha

end Eval

namespace Expression

open Eval

variable (sight : Sight)

mutual

/-- **Evaluating an expression depends on its own rolls only.** -/
theorem local_values (choose : Bool) (e : Expression) : (e.values sight choose).Local := by
  match e with
  | .variable name =>
    rw [values]
    exact (local_textOf name).map _
  | .loopValue name loop type => exact local_pure _
  | .eventValue type => exact local_pure _
  | .range low high =>
    rw [values]
    exact (local_values true low).bind fun _ => (local_values true high).map _
  | .literal vs type together =>
    rw [values]
    split
    · exact local_pickValue vs
    · exact local_pure vs
  | .quoted parts =>
    rw [values]
    exact (local_textOf parts).map _
  | .list items together type =>
    rw [values]
    split
    · exact (local_roll _).bind fun i => local_valuesAt i items
    · exact local_valuesOf choose items
  | .converted inner target =>
    rw [values]
    exact (local_values choose inner).map _
  | .declared d use parts =>
    rw [values]
    refine Local.bind ?_ fun _ => ?_
    · unfold failIf
      split
      · exact local_fail _
      · exact local_pure ()
    · split
      · exact (local_valuesOfOptions parts).map _
      · exact local_pure _

theorem local_valuesOf (choose : Bool) (items : List Expression) :
    (valuesOf sight choose items).Local := by
  match items with
  | [] => exact local_pure []
  | e :: rest =>
    rw [valuesOf]
    exact (local_values choose e).bind fun _ => (local_valuesOf choose rest).map _

theorem local_valuesAt (i : Nat) (items : List Expression) : (valuesAt sight i items).Local := by
  match items with
  | [] => exact local_pure []
  | e :: rest =>
    rw [valuesAt]
    split
    · exact local_values true e
    · exact local_valuesAt (i - 1) rest

theorem local_valuesOfOptions (parts : List (Option Expression)) :
    (valuesOfOptions sight parts).Local := by
  match parts with
  | [] => exact local_pure []
  | e :: rest =>
    rw [valuesOfOptions]
    exact (local_valuesOfOption e).bind fun _ => (local_valuesOfOptions rest).map _

theorem local_valuesOfOption (e : Option Expression) : (valuesOfOption sight e).Local := by
  match e with
  | .none => exact local_pure []
  | .some e => exact local_values false e

theorem local_textOf (parts : List Part) : (textOf sight parts).Local := by
  match parts with
  | [] => exact local_pure ""
  | p :: rest =>
    rw [textOf]
    exact (local_textOfPart p).bind fun _ => (local_textOf rest).map _

theorem local_textOfPart (p : Part) : (textOfPart sight p).Local := by
  match p with
  | .text s => exact local_pure s
  | .expression e =>
    rw [textOfPart]
    exact (local_values true e).map _

end

end Expression

end TriggerScript

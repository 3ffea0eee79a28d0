import TriggerScript.Proofs.Types.Soundness
import TriggerScript.Registry.Basic
import Mathlib.Data.List.Forall2

/-!
# What closing a registration keeps

Closing compiles each element in its place. Statements and headers stay in order of registration.
Expressions are ordered by priority, and within one priority they stay in order.

* `mapM_eq_ok_iff` : compiling a list of elements compiles each of them.
* `Closed` : the registry that a registration is closed into.
* `closed_of_close` : what follows from a successful end of the registration.
* `exists_close` : when the registration ends with success.
* `inGroup_of_closed` : the expressions of one priority, in order of registration.
* `exists_setup_of_closed` : expressions of the registry decide as they were registered.
* `Closed.sound` : the types of the registry are as sound as the registered ones.
-/

namespace TriggerScript.Registration

theorem mapM_eq_ok_iff {ε α β : Type} {f : α → Except ε β} {xs : List α} {ys : List β} :
    xs.mapM f = .ok ys ↔ List.Forall₂ (fun x y => f x = .ok y) xs ys := by
  induction xs generalizing ys with
  | nil =>
    cases ys <;> simp [pure, Except.pure]
  | cons x xs ih =>
    rw [List.mapM_cons]
    cases hx : f x with
    | error fault => cases ys <;> simp [bind, Except.bind, hx]
    | ok y =>
      cases hxs : xs.mapM f with
      | error fault => cases ys <;> simp [bind, Except.bind, hx, ← ih, hxs]
      | ok rest => cases ys <;> simp [bind, Except.bind, pure, Except.pure, hx, ← ih, hxs]

/-- A bind that succeeds. -/
theorem bind_eq_ok {ε α β : Type} {m : Except ε α} {f : α → Except ε β} {b : β}
    (h : (m >>= f) = .ok b) : ∃ a, m = .ok a ∧ f a = .ok b := by
  cases m with
  | error fault => cases h
  | ok a => exact ⟨a, rfl, h⟩

theorem eq_ok_of_toOption {ε α : Type} {x : Except ε α} {a : α} (h : x.toOption = some a) :
    x = .ok a := by
  cases x with
  | error fault => cases h
  | ok b => exact congrArg _ (Option.some.inj h)

/-- A registration and the registry that it is closed into; `entries` are its expressions, compiled
and in order of registration. -/
structure Closed (r : Registration) (registry : Registry)
    (entries : List (ExpressionEntry Pattern)) : Prop where
  types : registry.system.types = r.types
  conversions : registry.system.conversions = r.conversions.close r.types
  comparators : registry.system.comparators = r.comparators
  compiled : List.Forall₂ (fun e entry => closeExpression r.types e = .ok entry)
    r.expressions entries
  expressions : registry.expressions = byPriority entries
  statements : List.Forall₂ (fun s entry => closeStatement r.types s = .ok entry)
    r.statements registry.statements
  headers : List.Forall₂ (fun h entry => closeHeader r.types h = .ok entry)
    r.headers registry.headers

theorem closed_of_close {r : Registration} {registry : Registry} (h : r.close = .ok registry) :
    ∃ entries, r.Closed registry entries := by
  obtain ⟨entries, hexpressions, h⟩ := bind_eq_ok h
  obtain ⟨statements, hstatements, h⟩ := bind_eq_ok h
  obtain ⟨headers, hheaders, h⟩ := bind_eq_ok h
  cases h
  exact ⟨entries, rfl, rfl, rfl, mapM_eq_ok_iff.1 hexpressions, rfl, mapM_eq_ok_iff.1 hstatements,
    mapM_eq_ok_iff.1 hheaders⟩

/-- A registration can be closed if its elements can be compiled. -/
theorem exists_close {r : Registration} {expressions : List (ExpressionEntry Pattern)}
    {statements : List (StatementEntry Pattern)} {headers : List (HeaderEntry Pattern)}
    (hexpressions : r.expressions.mapM (closeExpression r.types) = .ok expressions)
    (hstatements : r.statements.mapM (closeStatement r.types) = .ok statements)
    (hheaders : r.headers.mapM (closeHeader r.types) = .ok headers) :
    ∃ registry, r.close = .ok registry := by
  rw [close, hexpressions, hstatements, hheaders]
  exact ⟨_, rfl⟩

/-- Only the group of a priority has expressions of this priority. -/
theorem filter_byPriority (entries : List (ExpressionEntry Pattern)) (p : Priority) :
    (byPriority entries).filter (·.priority == p) =
      entries.filter (·.priority == p) := by
  have hgroup (q : Priority) : (entries.filter (·.priority == q)).filter (·.priority == p) =
      if q = p then entries.filter (·.priority == p) else [] := by
    rw [List.filter_filter]
    split
    · next heq => rw [heq]; simp only [Bool.and_self]
    · next hne =>
      rw [List.filter_eq_nil_iff]
      intro e _ h
      simp only [Bool.and_eq_true, beq_iff_eq] at h
      exact hne (h.2.symm.trans h.1)
  rw [byPriority, List.filter_flatMap]
  simp only [hgroup]
  cases p <;> simp [Priority.inOrder]

/-- The expressions of one priority, in order of registration. -/
theorem inGroup_of_closed {r : Registration} {registry : Registry}
    {entries : List (ExpressionEntry Pattern)} (h : r.Closed registry entries) (p : Priority) :
    registry.inGroup p = entries.filter (·.priority == p) := by
  rw [Registry.inGroup, h.expressions, filter_byPriority]

theorem exists_of_mem_right {α β : Type} {R : α → β → Prop} {xs : List α} {ys : List β}
    (h : List.Forall₂ R xs ys) {y : β} (hy : y ∈ ys) : ∃ x ∈ xs, R x y := by
  induction h with
  | nil => cases hy
  | cons hxy _ ih =>
    rcases List.mem_cons.1 hy with rfl | hy
    · exact ⟨_, List.mem_cons_self, hxy⟩
    · obtain ⟨x, hx, hR⟩ := ih hy
      exact ⟨x, List.mem_cons_of_mem _ hx, hR⟩

/-- Each expression of the registry decides like one that was registered. -/
theorem exists_setup_of_closed {r : Registration} {registry : Registry}
    {entries : List (ExpressionEntry Pattern)} (h : r.Closed registry entries) {p : Priority}
    {entry : ExpressionEntry Pattern} (hentry : entry ∈ registry.inGroup p) :
    ∃ e ∈ r.expressions, entry.setup = e.setup := by
  rw [inGroup_of_closed h] at hentry
  obtain ⟨e, he, hclose⟩ := exists_of_mem_right h.compiled (List.mem_of_mem_filter hentry)
  refine ⟨e, he, ?_⟩
  unfold closeExpression at hclose
  split at hclose
  · cases hclose
  · cases hpatterns : compileAll r.types e.name e.patterns with
    | error fault =>
      rw [hpatterns] at hclose
      cases hclose
    | ok patterns =>
      rw [hpatterns] at hclose
      cases hclose
      rfl

/-- The types with what has been registered for them. -/
def system (r : Registration) : TypeSystem := ⟨r.types, r.conversions, r.comparators⟩

/-- The types of the registry are as sound as the registered ones. -/
theorem Closed.sound {r : Registration} {registry : Registry}
    {entries : List (ExpressionEntry Pattern)} (h : r.Closed registry entries)
    (hsound : r.system.Sound) : registry.system.Sound where
  rooted := by
    rw [h.types]
    exact hsound.rooted
  conversions := by
    rw [h.conversions, h.types]
    exact hsound.close.conversions
  literals := by
    rw [h.types]
    exact hsound.literals

end TriggerScript.Registration

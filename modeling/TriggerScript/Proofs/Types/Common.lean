import TriggerScript.Parsing.Expression
import TriggerScript.Proofs.Types.Routes
import Mathlib.Logic.Relation

/-!
# The common type of several types

From a type the declared supertypes lead upwards, and what is met there, in circles or not, is what
it is assignable to. As each type has one supertype at most, the first type that two types have in
common is the least one. If nothing is above the most general type and there are no circles, it is
the only one, so that the order in which types are joined does not matter.

* `TypeTable.DeclaredUnder` : a type is declared with another one as its supertype.
* `TypeTable.isAssignable_iff_declared` : a type is assignable to the most general one and to all
  that it is declared under, over any number of steps.
* `TypeTable.LeastAbove` : the least type that some types are assignable to.
* `leastAbove_common`, `leastAbove_commonType` : the common type of two types, and of the items of a
  list.
* `TypeTable.Acyclic`, `LeastAbove.unique` : without circles there is one least type.
* `order_of_types` : the order of types and their common types.
-/

namespace TriggerScript.TypeTable

variable {types : TypeTable} {a b t t' : String} {codes codes' : List String}

/-! ### Declared supertypes -/

/-- A type is declared with another one as its supertype. -/
def DeclaredUnder (types : TypeTable) (a b : String) : Prop :=
  (types.get? a).bind (·.supertype) = some b

/-- No type comes up again above itself. -/
def Acyclic (types : TypeTable) : Prop :=
  ∀ a, ¬Relation.TransGen types.DeclaredUnder a a

theorem exists_up?_iff :
    (∃ i, types.up? i a = some b) ↔ Relation.ReflTransGen types.DeclaredUnder a b := by
  constructor
  · rintro ⟨i, hup⟩
    induction i generalizing a with
    | zero =>
      obtain rfl := Option.some.inj hup
      exact .refl
    | succ i ih =>
      obtain ⟨above, habove, hup⟩ := Option.bind_eq_some_iff.1 hup
      exact .head habove (ih hup)
  · intro h
    induction h using Relation.ReflTransGen.head_induction_on with
    | refl => exact ⟨0, rfl⟩
    | head hunder _ ih =>
      obtain ⟨i, hup⟩ := ih
      exact ⟨i + 1, Option.bind_eq_some_iff.2 ⟨_, hunder, hup⟩⟩

/-- **A type is assignable to the most general type and to what it is declared under,** over any
number of steps. -/
theorem isAssignable_iff_declared : types.isAssignable a b = true ↔
    b = objectType ∨ Relation.ReflTransGen types.DeclaredUnder a b := by
  rw [isAssignable_iff, exists_up?_iff]

/-- Where supertypes are ranked lower, there are no circles. -/
theorem acyclic_of_rank (rank : String → Nat)
    (h : ∀ info ∈ types.infos, ∀ b, info.supertype = some b → rank b < rank info.code) :
    types.Acyclic := by
  have hstep (a b : String) (hunder : types.DeclaredUnder a b) : rank b < rank a := by
    obtain ⟨info, hinfo, hsuper⟩ := Option.bind_eq_some_iff.1 hunder
    have hcode : info.code = a := by simpa using List.find?_some hinfo
    exact hcode ▸ h info (List.mem_of_find?_eq_some hinfo) b hsuper
  intro a hcircle
  have hrank : Relation.TransGen (fun m n : Nat => n < m) (rank a) (rank a) :=
    hcircle.lift rank hstep
  exact Nat.lt_irrefl _ (Relation.transGen_eq_self (r := fun m n : Nat => n < m) ▸ hrank)

/-- Types without circles that are assignable to each other are the same. -/
theorem Rooted.eq_of_isAssignable (h : types.Rooted) (hacyclic : types.Acyclic)
    (hab : types.isAssignable a b = true) (hba : types.isAssignable b a = true) : a = b := by
  rcases isAssignable_iff_declared.1 hab with rfl | hup
  · exact h.eq_object hba
  rcases isAssignable_iff_declared.1 hba with rfl | hback
  · exact (h.eq_object hab).symm
  rcases Relation.reflTransGen_iff_eq_or_transGen.1 hup with rfl | hup
  · rfl
  · exact absurd (hup.trans_left hback) (hacyclic a)

/-! ### The least type above some types -/

/-- Some types are assignable to it, and it is assignable to any other type of which this holds. -/
structure LeastAbove (types : TypeTable) (codes : List String) (t : String) : Prop where
  above : ∀ c ∈ codes, types.isAssignable c t = true
  least : ∀ u, (∀ c ∈ codes, types.isAssignable c u = true) → types.isAssignable t u = true

/-- Only which types there are matters, not their order. -/
theorem LeastAbove.perm (h : types.LeastAbove codes t) (hperm : codes.Perm codes') :
    types.LeastAbove codes' t where
  above c hc := h.above c (hperm.mem_iff.2 hc)
  least u hu := h.least u fun c hc => hu c (hperm.mem_iff.1 hc)

/-- **Without circles there is one least type.** -/
theorem LeastAbove.unique (h : types.LeastAbove codes t) (h' : types.LeastAbove codes t')
    (htypes : types.Rooted) (hacyclic : types.Acyclic) : t = t' :=
  htypes.eq_of_isAssignable hacyclic (h.least t' h'.above) (h'.least t h.above)

/-- On the way up each type is assignable to all that come behind it. -/
theorem pairwise_climb (types : TypeTable) (steps : Nat) (a : String) :
    (types.climb steps a).Pairwise fun t u => types.isAssignable t u = true := by
  induction steps generalizing a with
  | zero => exact List.pairwise_singleton _ _
  | succ steps ih =>
    rw [climb]
    refine List.pairwise_cons.2 ⟨fun u hu => ?_, ?_⟩
    · have hclimb : u ∈ types.climb (steps + 1) a := List.mem_cons_of_mem _ hu
      obtain ⟨i, -, hup⟩ := mem_climb_iff.1 hclimb
      exact isAssignable_iff.2 (.inr ⟨i, hup⟩)
    · split
      · exact ih _
      · exact .nil

theorem forall_mem_pair_iff : (∀ c ∈ [a, b], types.isAssignable c t = true) ↔
    types.isAssignable a t = true ∧ types.isAssignable b t = true := by
  rw [List.forall_mem_cons, List.forall_mem_singleton]

/-- **The first supertype of one type that the other is assignable to is the least above both.** -/
theorem leastAbove_common (types : TypeTable) (a b : String) :
    types.LeastAbove [a, b] (types.common a b) where
  above := forall_mem_pair_iff.2
    ⟨isAssignable_common_left types a b, isAssignable_common_right types a b⟩
  least u hu := by
    obtain ⟨hau, hbu⟩ := forall_mem_pair_iff.1 hu
    rcases isAssignable_iff.1 hau with rfl | hup
    · exact isAssignable_object types _
    have hmem : u ∈ types.supertypes a := mem_supertypes_iff.2 hup
    have hsome : ((types.supertypes a).find? fun t => types.isAssignable b t).isSome :=
      List.find?_isSome.2 ⟨u, hmem, hbu⟩
    obtain ⟨t, hfirst⟩ := Option.isSome_iff_exists.1 hsome
    rw [common, hfirst, Option.getD_some]
    obtain ⟨-, front, back, hsplit, hfront⟩ := List.find?_eq_some_iff_append.1 hfirst
    -- The upper bound does not come before the first common type on the way up.
    have hbehind : u = t ∨ u ∈ back := by
      rw [hsplit, List.mem_append, List.mem_cons] at hmem
      refine hmem.resolve_left fun hearly => ?_
      simpa [hbu] using hfront u hearly
    have hpairwise := types.pairwise_climb (types.infos.length + 1) a
    rw [show types.climb (types.infos.length + 1) a = front ++ t :: back from hsplit,
      List.pairwise_append, List.pairwise_cons] at hpairwise
    rcases hbehind with rfl | hback
    · exact isAssignable_refl types u
    · exact hpairwise.2.1.1 u hback

/-- Types that are joined one after the other lead to the least type above all of them. -/
theorem leastAbove_foldl (htypes : types.Rooted) (t : String) (rest : List String) :
    types.LeastAbove (t :: rest) (rest.foldl types.common t) := by
  induction rest generalizing t with
  | nil =>
    exact ⟨fun c hc => List.mem_singleton.1 hc ▸ isAssignable_refl types c,
      fun u hu => hu t List.mem_cons_self⟩
  | cons c rest ih =>
    -- The type joined from the first two stands for both of them in what follows.
    have hpair := leastAbove_common types t c
    have hjoined := ih (types.common t c)
    obtain ⟨ht, hc⟩ := forall_mem_pair_iff.1 hpair.above
    obtain ⟨hfirst, hrest⟩ := List.forall_mem_cons.1 hjoined.above
    refine ⟨List.forall_mem_cons.2 ⟨htypes.isAssignable_trans ht hfirst,
      List.forall_mem_cons.2 ⟨htypes.isAssignable_trans hc hfirst, hrest⟩⟩, fun u hu => ?_⟩
    obtain ⟨htu, hrestu⟩ := List.forall_mem_cons.1 hu
    obtain ⟨hcu, hrestu⟩ := List.forall_mem_cons.1 hrestu
    have hpairu := hpair.least u (forall_mem_pair_iff.2 ⟨htu, hcu⟩)
    exact hjoined.least u (List.forall_mem_cons.2 ⟨hpairu, hrestu⟩)

/-- The type of a list is the least above the types of its items. -/
theorem leastAbove_commonType (htypes : types.Rooted) {items : List Expression}
    (hne : items ≠ []) :
    types.LeastAbove (items.map (·.returns)) (Parsing.commonType types items) := by
  cases items with
  | nil => exact absurd rfl hne
  | cons e rest =>
    have h := leastAbove_foldl htypes e.returns (rest.map (·.returns))
    rwa [List.foldl_map] at h

/-! ### The order of types -/

/-- **The order of types.** A type is assignable to the most general type and to what it is declared
under. The common type of two types is the least above both. If nothing is above the most general
type and there are no circles, it is the same the other way round, and the type of a list is the
same in whatever order its items stand. -/
theorem order_of_types (types : TypeTable) :
    (∀ a b, types.isAssignable a b = true ↔
      b = objectType ∨ Relation.ReflTransGen types.DeclaredUnder a b) ∧
    (∀ a b, types.LeastAbove [a, b] (types.common a b)) ∧
    (types.Rooted → types.Acyclic → (∀ a b, types.common a b = types.common b a) ∧
      ∀ items items' : List Expression, items.Perm items' →
        Parsing.commonType types items = Parsing.commonType types items') := by
  refine ⟨fun a b => isAssignable_iff_declared, types.leastAbove_common,
    fun htypes hacyclic => ⟨fun a b => ?_, fun items items' hperm => ?_⟩⟩
  · have hswapped := (leastAbove_common types b a).perm (.swap a b [])
    exact (leastAbove_common types a b).unique hswapped htypes hacyclic
  · rcases eq_or_ne items [] with rfl | hne
    · rw [hperm.nil_eq]
    · have hne' : items' ≠ [] := fun h => hne (h ▸ hperm).eq_nil
      have hother := (leastAbove_commonType htypes hne').perm (hperm.symm.map _)
      exact (leastAbove_commonType htypes hne).unique hother htypes hacyclic

/-- Types are ranked by how far they are below the most general one. -/
def sightingsRank (code : String) : Nat :=
  if code = objectType then 0 else if code = "player" then 2 else 1

/-- Players and entities, seen in any order, are entities together. -/
theorem order_of_types_sightings :
    Conversions.sightings.Rooted ∧ Conversions.sightings.Acyclic ∧
    Conversions.sightings.common "player" "entity" = "entity" ∧
    Conversions.sightings.common "entity" "player" = "entity" ∧
    Parsing.commonType Conversions.sightings
      [.eventValue "entity", .eventValue "player", .eventValue "player"] = "entity" := by
  have hrooted : Conversions.sightings.Rooted := rfl
  have hacyclic : Conversions.sightings.Acyclic := by
    refine acyclic_of_rank sightingsRank ?_
    decide
  have hcommon : Conversions.sightings.common "player" "entity" = "entity" := by decide
  have hlist : Parsing.commonType Conversions.sightings
      [.eventValue "player", .eventValue "entity", .eventValue "player"] = "entity" := by decide
  obtain ⟨hswap, hperm⟩ := (order_of_types Conversions.sightings).2.2 hrooted hacyclic
  exact ⟨hrooted, hacyclic, hcommon, (hswap "entity" "player").trans hcommon,
    (hperm _ _ (.swap ..)).trans hlist⟩

end TriggerScript.TypeTable

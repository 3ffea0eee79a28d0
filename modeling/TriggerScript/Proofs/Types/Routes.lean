import TriggerScript.Types.Conversion
import TriggerScript.Decimal.Reading
import TriggerScript.Proofs.Types.Order
import Mathlib.Data.Finset.Prod

/-!
# Routes of conversions

Closing a table of conversions goes on for as long as a round finds a pair of types without a
conversion. All pairs have their ends among those of the registered conversions, so that the rounds
come to an end, and where they end no route over registered conversions is left without a short cut.

* `Closes` : the rounds, without a bound on their number.
* `closes_close` : the rounds come to an end.
* `Closes.forall_mem` : what holds of the registered conversions and passes on to composites.
* `Route`, `Conversion.runAll` : conversions in a row, each of which yields what the next accepts.
* `Closes.exists_of_route` : the ends of a route are connected or need no conversion.
* `Closes.exists_route` : every conversion is a route over registered ones.
-/

namespace TriggerScript

namespace Conversion

/-- What the first conversion yields may stand where the second one starts. -/
def Fits (types : TypeTable) (first second : Conversion) : Prop :=
  types.isAssignable first.target second.source = true

@[simp] theorem connects_iff {c : Conversion} {source target : String} :
    c.connects source target = true ↔ c.source = source ∧ c.target = target := by
  rw [connects, Bool.and_eq_true, beq_iff_eq, beq_iff_eq]

/-- Runs conversions one after another; the value is lost at the first one that fails on it. -/
def runAll : List Conversion → Value → Option Value
  | [], v => some v
  | c :: rest, v => (c.run v).bind (runAll rest)

theorem runAll_append (front back : List Conversion) (v : Value) :
    runAll (front ++ back) v = (runAll front v).bind (runAll back) := by
  induction front generalizing v with
  | nil => rfl
  | cons c front ih => rw [List.cons_append, runAll, runAll, Option.bind_assoc, funext ih]

end Conversion

namespace Conversions

variable {types : TypeTable} {known found closed : List Conversion} {c first second : Conversion}
  {source middle target : String} {steps back : List Conversion}

/-! ### One round -/

theorem addComposite_cases (types : TypeTable) (known found : List Conversion)
    (first second : Conversion) :
    (addComposite types known found (first, second) = found ∧
      (first.Fits types second → first.source ≠ second.target →
        ∃ c ∈ known ++ found, c.connects first.source second.target)) ∨
    (addComposite types known found (first, second) = found ++ [first.andThen second] ∧
      first.Fits types second ∧ ∀ c ∈ known, ¬c.connects first.source second.target) := by
  simp only [addComposite]
  split
  · next hapart =>
    refine .inl ⟨rfl, fun hfits hne => ?_⟩
    rw [Conversion.Fits] at hfits
    simp [hfits, hne] at hapart
  next hjoin =>
  split
  · next hthere =>
    refine .inl ⟨rfl, fun _ _ => ?_⟩
    rw [← List.any_append] at hthere
    exact List.any_eq_true.1 hthere
  · next hnew =>
    simp only [Bool.or_eq_true, not_or, Bool.not_eq_true', Bool.not_eq_false] at hjoin
    simp only [Bool.or_eq_true, not_or, List.any_eq_true, not_exists, not_and] at hnew
    exact .inr ⟨rfl, hjoin.1, hnew.1⟩

/-- A composite goes over two known conversions, between types that no known one connects. -/
theorem exists_of_mem_composites : ∀ c ∈ composites types known,
    ∃ first ∈ known, ∃ second ∈ known, first.Fits types second ∧ c = first.andThen second ∧
      ∀ d ∈ known, ¬d.connects first.source second.target := by
  refine List.foldlRecOn (motive := fun found => ∀ c ∈ found, ∃ first ∈ known, ∃ second ∈ known,
    first.Fits types second ∧ c = first.andThen second ∧
      ∀ d ∈ known, ¬d.connects first.source second.target) _ _
    (List.forall_mem_nil _) fun found hfound pair hpair => ?_
  obtain ⟨first, hfirst, hpair⟩ := List.mem_flatMap.1 hpair
  obtain ⟨second, hsecond, rfl⟩ := List.mem_map.1 hpair
  rcases addComposite_cases types known found first second with ⟨heq, -⟩ | ⟨heq, hfits, hnew⟩
  · rwa [heq]
  · rw [heq]
    refine List.forall_mem_append.2 ⟨hfound, List.forall_mem_singleton.2 ?_⟩
    exact ⟨first, hfirst, second, hsecond, hfits, rfl, hnew⟩

theorem foldl_addComposite_subset (types : TypeTable) (known : List Conversion)
    (pairs : List (Conversion × Conversion)) (found : List Conversion) :
    found ⊆ pairs.foldl (addComposite types known) found := by
  induction pairs generalizing found with
  | nil => exact List.Subset.refl _
  | cons pair pairs ih =>
    refine List.Subset.trans ?_ (ih _)
    rcases addComposite_cases types known found pair.1 pair.2 with ⟨heq, -⟩ | ⟨heq, -⟩
    · rw [heq]
      exact List.Subset.refl _
    · rw [heq]
      exact List.subset_append_left _ _

/-- After a round any two known conversions that fit together have a short cut, unless they lead
back to where they start. -/
theorem exists_connects (hfirst : first ∈ known) (hsecond : second ∈ known)
    (hfits : first.Fits types second) (hne : first.source ≠ second.target) :
    ∃ c ∈ known ++ composites types known, c.connects first.source second.target := by
  have hpair : (first, second) ∈ known.flatMap fun first => known.map fun second => (first, second) :=
    List.mem_flatMap.2 ⟨first, hfirst, List.mem_map.2 ⟨second, hsecond, rfl⟩⟩
  obtain ⟨before, after, hpairs⟩ := List.append_of_mem hpair
  rw [composites, hpairs, List.foldl_append, List.foldl_cons]
  generalize before.foldl (addComposite types known) [] = found
  have hlater := foldl_addComposite_subset types known after
    (addComposite types known found (first, second))
  rcases addComposite_cases types known found first second with ⟨heq, hthere⟩ | ⟨heq, -⟩
  · rw [heq] at hlater ⊢
    obtain ⟨c, hc, hconnects⟩ := hthere hfits hne
    refine ⟨c, ?_, hconnects⟩
    rcases List.mem_append.1 hc with hc | hc
    · exact List.mem_append_left _ hc
    · exact List.mem_append_right _ (hlater hc)
  · rw [heq] at hlater ⊢
    refine ⟨first.andThen second, List.mem_append_right _ (hlater ?_), ?_⟩
    · exact List.mem_append_right _ (List.mem_singleton_self _)
    · exact Conversion.connects_iff.2 ⟨rfl, rfl⟩

/-! ### All rounds -/

/-- The rounds that start with `known` end with `closed`: the last of them finds no composite. -/
inductive Closes (types : TypeTable) : List Conversion → List Conversion → Prop
  | done {known : List Conversion} : composites types known = [] → Closes types known known
  | round {known closed : List Conversion} : composites types known ≠ [] →
      Closes types (known ++ composites types known) closed → Closes types known closed

namespace Closes

theorem composites_eq_nil (h : Closes types known closed) : composites types closed = [] := by
  induction h with
  | done hlast => exact hlast
  | round _ _ ih => exact ih

/-- Composites stand behind the conversions that were there before. -/
theorem isPrefix (h : Closes types known closed) : known <+: closed := by
  induction h with
  | done _ => exact List.prefix_rfl
  | round _ _ ih => exact (List.prefix_append _ _).trans ih

/-- **What holds of the conversions at hand and passes on to composites holds of all.** -/
theorem forall_mem {P : Conversion → Prop} (h : Closes types known closed)
    (hstep : ∀ first second, P first → P second → first.Fits types second →
      P (first.andThen second))
    (hknown : ∀ c ∈ known, P c) : ∀ c ∈ closed, P c := by
  induction h with
  | done _ => exact hknown
  | round _ _ ih =>
    refine ih (List.forall_mem_append.2 ⟨hknown, fun c hc => ?_⟩)
    obtain ⟨first, hfirst, second, hsecond, hfits, rfl, -⟩ := exists_of_mem_composites _ hc
    exact hstep first second (hknown first hfirst) (hknown second hsecond) hfits

/-- Where the rounds end, two conversions that fit together have a short cut, unless they lead back
to where they start. -/
theorem exists_connects (h : Closes types known closed) (hfirst : first ∈ closed)
    (hsecond : second ∈ closed) (hfits : first.Fits types second)
    (hne : first.source ≠ second.target) :
    ∃ c ∈ closed, c.source = first.source ∧ c.target = second.target := by
  obtain ⟨c, hc, hconnects⟩ := Conversions.exists_connects hfirst hsecond hfits hne
  rw [h.composites_eq_nil, List.append_nil] at hc
  exact ⟨c, hc, Conversion.connects_iff.1 hconnects⟩

end Closes

/-! ### The rounds come to an end -/

/-- The pairs of types that conversions connect. -/
def pairs (known : List Conversion) : Finset (String × String) :=
  (known.map fun c => (c.source, c.target)).toFinset

theorem mem_pairs : (source, target) ∈ pairs known ↔
    ∃ c ∈ known, c.source = source ∧ c.target = target := by
  simp [pairs]

theorem pairs_append : pairs (known ++ found) = pairs known ∪ pairs found := by
  rw [pairs, List.map_append, List.toFinset_append, pairs, pairs]

/-- A round that finds a composite connects a pair of types for the first time. -/
theorem pairs_ssubset (h : composites types known ≠ []) :
    pairs known ⊂ pairs (known ++ composites types known) := by
  obtain ⟨c, hc⟩ := List.exists_mem_of_ne_nil _ h
  obtain ⟨first, -, second, -, -, rfl, hnew⟩ := exists_of_mem_composites _ hc
  rw [pairs_append]
  refine Finset.ssubset_iff_of_subset Finset.subset_union_left |>.2
    ⟨(first.source, second.target), ?_, fun hold => ?_⟩
  · exact Finset.mem_union_right _ (mem_pairs.2 ⟨_, hc, rfl, rfl⟩)
  · obtain ⟨d, hd, hends⟩ := mem_pairs.1 hold
    exact hnew d hd (Conversion.connects_iff.2 hends)

/-- Composites start and end where known conversions do. -/
theorem pairs_composites_subset {sources targets : Finset String}
    (h : pairs known ⊆ sources ×ˢ targets) :
    pairs (known ++ composites types known) ⊆ sources ×ˢ targets := by
  rw [pairs_append]
  refine Finset.union_subset h fun (source, target) hpair => ?_
  obtain ⟨c, hc, rfl, rfl⟩ := mem_pairs.1 hpair
  obtain ⟨first, hfirst, second, hsecond, -, rfl, -⟩ := exists_of_mem_composites _ hc
  have hstart := Finset.mem_product.1 (h (mem_pairs.2 ⟨first, hfirst, rfl, rfl⟩))
  have hend := Finset.mem_product.1 (h (mem_pairs.2 ⟨second, hsecond, rfl, rfl⟩))
  exact Finset.mem_product.2 ⟨hstart.1, hend.2⟩

/-- So many rounds are enough as there are pairs left to connect, and one that finds nothing. -/
theorem closes_closeWithin {sources targets : Finset String} {rounds : Nat}
    (hknown : pairs known ⊆ sources ×ˢ targets)
    (hrounds : (sources ×ˢ targets).card < (pairs known).card + rounds) :
    Closes types known (closeWithin types rounds known) := by
  induction rounds generalizing known with
  | zero => exact absurd (Finset.card_le_card hknown) (by omega)
  | succ rounds ih =>
    rw [closeWithin]
    split
    · next hlast => exact .done hlast
    · next hmore =>
      have hne : composites types known ≠ [] := hmore
      have hgrows := Finset.card_lt_card (pairs_ssubset hne)
      exact .round hne (ih (pairs_composites_subset hknown) (by omega))

theorem closes_close (types : TypeTable) (cs : Conversions) :
    Closes types cs.list (cs.close types).list := by
  have hinside : pairs cs.list ⊆
      (cs.list.map (·.source)).toFinset ×ˢ (cs.list.map (·.target)).toFinset := by
    rintro ⟨source, target⟩ hpair
    obtain ⟨c, hc, rfl, rfl⟩ := mem_pairs.1 hpair
    rw [Finset.mem_product, List.mem_toFinset, List.mem_toFinset]
    exact ⟨List.mem_map.2 ⟨c, hc, rfl⟩, List.mem_map.2 ⟨c, hc, rfl⟩⟩
  refine closes_closeWithin hinside ?_
  have hsources := List.toFinset_card_le (cs.list.map (·.source))
  have htargets := List.toFinset_card_le (cs.list.map (·.target))
  rw [List.length_map] at hsources htargets
  have hgrid := Nat.mul_le_mul hsources htargets
  rw [Finset.card_product]
  omega

/-! ### Routes -/

/-- A way from one type to another over known conversions, each of which yields what the next one
accepts. -/
inductive Route (types : TypeTable) (known : List Conversion) :
    String → String → List Conversion → Prop
  | single {c : Conversion} : c ∈ known → Route types known c.source c.target [c]
  | cons {c : Conversion} {middle target : String} {steps : List Conversion} : c ∈ known →
      types.isAssignable c.target middle = true → Route types known middle target steps →
      Route types known c.source target (c :: steps)

theorem Route.append {later : String} (h : Route types known source middle steps)
    (hfits : types.isAssignable middle later = true) (hback : Route types known later target back) :
    Route types known source target (steps ++ back) := by
  induction h with
  | single hc => exact .cons hc hfits hback
  | cons hc hnext _ ih => exact .cons hc hnext (ih hfits)

/-- A value of the first type needs no conversion to stand for the second, or there is one. -/
def Connected (types : TypeTable) (known : List Conversion) (source target : String) : Prop :=
  types.isAssignable source target = true ∨
    ∃ c ∈ known, types.isAssignable source c.source = true ∧
      types.isAssignable c.target target = true

theorem Connected.widen (htypes : types.Rooted) (h : Connected types known source middle)
    (hwider : types.isAssignable middle target = true) : Connected types known source target := by
  rcases h with h | ⟨c, hc, hsource, htarget⟩
  · exact .inl (htypes.isAssignable_trans h hwider)
  · exact .inr ⟨c, hc, hsource, htypes.isAssignable_trans htarget hwider⟩

namespace Closes

/-- One conversion more leads on from where types are connected. Where it leads back to the start,
none is needed. -/
theorem connected_step (h : Closes types known closed) (htypes : types.Rooted)
    (hfront : Connected types closed source middle) (hc : c ∈ closed)
    (hfits : types.isAssignable middle c.source = true) :
    Connected types closed source c.target := by
  rcases hfront.widen htypes hfits with hstart | ⟨d, hd, hsource, hnext⟩
  · exact .inr ⟨c, hc, hstart, types.isAssignable_refl _⟩
  · by_cases hback : d.source = c.target
    · exact .inl (hback ▸ hsource)
    · obtain ⟨short, hshort, hstart, hend⟩ := h.exists_connects hd hc hnext hback
      refine .inr ⟨short, hshort, hstart ▸ hsource, ?_⟩
      rw [hend]
      exact types.isAssignable_refl _

/-- **No route over the conversions at hand is left without a short cut.** -/
theorem connected_of_route (h : Closes types known closed) (htypes : types.Rooted)
    (hroute : Route types known middle target steps)
    (hfront : Connected types closed source middle) : Connected types closed source target := by
  induction hroute with
  | single hc =>
    exact h.connected_step htypes hfront (h.isPrefix.subset hc) (types.isAssignable_refl _)
  | cons hc hnext _ ih =>
    have hstep := h.connected_step htypes hfront (h.isPrefix.subset hc) (types.isAssignable_refl _)
    exact ih (hstep.widen htypes hnext)

/-- **Every conversion does what a route over the conversions at hand does.** -/
theorem exists_route (h : Closes types known closed) :
    ∀ c ∈ closed, ∃ steps, Route types known c.source c.target steps ∧
      ∀ v, c.run v = Conversion.runAll steps v := by
  refine h.forall_mem ?_ fun c hc => ⟨[c], .single hc, fun v => ?_⟩
  · rintro first second ⟨front, hfront, hfirst⟩ ⟨back, hback, hsecond⟩ hfits
    refine ⟨front ++ back, hfront.append hfits hback, fun v => ?_⟩
    rw [Conversion.runAll_append, ← hfirst, ← funext hsecond]
    rfl
  · simp [Conversion.runAll]

end Closes

/-! ### The conversion that is found -/

theorem isSome_find?_of_connected {cs : Conversions}
    (h : Connected types cs.list source target) :
    (cs.find? types source target).isSome ∨ types.isAssignable source target = true := by
  rcases h with h | ⟨c, hc, hends⟩
  · exact .inr h
  · left
    rw [find?, Option.isSome_or, Bool.or_eq_true]
    right
    exact List.find?_isSome.2 ⟨c, hc, by rw [Bool.and_eq_true]; exact hends⟩

/-- For the ends of a conversion at hand one of those at hand is found. -/
theorem Closes.exists_find? {cs : Conversions} (h : Closes types known cs.list) (hc : c ∈ known) :
    ∃ d ∈ known, cs.find? types c.source c.target = some d := by
  have hthere : (known.find? (·.connects c.source c.target)).isSome :=
    List.find?_isSome.2 ⟨c, hc, Conversion.connects_iff.2 ⟨rfl, rfl⟩⟩
  obtain ⟨found, hfound⟩ := Option.isSome_iff_exists.1 hthere
  obtain ⟨composed, hlist⟩ := h.isPrefix
  refine ⟨found, List.mem_of_find?_eq_some hfound, ?_⟩
  rw [find?, ← hlist, List.find?_append, hfound, Option.some_or, Option.some_or]

/-- **Closing registered conversions ends, leaves no route over them without a short cut, adds
nothing but such routes, and hides none of them.** -/
theorem close_settles {cs : Conversions} (htypes : types.Rooted)
    (hregistered : ∀ c ∈ cs.list, c.composite = false) :
    Closes types cs.list (cs.close types).list ∧
    (∀ source target start finish steps, Route types cs.list start finish steps →
      types.isAssignable source start = true → types.isAssignable finish target = true →
      ((cs.close types).find? types source target).isSome ∨
        types.isAssignable source target = true) ∧
    (∀ c ∈ (cs.close types).list, ∃ steps, Route types cs.list c.source c.target steps ∧
      ∀ v, c.run v = Conversion.runAll steps v) ∧
    (∀ c ∈ cs.list, ∃ d, (cs.close types).find? types c.source c.target = some d ∧
      d.composite = false) := by
  have hcloses := closes_close types cs
  refine ⟨hcloses, ?_, hcloses.exists_route, fun c hc => ?_⟩
  · intro source target start finish steps hroute hsource htarget
    have hends := hcloses.connected_of_route htypes hroute (.inl hsource)
    exact isSome_find?_of_connected (hends.widen htypes htarget)
  · obtain ⟨d, hd, hfind⟩ := hcloses.exists_find? hc
    exact ⟨d, hfind, hregistered d hd⟩

/-- Objects and values of four kinds; players are entities. -/
def sightings : TypeTable :=
  ⟨[.named objectType "object¦s", .named "entity" "entit¦y¦ies",
    { TypeInfo.named "player" "player¦s" with supertype := some "entity" },
    .named textType "text¦s", .named numberType "number¦s"]⟩

/-- Entities have a name; numbers and texts that are numbers go into each other. -/
def namings : Conversions :=
  ((empty.register "entity" textType fun v => v.asKey?.map .text).register textType numberType
    fun v => v.asText?.bind fun s => (Decimal.read? s.toList).map .number).register numberType
      textType fun v => some (.text v.toText)

/-- The name of a player is read as a number, over the name of an entity. -/
theorem close_settles_namings : sightings.Rooted ∧ (∀ c ∈ namings.list, c.composite = false) ∧
    ((namings.close sightings).find? sightings "player" numberType).isSome := by
  have hrooted : sightings.Rooted := rfl
  have hregistered : ∀ c ∈ namings.list, c.composite = false := by
    simp [namings, register, empty]
  refine ⟨hrooted, hregistered, ?_⟩
  obtain ⟨-, hroutes, -⟩ := close_settles hrooted hregistered
  have hread : Route sightings namings.list "entity" numberType _ :=
    .cons (List.mem_cons_self ..) (by decide)
      (.single (List.mem_cons_of_mem _ (List.mem_cons_self ..)))
  exact (hroutes "player" numberType _ _ _ hread (by decide) (by decide)).resolve_right (by decide)

end Conversions

end TriggerScript

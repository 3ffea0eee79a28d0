import TriggerScript.Types.System
import TriggerScript.Proofs.Types.Routes

/-!
# Sound type systems

What conversions and literals give is of the types that they are registered for. Then the composite
conversions keep to their types too, and so does every conversion of a value.

* `Value.IsA` : a value may stand where a type is asked for.
* `Conversion.Sound`, `TypeSystem.Sound` : what conversions and literals are trusted with.
* `TypeSystem.Sound.close` : composite conversions are sound.
* `TypeSystem.Sound.convert`, `TypeSystem.Sound.readLiteral?` : converted values and literals are
  of the type that was asked for.
-/

namespace TriggerScript

/-- The value may stand where a type is asked for. -/
def Value.IsA (v : Value) (types : TypeTable) (type : String) : Prop :=
  types.isAssignable v.typeName type = true

namespace Value

variable {v : Value} {types : TypeTable} {a b : String}

theorem isA_object (v : Value) (types : TypeTable) : v.IsA types objectType :=
  types.isAssignable_object v.typeName

theorem isA_typeName (v : Value) (types : TypeTable) : v.IsA types v.typeName :=
  types.isAssignable_refl v.typeName

theorem IsA.mono (h : v.IsA types a) (htypes : types.Rooted)
    (hab : types.isAssignable a b = true) : v.IsA types b :=
  htypes.isAssignable_trans h hab

end Value

/-- From values of its source type the conversion makes values of its target type. -/
def Conversion.Sound (types : TypeTable) (c : Conversion) : Prop :=
  ∀ v w, v.IsA types c.source → c.run v = some w → w.IsA types c.target

/-- Nothing is above the most general type, and conversions and literals give values of the types
that they are registered for. -/
structure TypeSystem.Sound (s : TypeSystem) : Prop where
  rooted : s.types.Rooted
  conversions : ∀ c ∈ s.conversions.list, c.Sound s.types
  literals : ∀ info ∈ s.types.infos, ∀ text v, info.read? text = some v →
    v.IsA s.types info.code

/-! ### Conversions that go together -/

theorem Conversion.Sound.andThen {types : TypeTable} {first second : Conversion}
    (htypes : types.Rooted) (hfirst : first.Sound types) (hsecond : second.Sound types)
    (hfits : first.Fits types second) : (first.andThen second).Sound types := by
  intro v w hv hrun
  obtain ⟨u, hu, hw⟩ := Option.bind_eq_some_iff.1 hrun
  exact hsecond u w ((hfirst v u hv hu).mono htypes hfits) hw

namespace Conversions

variable {types : TypeTable}

/-- The conversion that is found leads from the source type to the target type. -/
theorem find?_eq_some {cs : Conversions} {source target : String} {c : Conversion}
    (h : cs.find? types source target = some c) :
    c ∈ cs.list ∧ types.isAssignable source c.source = true ∧
      types.isAssignable c.target target = true := by
  rcases Option.or_eq_some_iff.1 h with h | ⟨-, h⟩
  · have hends := List.find?_some h
    obtain ⟨rfl, rfl⟩ := Conversion.connects_iff.1 hends
    exact ⟨List.mem_of_find?_eq_some h, types.isAssignable_refl _, types.isAssignable_refl _⟩
  · have hends := List.find?_some h
    rw [Bool.and_eq_true] at hends
    exact ⟨List.mem_of_find?_eq_some h, hends⟩

end Conversions

/-! ### Values of a sound system -/

namespace TypeSystem

variable {s : TypeSystem}

/-- **Composite conversions are sound if the registered ones are.** -/
theorem Sound.close (h : s.Sound) :
    { s with conversions := s.conversions.close s.types }.Sound where
  rooted := h.rooted
  conversions := (Conversions.closes_close s.types s.conversions).forall_mem
    (fun _ _ hfirst hsecond hfits => hfirst.andThen h.rooted hsecond hfits) h.conversions
  literals := h.literals

/-- **A converted value is of the type that was asked for.** -/
theorem Sound.convert (h : s.Sound) {v w : Value} {target : String}
    (hw : s.convert v target = some w) : w.IsA s.types target := by
  unfold TypeSystem.convert Conversions.convert at hw
  split at hw
  · next hv =>
    obtain rfl := Option.some.inj hw
    exact hv
  · obtain ⟨c, hc, hrun⟩ := Option.bind_eq_some_iff.1 hw
    obtain ⟨hmem, hsource, htarget⟩ := Conversions.find?_eq_some hc
    exact (h.conversions c hmem v w hsource hrun).mono h.rooted htarget

/-- What satisfies a demand without a conversion is of a type that is asked for. -/
theorem exists_of_direct {produced : String} {required : List String}
    (h : s.acceptance? produced required = some .direct) :
    ∃ r ∈ required, s.types.isAssignable produced r = true := by
  unfold acceptance? at h
  split at h
  · next hany => exact List.any_eq_true.1 hany
  · split at h
    · cases h
    · obtain ⟨r, -, hr⟩ := Option.map_eq_some_iff.1 h
      cases hr

/-- What is converted is converted to a type that is asked for. -/
theorem mem_of_convert {produced target : String} {required : List String}
    (h : s.acceptance? produced required = some (.convert target)) : target ∈ required := by
  unfold acceptance? at h
  split at h
  · cases h
  · split at h
    · next hfind =>
      cases h
      exact List.mem_of_find?_eq_some hfind
    · obtain ⟨r, hr, heq⟩ := Option.map_eq_some_iff.1 h
      cases heq
      exact List.mem_of_find?_eq_some hr

/-- **A literal of a type is of this type.** -/
theorem Sound.readLiteral? (h : s.Sound) {code text : String} {v : Value}
    (hv : s.types.readLiteral? code text = some v) : v.IsA s.types code := by
  unfold TypeTable.readLiteral? at hv
  split at hv
  · next hobject =>
    rw [beq_iff_eq.1 hobject]
    exact v.isA_object s.types
  · obtain ⟨info, hinfo, hv⟩ := Option.bind_eq_some_iff.1 hv
    have hcode : info.code = code := by simpa using List.find?_some hinfo
    rcases Option.or_eq_some_iff.1 hv with hv | ⟨-, hv⟩
    · rw [← hcode]
      exact h.literals info (List.mem_of_find?_eq_some hinfo) text v hv
    · obtain ⟨sub, hsub, hv⟩ := List.exists_of_findSome?_eq_some hv
      split at hv
      · next hbelow =>
        rw [Bool.and_eq_true] at hbelow
        exact (h.literals sub hsub text v hv).mono h.rooted hbelow.2
      · cases hv

end TypeSystem

end TriggerScript

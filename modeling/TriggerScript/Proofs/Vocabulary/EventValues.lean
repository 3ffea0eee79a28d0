import TriggerScript.Proofs.Types.Soundness
import TriggerScript.Syntax.Evaluation
import TriggerScript.Vocabulary.Expressions

/-!
# Values of the event

A value of the event is looked for by type among what all kinds of event of a trigger declare. The
first kind decides under which type the value is read, and an event of another kind is read under
the same type, whether its kind declares that type or another one below the type that was asked for.

* `Occurrence.Complete` : an event carries a fitting value for each type that its kind declares.
* `Expression.YieldsOne` : an expression stands for exactly one value, which is of a type.
* `eventValue_of_first`, `eventValue_of_declared` : the first kind declares the type that is read,
  and all kinds do if they declare the very type that is asked for.
* `eventValue_found_iff` : exactly if all kinds declare the type that the first one offers, every
  complete event has the value. Events of the first kind always have it.
-/

namespace TriggerScript

/-- The value may stand wherever values of a type may. -/
def Value.ServesAs (v : Value) (types : TypeTable) (type : String) : Prop :=
  ∀ above, types.isAssignable type above = true → v.IsA types above

theorem Value.servesAs_typeName (v : Value) (types : TypeTable) : v.ServesAs types v.typeName :=
  fun _ habove => habove

/-- The event carries a value for each type that its kind declares, and what it carries under a type
serves as a value of this type. -/
structure Occurrence.Complete (event : Occurrence) (types : TypeTable) : Prop where
  carries : ∀ type ∈ event.kind.values, ∃ v, event.value? type = some v
  serves : ∀ type v, event.value? type = some v → v.ServesAs types type

/-- The expression stands for exactly one value, which is of a type. -/
def Expression.YieldsOne (sight : Sight) (types : TypeTable) (wanted : String) (e : Expression) :
    Prop :=
  ∃ v, v.IsA types wanted ∧ ∀ choose, e.values sight choose = pure [v]

theorem EventKind.valueType?_eq_some {kind : EventKind} {types : TypeTable} {wanted type : String}
    (h : kind.valueType? types wanted = some type) :
    type ∈ kind.values ∧ types.isAssignable type wanted = true := by
  rcases Option.or_eq_some_iff.1 h with h | ⟨-, h⟩
  · have heq : type = wanted := by simpa using List.find?_some h
    exact ⟨List.mem_of_find?_eq_some h, heq ▸ types.isAssignable_refl type⟩
  · have hbelow := List.find?_some h
    exact ⟨List.mem_of_find?_eq_some h, hbelow⟩

/-- A kind that declares the very type offers it. -/
theorem EventKind.valueType?_of_mem {kind : EventKind} {types : TypeTable} {wanted : String}
    (h : wanted ∈ kind.values) : kind.valueType? types wanted = some wanted := by
  have hfind : kind.values.find? (· == wanted) = some wanted := by
    cases hfound : kind.values.find? (· == wanted) with
    | none => exact absurd (List.find?_eq_none.1 hfound wanted h) (by simp)
    | some type => rw [show type = wanted by simpa using List.find?_some hfound]
  rw [EventKind.valueType?, hfind, Option.some_or]

/-- The event of a kind that carries an object of just the declared type under each of them. -/
def EventKind.filled (kind : EventKind) : Occurrence :=
  ⟨0, kind, kind.values.map fun type => (type, .object type ""), false⟩

theorem EventKind.value?_filled (kind : EventKind) (type : String) :
    kind.filled.value? type = if type ∈ kind.values then some (.object type "") else none := by
  have hlookup (declared : List String) :
      (declared.map fun type => (type, Value.object type "")).lookup type =
        if type ∈ declared then some (.object type "") else none := by
    induction declared with
    | nil => rfl
    | cons first rest ih =>
      rw [List.map_cons, List.lookup_cons, ih]
      by_cases h : type = first
      · subst h
        simp
      · simp [beq_false_of_ne h, h]
  exact hlookup kind.values

theorem EventKind.complete_filled (kind : EventKind) (types : TypeTable) :
    kind.filled.Complete types where
  carries type htype := ⟨_, (kind.value?_filled type).trans (if_pos htype)⟩
  serves type v hv := by
    rw [value?_filled] at hv
    split at hv
    · cases hv
      exact Value.servesAs_typeName _ types
    · cases hv

namespace Vocabulary

variable {types : TypeTable} {kinds : List EventKind} {wanted provided : String} {sight : Sight}

theorem eventValue?_eq_some (h : eventValue? types kinds wanted = some provided) :
    (∃ first rest, kinds = first :: rest ∧ first.valueType? types wanted = some provided) ∧
      ∀ kind ∈ kinds, ∃ own, kind.valueType? types wanted = some own := by
  cases kinds with
  | nil => cases h
  | cons first rest =>
    rw [eventValue?] at h
    split at h
    · next hrest =>
      refine ⟨⟨first, rest, rfl, h⟩, List.forall_mem_cons.2 ⟨⟨provided, h⟩, fun kind hkind => ?_⟩⟩
      exact Option.isSome_iff_exists.1 (List.all_eq_true.1 hrest kind hkind)
    · cases h

/-- The type under which the value is read serves as the one that is asked for. -/
theorem isAssignable_of_eventValue? (h : eventValue? types kinds wanted = some provided) :
    types.isAssignable provided wanted = true := by
  obtain ⟨⟨first, rest, -, hfirst⟩, -⟩ := eventValue?_eq_some h
  exact (EventKind.valueType?_eq_some hfirst).2

theorem values_eventValue (choose : Bool) :
    (Expression.eventValue provided).values sight choose =
      pure (sight.event.value? provided).toList := by
  rw [Expression.values]

/-- An event whose kind declares the type has the value. -/
theorem yieldsOne_of_declared (h : eventValue? types kinds wanted = some provided)
    (hevent : sight.event.Complete types) (hdeclared : provided ∈ sight.event.kind.values) :
    (Expression.eventValue provided).YieldsOne sight types wanted := by
  obtain ⟨v, hv⟩ := hevent.carries provided hdeclared
  refine ⟨v, hevent.serves provided v hv wanted (isAssignable_of_eventValue? h), fun choose => ?_⟩
  rw [values_eventValue, hv, Option.toList_some]

/-- The first kind of event of a trigger declares the type. -/
theorem eventValue_of_first {kind : EventKind} (h : eventValue? types kinds wanted = some provided)
    (hkind : kinds.head? = some kind) : provided ∈ kind.values := by
  obtain ⟨⟨first, rest, rfl, hfirst⟩, -⟩ := eventValue?_eq_some h
  obtain rfl : first = kind := Option.some.inj hkind
  exact (EventKind.valueType?_eq_some hfirst).1

/-- If all kinds declare the very type that is asked for, the value is read under it. -/
theorem eventValue_of_declared (h : eventValue? types kinds wanted = some provided)
    (hall : ∀ kind ∈ kinds, wanted ∈ kind.values) : ∀ kind ∈ kinds, provided ∈ kind.values := by
  obtain ⟨⟨first, rest, rfl, hfirst⟩, -⟩ := eventValue?_eq_some h
  rw [EventKind.valueType?_of_mem (hall first List.mem_cons_self)] at hfirst
  cases hfirst
  exact hall

/-- **A value of the event is found in every event of a trigger exactly if all its kinds declare the
type that the first of them offers,** which is so where all of them declare the very type that is
asked for. Events of the first kind have the value in any case. An event of any other kind carries a
value that serves as well, but maybe under another type, and then the expression stands for
nothing. -/
theorem eventValue_found_iff (h : eventValue? types kinds wanted = some provided) :
    ((∀ sight : Sight, sight.event.kind ∈ kinds → sight.event.Complete types →
        (Expression.eventValue provided).YieldsOne sight types wanted) ↔
      ∀ kind ∈ kinds, provided ∈ kind.values) ∧
    (∀ sight : Sight, sight.event.kind ∈ kinds → sight.event.Complete types →
      (∀ type ∉ sight.event.kind.values, sight.event.value? type = none) →
      provided ∉ sight.event.kind.values →
        (∃ own v, sight.event.kind.valueType? types wanted = some own ∧
          sight.event.value? own = some v ∧ v.IsA types wanted) ∧
        ∀ choose, (Expression.eventValue provided).values sight choose = pure []) ∧
    ((∀ kind ∈ kinds, wanted ∈ kind.values) → ∀ kind ∈ kinds, provided ∈ kind.values) ∧
    ∀ sight : Sight, kinds.head? = some sight.event.kind → sight.event.Complete types →
      (Expression.eventValue provided).YieldsOne sight types wanted := by
  refine ⟨⟨fun hall kind hkind => ?_, fun hall sight hkind hevent => ?_⟩,
    fun sight hkind hevent hbare hmissing => ⟨?_, fun choose => ?_⟩, eventValue_of_declared h,
    fun sight hfirst hevent => yieldsOne_of_declared h hevent (eventValue_of_first h hfirst)⟩
  · obtain ⟨v, -, hvalues⟩ := hall ⟨default, kind.filled, fun _ => none, fun _ => none⟩ hkind
      (kind.complete_filled types)
    have hread := hvalues false
    rw [values_eventValue, kind.value?_filled provided] at hread
    by_contra hmissing
    rw [if_neg hmissing] at hread
    cases congrFun hread default
  · exact yieldsOne_of_declared h hevent (hall _ hkind)
  · obtain ⟨own, hown⟩ := (eventValue?_eq_some h).2 _ hkind
    obtain ⟨hdeclared, hbelow⟩ := EventKind.valueType?_eq_some hown
    obtain ⟨v, hv⟩ := hevent.carries own hdeclared
    exact ⟨own, v, hown, hv, hevent.serves own v hv wanted hbelow⟩
  · rw [values_eventValue, hbare provided hmissing, Option.toList_none]

/-! ### Players are beings -/

/-- Players are beings. -/
def beings : TypeTable :=
  ⟨[.named objectType "object¦s", .named "being" "being¦s",
    { TypeInfo.named "player" "player¦s" with supertype := some "being" }]⟩

/-- Players join. -/
def joining : EventKind := { EventKind.plain "join" with values := ["player"] }

/-- Beings of any sort spawn. -/
def spawning : EventKind := { EventKind.plain "spawn" with values := ["being"] }

/-- A trigger for players that join sees the being of its event. -/
theorem eventValue_found_iff_joining :
    eventValue? beings [joining] "being" = some "player" ∧
      ∀ sight : Sight, sight.event.kind = joining → sight.event.Complete beings →
        (Expression.eventValue "player").YieldsOne sight beings "being" := by
  have h : eventValue? beings [joining] "being" = some "player" := by decide
  refine ⟨h, fun sight hkind hevent => ?_⟩
  have hdeclared : ∀ kind ∈ [joining], "player" ∈ kind.values := by decide
  exact (eventValue_found_iff h).1.2 hdeclared sight (by rw [hkind]; exact List.mem_cons_self)
    hevent

/-- A cow that spawns is a being, but a trigger for both kinds of event looks for a player. -/
theorem eventValue_not_found_spawning :
    ∃ sight : Sight, eventValue? beings [joining, spawning] "being" = some "player" ∧
      sight.event.kind ∈ [joining, spawning] ∧ sight.event.Complete beings ∧
      sight.event.value? "being" = some (.object "being" "cow") ∧
      ¬(Expression.eventValue "player").YieldsOne sight beings "being" := by
  let cow : Occurrence := ⟨0, spawning, [("being", .object "being" "cow")], false⟩
  refine ⟨⟨default, cow, fun _ => none, fun _ => none⟩, by decide, by decide, ?_, rfl, ?_⟩
  · refine ⟨fun type htype => ?_, fun type v hv => ?_⟩
    · obtain rfl : type = "being" := by simpa [cow, spawning] using htype
      exact ⟨_, rfl⟩
    · rw [Occurrence.value?, List.lookup_cons] at hv
      split at hv
      · next hsame =>
        obtain rfl : type = "being" := by simpa using hsame
        cases hv
        exact Value.servesAs_typeName _ beings
      · cases hv
  · rintro ⟨v, -, hvalues⟩
    cases congrFun (hvalues false) default

end Vocabulary

end TriggerScript

import TriggerScript.Parsing.Statement
import TriggerScript.Proofs.Parsing.Reports

/-!
# Where entries are from

Whatever a line is read as, and however deep its expressions are nested, all entries that are left
are about this line.

* `Attempt.Located` : all entries are about one place.
* `located_matchElement` : an element with its slots and its decision.
* `located_parseWithin` : nested expressions, by induction on the levels.
* `LineReader.Honest` : a line that cannot be read leaves one error, about its own place, and one
  that can be read leaves none.
* `honest_ofRegistry` : lines that are read by registered elements.
-/

namespace TriggerScript

namespace Attempt

variable {α β : Type} {location : Option Location}

/-- All entries are about one place. -/
def Located (location : Option Location) (a : Attempt α) : Prop :=
  ∀ e ∈ a.entries, e.location = location

theorem located_ofOption (a : Option α) : (ofOption a).Located location := nofun

theorem located_refuse (message : String) (quality : Quality) :
    (refuse location message quality : Attempt α).Located location := by
  simp [Located, refuse, Entry.error]

theorem Located.after {a : Attempt α} {entries : List Entry} (ha : a.Located location)
    (hentries : ∀ e ∈ entries, e.location = location) : (a.after entries).Located location :=
  List.forall_mem_append.2 ⟨hentries, ha⟩

theorem Tidy.map {a : Attempt α} (ha : a.Tidy) (f : α → β) : (a.map f).Tidy := by
  rw [Tidy, result_map, Option.isSome_map]
  exact ha

theorem Located.map {a : Attempt α} (ha : a.Located location) (f : α → β) :
    (a.map f).Located location := ha

theorem Located.bind {a : Attempt α} {f : α → Attempt β} (ha : a.Located location)
    (hf : ∀ x, (f x).Located location) : (a.bind f).Located location := by
  unfold Attempt.bind
  split
  · exact (hf _).after ha
  · exact ha

theorem Located.orElse {a : Attempt α} {b : Unit → Attempt α} (ha : a.Located location)
    (hb : (b ()).Located location) : (a.orElse b).Located location := by
  unfold Attempt.orElse
  split
  · exact ha
  · exact hb.after ha

theorem located_firstOf {f : α → Attempt β} (hf : ∀ x, (f x).Located location) (xs : List α) :
    (firstOf f xs).Located location := by
  induction xs with
  | nil => exact located_ofOption none
  | cons x rest ih => exact (hf x).orElse ih

/-- A frame lets out nothing but what came into it, or its default. -/
theorem Located.framed {a : Attempt α} {default : Option Entry} (ha : a.Located location)
    (hdefault : ∀ e ∈ default, e.location = location) : (a.framed default).Located location := by
  unfold Attempt.framed
  split
  · exact fun e he => ha e (List.mem_filter.1 he).1
  · intro e he
    rcases Option.or_eq_some_iff.1 (Option.mem_toList.1 he) with hbest | ⟨-, hdef⟩
    · exact ha e (mem_of_bestError hbest)
    · exact hdefault e hdef

end Attempt

namespace Pattern

/-- What each try keeps is kept by all of them. -/
theorem tryEach_keeps {α σ : Type} {P : σ → Prop} {f : α → σ → Bool × σ}
    (hf : ∀ a s, P s → P (f a s).2) (xs : List α) (s : σ) (hs : P s) : P (tryEach f xs s).2 := by
  induction xs generalizing s with
  | nil => exact hs
  | cons x xs ih =>
    have hx := hf x s hs
    rw [tryEach]
    split
    · next heq => rwa [heq] at hx
    · next heq =>
      rw [heq] at hx
      exact ih _ hx

end Pattern

namespace Parsing

open Attempt

section Expressions

variable {α : Type} {registry : Registry} {read : Reader} {scope : Scope}

theorem located_parseLiteral (text : String) (slot : Slot) :
    (parseLiteral scope text slot).Located scope.location := by
  unfold parseLiteral
  split
  · exact located_ofOption _
  · exact located_refuse _ _

theorem located_acceptFor (text : String) (slot : Slot) (e : Expression) :
    (acceptFor scope text slot e).Located scope.location := by
  unfold acceptFor
  split
  · exact located_ofOption _
  · exact located_refuse _ _

theorem located_demandSingle (text : String) (slot : Slot) (e : Expression) :
    (demandSingle scope text slot e).Located scope.location := by
  unfold demandSingle
  split
  · exact located_refuse _ _
  · exact located_ofOption _

section Nested

variable (hread : ∀ text slot, (read text slot).Located scope.location)

include hread

theorem located_runSetup (setup : Setup α) :
    (runSetup read scope.location setup).Located scope.location := by
  induction setup with
  | done result => exact located_ofOption result
  | error message quality next ih => exact ih.after (by simp [Entry.error])
  | warning message next ih => exact ih.after (by simp [Entry.warning])
  | parse text slot next ih => exact (ih _).after (hread text slot)

theorem located_parseSlots (slots : List Slot) (spans : List (Option Span)) :
    (parseSlots read scope slots spans).Located scope.location := by
  induction slots generalizing spans with
  | nil => exact located_ofOption _
  | cons slot slots ih =>
    rw [parseSlots]
    split
    · exact (hread _ slot).bind fun e => (ih _).map _
    · exact (ih _).map _

theorem located_matchPattern (index : Nat) (p : Pattern) (text : String) :
    (matchPattern read scope index p text).Located scope.location := by
  rw [matchPattern, Pattern.offer_eq_tryEach]
  refine Pattern.tryEach_keeps (fun split sofar hsofar => ?_) _ _ (located_ofOption none)
  exact ((located_parseSlots hread p.slots split.spans).map _).after hsofar

theorem located_matchElement (setup : Scope → Capture → Setup α) (patterns : List Pattern)
    (text : String) : (matchElement read scope setup patterns text).Located scope.location :=
  located_firstOf (fun (index, p) => (located_matchPattern hread index p text).bind
    fun c => located_runSetup hread (setup scope c)) _

theorem located_tryEntry (text : String) (slot : Slot) (entry : ExpressionEntry Pattern) :
    (tryEntry read scope text slot entry).Located scope.location := by
  unfold tryEntry
  split
  · exact located_ofOption none
  · exact (located_matchElement hread entry.setup entry.patterns text).bind
      fun e => located_ofOption _

theorem located_tryGroup (text : String) (slot : Slot) (entries : List (ExpressionEntry Pattern)) :
    (tryGroup read scope text slot entries).Located scope.location := by
  refine List.foldlRecOn entries _ (located_ofOption none) fun sofar hsofar entry _ => ?_
  exact List.forall_mem_append.2 ⟨hsofar, located_tryEntry hread text slot entry⟩

theorem located_parseSingle (text : String) (slot : Slot) :
    (parseSingle registry read scope text slot).Located scope.location := by
  unfold parseSingle
  split
  · exact (located_runSetup hread _).bind fun parts => located_acceptFor text slot _
  · split
    · exact located_parseLiteral text slot
    · split
      · exact located_acceptFor text slot _
      · exact (located_firstOf (fun p => located_tryGroup hread text slot _) _).orElse
          (located_parseLiteral text slot)

theorem located_parseItems (slot : Slot) (items : List (List Char)) :
    (parseItems registry read scope slot items).Located scope.location := by
  induction items with
  | nil => exact located_ofOption _
  | cons item rest ih =>
    rw [parseItems]
    refine Located.bind ?_ fun e => ih.map _
    split
    · exact hread _ slot
    · exact located_parseSingle hread _ slot

theorem located_parseList (text : String) (slot : Slot) :
    (parseList registry read scope text slot).Located scope.location := by
  unfold parseList
  split
  · exact located_ofOption none
  split
  · exact located_ofOption none
  split
  · exact located_refuse _ _
  refine (located_parseItems hread _ _).bind fun items => ?_
  dsimp only
  split
  · simp [Located, Entry.warning]
  · exact located_ofOption _

theorem located_parseOnce (text : String) (slot : Slot) :
    (parseOnce registry read scope text slot).Located scope.location := by
  unfold parseOnce
  split
  · exact hread _ slot
  · exact ((located_parseSingle hread text slot).orElse
      (located_parseList hread text slot)).framed nofun

end Nested

theorem located_parseWithin (levels : Nat) (text : String) (slot : Slot) :
    (parseWithin registry scope levels text slot).Located scope.location := by
  induction levels generalizing text slot with
  | zero =>
    rw [parseWithin]
    split <;> exact located_refuse _ _
  | succ levels ih =>
    rw [parseWithin]
    split
    · exact located_refuse _ _
    · exact (located_parseOnce ih _ slot).bind fun e => located_demandSingle _ slot e

end Expressions

/-! ### Lines -/

/-- What reading a line leaves: one error if it failed and none if it succeeded, and nothing that is
about another place. -/
structure Owned {α : Type} (location : Option Location) (a : Attempt α) : Prop where
  tidy : a.Tidy
  located : a.Located location

theorem Owned.map {α β : Type} {location : Option Location} {a : Attempt α}
    (h : Owned location a) (f : α → β) : Owned location (a.map f) :=
  ⟨h.tidy.map f, h.located.map f⟩

section Lines

variable (registry : Registry) (scope : Scope) (text : String)

theorem located_parseAmong (entries : List (StatementEntry Pattern)) (complaint : String) :
    (parseAmong registry scope entries complaint text).Located scope.location :=
  (located_firstOf (fun _ => located_matchElement (located_parseWithin maxDepth) _ _ _) _).framed
    (by simp [Entry.error])

theorem owned_parseStatement : Owned scope.location (parseStatement registry scope text) :=
  ⟨tidy_parseStatement ⟨registry, scope, 0⟩ text, located_parseAmong registry scope text _ _⟩

theorem owned_parseCondition : Owned scope.location (parseCondition registry scope text) :=
  ⟨tidy_parseCondition ⟨registry, scope, 0⟩ text,
    (located_parseAmong registry scope text _ _).bind fun _ => located_ofOption _⟩

theorem owned_parseExpression (slot : Slot) :
    Owned scope.location (parseExpression registry scope text slot) :=
  ⟨tidy_read ⟨registry, scope, 0⟩ text slot, located_parseWithin maxDepth text slot⟩

theorem owned_parseHeader : Owned scope.location (parseHeader registry scope text) := by
  refine ⟨tidy_parseHeader ⟨registry, scope, 0⟩ text, Located.framed ?_ (by simp [Entry.error])⟩
  refine located_firstOf (fun entry => Located.map ?_ _) _
  let inner : Scope := { scope with events := entry.kinds }
  have hread (text : String) (slot : Slot) :
      (parseExpression registry inner text slot).Located inner.location :=
    located_parseWithin maxDepth text slot
  exact located_matchElement hread entry.setup entry.patterns _

end Lines

variable {C E X : Type}

/-- All readings of lines leave what they should. -/
structure LineReader.Honest (r : LineReader C E X) : Prop where
  statement : ∀ scope text, Owned scope.location (r.statement scope text)
  condition : ∀ scope text, Owned scope.location (r.condition scope text)
  values : ∀ scope text, Owned scope.location (r.values scope text)

/-- Lines that are read by registered elements leave what they should, whatever is registered. -/
theorem honest_ofRegistry (registry : Registry) : (LineReader.ofRegistry registry).Honest where
  statement scope text := (owned_parseStatement registry scope text).map _
  condition := owned_parseCondition registry
  values scope text := by
    dsimp only [LineReader.ofRegistry]
    exact owned_parseExpression registry scope text (.many [objectType])

end Parsing

end TriggerScript

import TriggerScript.Proofs.Engine.Ledger

/-!
# Unloading is final

Once the script of a trigger has been unloaded or replaced, the trigger does nothing any more: the
switchboard does not lead to it, and what is left of it on the agenda comes to nothing.

* `Engine.mem_gather` : what is gathered over calls comes from one of them.
* `Engine.unloading_is_final` : what becomes of a trigger that is out of use.
-/

namespace TriggerScript

namespace World

variable {w : World} {x : Walk}

/-- A change of an event leaves variables and messages alone. -/
theorem perform_of_no_trigger {job : Job} (h : job.trigger? = none) :
    (w.perform job).realm.globals = w.realm.globals ∧
      (w.perform job).realm.broadcasts = w.realm.broadcasts := by
  cases job with
  | resume t run loops item => cases h
  | periodic t => cases h
  | setCancelled e cancelled =>
    simp only [perform, setCancelled]
    split <;> exact ⟨rfl, rfl⟩

end World

namespace Engine

variable {e : Engine} {cs : List Call} {c : Call} {read gone : List Trigger} {t : Trigger}

/-- What is gathered over calls comes from one of them. -/
theorem mem_gather {α : Type} {f : Engine → Call → List α} {a : α} :
    a ∈ gather f e cs ↔
      ∃ before c after, cs = before ++ c :: after ∧ a ∈ f (e.calls before) c := by
  induction cs generalizing e with
  | nil => simp [gather]
  | cons first cs ih =>
    rw [gather, List.mem_append, ih]
    constructor
    · rintro (ha | ⟨before, c, after, rfl, ha⟩)
      · exact ⟨[], first, cs, rfl, ha⟩
      · exact ⟨first :: before, c, after, rfl, ha⟩
    · rintro ⟨before, c, after, hcs, ha⟩
      cases before with
      | nil =>
        obtain ⟨rfl, rfl⟩ := List.cons.inj hcs
        exact .inl ha
      | cons b before =>
        obtain ⟨rfl, rfl⟩ := List.cons.inj hcs
        exact .inr ⟨before, c, after, rfl, ha⟩

/-- A call begins walks through triggers that are in use or that it has read. -/
theorem not_retired_of_mem_walks {x : Walk} (hx : x ∈ e.walks c) :
    x.trigger.id ∉ e.world.realm.retired ∨ x.trigger ∈ e.reads c := by
  cases c with
  | load name source =>
    rw [walks] at hx
    rw [reads]
    exact .inr (World.mem_of_mem_activationWalks hx)
  | unload name => cases hx
  | unloadAll => cases hx
  | fire event => exact .inl (World.not_retired_of_mem_dispatchWalks hx)
  | tick => exact .inl (World.not_retired_of_mem_tickWalks hx)

/-- A job of a trigger out of use does nothing when it has its turn. -/
theorem perform_of_mem_turns {turn : Job × World} (hturn : turn ∈ e.turns c)
    (htrigger : turn.1.trigger? = some t) (hretired : t.id ∈ e.world.realm.retired) :
    turn.2.perform turn.1 = turn.2 := by
  cases c with
  | load name source => cases hturn
  | unload name => cases hturn
  | unloadAll => cases hturn
  | fire event => cases hturn
  | tick =>
    refine World.perform_of_retired htrigger ?_
    rwa [World.retired_of_mem_tickTurns hturn]

/-- Triggers out of use stay so. -/
theorem Accounts.mem_retired_calls (h : e.Accounts read gone) (ht : t ∈ gone) (cs : List Call) :
    t.id ∈ (e.calls cs).world.realm.retired := by
  obtain ⟨more, hcalls⟩ := h.calls cs
  exact hcalls.mem_retired_iff.2 (List.mem_map_of_mem (List.mem_append_right more ht))

/-- **Unloading is final.** When a trigger has been read and is not among those of loaded scripts,
then, whatever the dice show, however far walks may go and whatever is called later:

* a walk through a trigger with its number goes through one that has been read since;
* so if no such trigger is given its number, no item of it is executed any more;
* what is left of it on the agenda changes nothing when it has its turn, and changes of events that
  are still to be made leave variables and messages alone. -/
theorem unloading_is_final (registry : Registry) (options : Options) (dice : Nat → Dice)
    (stepLimit : Nat) (before after : List Call) {t : Trigger}
    (hread : t ∈ (Engine.new registry options dice stepLimit).readIn before)
    (hunloaded : t ∉ ((Engine.new registry options dice stepLimit).calls before).loaded) :
    let e := (Engine.new registry options dice stepLimit).calls before
    (∀ x ∈ e.walksIn after, x.trigger.id = t.id → x.trigger ∈ e.readIn after) ∧
    ((∀ u ∈ e.readIn after, u.id ≠ t.id) → ∀ item, (t.id, item) ∉ e.itemsIn after) ∧
    ∀ turn ∈ e.turnsIn after,
      (∀ u, turn.1.trigger? = some u → u.id = t.id → turn.2.perform turn.1 = turn.2) ∧
      (turn.1.trigger? = none →
        (turn.2.perform turn.1).realm.globals = turn.2.realm.globals ∧
        (turn.2.perform turn.1).realm.broadcasts = turn.2.realm.broadcasts) := by
  intro e
  obtain ⟨gone, haccounts⟩ := (accounts_new registry options dice stepLimit).calls before
  have hgone : t ∈ gone ++ [] := by
    have hmem := haccounts.triggers.mem_iff.2 (List.mem_append_right [] hread)
    exact (List.mem_append.1 hmem).resolve_left hunloaded
  have hwalks : ∀ x ∈ e.walksIn after, x.trigger.id = t.id → x.trigger ∈ e.readIn after := by
    intro x hx heq
    obtain ⟨early, c, late, hcalls, hwalk⟩ := mem_gather.1 hx
    obtain hactive | hreads := not_retired_of_mem_walks hwalk
    · exact absurd (heq ▸ haccounts.mem_retired_calls hgone early) hactive
    · exact mem_gather.2 ⟨early, c, late, hcalls, hreads⟩
  refine ⟨hwalks, fun hnew item hitem => ?_, fun turn hturn => ⟨fun u hu heq => ?_, fun hnone =>
    World.perform_of_no_trigger hnone⟩⟩
  · obtain ⟨x, hx, hitem⟩ := List.mem_flatMap.1 hitem
    obtain ⟨_, -, heq⟩ := List.mem_map.1 hitem
    have hid : x.trigger.id = t.id := congrArg Prod.fst heq
    exact hnew x.trigger (hwalks x hx hid) hid
  · obtain ⟨early, c, late, -, hjob⟩ := mem_gather.1 hturn
    exact perform_of_mem_turns hjob hu (heq ▸ haccounts.mem_retired_calls hgone early)

/-- An effect that announces its name, and may suspend the trigger or fail. -/
def announcing (name : String) (suspends : Option UInt64) (fault : Option String) :
    StatementEntry String where
  name := name
  patterns := [name]
  setup := .effect fun _ c =>
    .accept (.declared { (default : DeclaredEffect) with name, suspends, fault } c.use c.parts)

/-- A host with triggers for every tick and for calls. -/
def parlour : Registration :=
  { Registration.empty with
    statements := [announcing "greet" none none, announcing "pause" (some 1) none,
      announcing "stumble" none (some "fell")]
    headers := [⟨"each tick", [Vocabulary.periodic], ["each tick"], fun _ _ => .accept (.every 1)⟩,
      ⟨"call", [.plain "call"], ["call"],
        fun _ _ => .accept (.listens ⟨fun _ => "call", fun _ => true⟩)⟩] }

/-- Dice that show something else each time. -/
def risingDice (n : Nat) : Dice := ⟨fun i => n + i, 0⟩

/-- The host opens. A walk may take a hundred steps. -/
abbrev opened (registry : Registry) : Engine := .new registry .standard risingDice 100

/-- A call of someone. -/
def someone : Occurrence := ⟨0, .plain "call", [], false⟩

/-- Two triggers, one of each kind, both of which pause after a greeting. -/
def politeSource : String :=
  "on each tick:\n\tgreet\n\tpause\n\tgreet\non call:\n\tgreet\n\tpause\n\tgreet\n"

/-- Both triggers are pausing when their script is unloaded. -/
def shortVisit : List Call :=
  [.load "polite" politeSource, .tick, .fire someone, .unload "polite"]

/-- What is called after that. -/
def afterVisit : List Call := [.fire someone, .tick, .tick]

/-- Two pausing triggers are unloaded. Both have a turn on the agenda afterwards, and no item of
them is executed. -/
theorem unloading_is_final_shortVisit :
    ∃ registry t, parlour.close = .ok registry ∧
      t ∈ (opened registry).readIn shortVisit ∧
      t ∉ ((opened registry).calls shortVisit).loaded ∧
      (((opened registry).calls shortVisit).turnsIn afterVisit).length = 2 ∧
      ∀ item, (t.id, item) ∉
        ((opened registry).calls shortVisit).itemsIn afterVisit := by
  have hfacts : (parlour.close.toOption.map fun registry =>
      let start := opened registry
      let e := start.calls shortVisit
      ((start.readIn shortVisit).length, e.loaded.length, (e.turnsIn afterVisit).length,
        (e.readIn afterVisit).length)) = some (2, 0, 2, 0) := by
    decide +kernel
  cases hclose : parlour.close with
  | error fault =>
    rw [hclose] at hfacts
    cases hfacts
  | ok registry =>
    rw [hclose] at hfacts
    obtain ⟨hreads, hloaded, hturns, hlater⟩ : _ ∧ _ ∧ _ ∧ _ := by
      simpa only [Prod.mk.injEq] using Option.some.inj hfacts
    obtain ⟨t, ht⟩ := List.exists_mem_of_length_pos (Nat.lt_of_lt_of_eq Nat.two_pos hreads.symm)
    have hunloaded : t ∉ ((opened registry).calls shortVisit).loaded := by
      rw [List.length_eq_zero_iff.1 hloaded]
      exact List.not_mem_nil
    obtain ⟨-, hsilent, -⟩ :=
      unloading_is_final registry .standard risingDice 100 shortVisit afterVisit ht hunloaded
    refine ⟨registry, t, rfl, ht, hunloaded, hturns, hsilent fun u hu => ?_⟩
    rw [List.length_eq_zero_iff.1 hlater] at hu
    cases hu

end Engine

end TriggerScript

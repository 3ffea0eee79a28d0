import TriggerScript.Parsing.State
import TriggerScript.Proofs.Flow.Frames
import TriggerScript.Proofs.Parsing.Enclosing
import TriggerScript.Proofs.Parsing.Typing
import TriggerScript.Vocabulary.Types
import TriggerScript.World.Basic

/-!
# The types of what runs

The values of a running loop are of the type that was known when the lines inside it were read,
since the loop itself runs over an expression that was read. So what expressions produce in a run is
of the types that they were read for.

* `Surroundings.Typed`, `FrameTyped` : the event and a running loop have values of their types.
* `scriptBehaviour_keeps` : no line changes that.
* `holds_of_reaches` : the loops of a run are typed wherever the run comes to.
* `values_suit` : what is read suits its slot, in runs too.
-/

namespace TriggerScript

open TriggerScript.Flow

/-! ### Surroundings -/

/-- The types are those of a system, and the event carries values of the types under which they are
kept. -/
structure Surroundings.Typed (system : TypeSystem) (s : Surroundings) : Prop where
  known : s.world.realm.registry.system = system
  event : ∀ type v, s.run.event.value? type = some v → v.IsA system.types type

namespace Surroundings

variable {system : TypeSystem} {s : Surroundings}

theorem Typed.setVariable (h : s.Typed system) (name : String) (value : Value) :
    (s.setVariable name value).Typed system := by
  unfold Surroundings.setVariable
  split <;> exact ⟨h.known, h.event⟩

theorem Typed.deleteVariable (h : s.Typed system) (name : String) :
    (s.deleteVariable name).Typed system := by
  unfold Surroundings.deleteVariable
  split <;> exact ⟨h.known, h.event⟩

theorem Typed.setCancelled (h : s.Typed system) (cancelled : Bool) :
    (s.apply (.setCancelled cancelled)).Typed system := by
  have hregistry : (s.world.setCancelled s.run.event cancelled).2.realm.registry =
      s.world.realm.registry := by
    unfold World.setCancelled
    split <;> rfl
  exact ⟨(congrArg Registry.system hregistry).trans h.known, h.event⟩

/-- No effect changes the event or the types. -/
theorem Typed.apply (h : s.Typed system) (action : Action) : (s.apply action).Typed system := by
  cases action with
  | broadcast message => exact ⟨h.known, h.event⟩
  | setVariable name value => exact h.setVariable name value
  | deleteVariable name => exact h.deleteVariable name
  | setCancelled cancelled => exact h.setCancelled cancelled
  | setCancelledLater cancelled => exact ⟨h.known, h.event⟩

theorem Typed.eval {α : Type} (h : s.Typed system) (loops : ItemId → Option Value)
    (f : Sight → Eval α) : (s.eval loops f).2.Typed system :=
  ⟨h.known, h.event⟩

theorem Typed.perform (h : s.Typed system) (loops : ItemId → Option Value) (e : Effect) :
    (s.perform loops e).2.Typed system := by
  have heval := h.eval loops fun sight => e.perform sight
  unfold Surroundings.perform
  split
  · next actions pace s' heq =>
    rw [heq] at heval
    exact List.foldlRecOn (motive := Typed system) actions Surroundings.apply heval
      fun _ h action _ => h.apply action
  · next heq => rwa [heq] at heval

/-- What is evaluated is a result of the computation. -/
theorem gives_of_eval {α : Type} {loops : ItemId → Option Value} {f : Sight → Eval α} {a : α}
    (h : (s.eval loops f).1 = .ok a) : (f (s.run.sight loops s.world)).Gives a := by
  unfold eval at h
  cases heq : f (s.run.sight loops s.world) s.dice with
  | error fault =>
    rw [heq] at h
    cases h
  | ok result =>
    rw [heq] at h
    cases h
    exact ⟨s.dice, result.2, heq⟩

end Surroundings

/-- What expressions can see where a walk has come to. -/
def ScriptWalk.sight (s : ScriptWalk) : Sight :=
  s.world.run.sight s.loopValue? s.world.world

theorem ScriptWalk.system_sight {system : TypeSystem} {s : ScriptWalk}
    (h : s.world.Typed system) : s.sight.system = system :=
  h.known

/-! ### Running loops -/

/-- The current value of a running loop and those that are left are of a type. -/
structure FrameTyped (system : TypeSystem) (type : String) (frame : LoopFrame Value Supply) :
    Prop where
  current : ∀ v, frame.current = some v → v.IsA system.types type
  supply : ∀ n, ∀ v ∈ frame.supply.take system n, v.IsA system.types type

namespace FrameTyped

variable {system : TypeSystem} {type : String} {frame : LoopFrame Value Supply}

/-- A loop that has not yet taken a value. -/
theorem begun {supply : Supply} (h : ∀ n, ∀ v ∈ supply.take system n, v.IsA system.types type) :
    FrameTyped system type ⟨supply, none⟩ :=
  ⟨fun _ hv => (nomatch hv), h⟩

theorem next (h : FrameTyped system type frame) {v : Value} {rest : Supply}
    (hnext : frame.supply.next? system = some (v, rest)) :
    FrameTyped system type ⟨rest, some v⟩ := by
  have htake (n : Nat) : frame.supply.take system (n + 1) = v :: rest.take system n := by
    rw [Supply.take, hnext]
  constructor
  · rintro _ ⟨rfl⟩
    exact h.supply 1 v (by rw [htake]; exact List.mem_cons_self)
  · intro n w hw
    exact h.supply (n + 1) w (by rw [htake]; exact List.mem_cons_of_mem _ hw)

end FrameTyped

/-- **No line changes the event or the types,** and the next value of a loop is of the type of those
before. -/
theorem scriptBehaviour_keeps (system : TypeSystem) :
    scriptBehaviour.Keeps (Surroundings.Typed system) fun x => FrameTyped system x.returns where
  check _ _ _ h := h.eval _ _
  act _ _ _ h := h.perform _ _
  supply _ _ _ h := h.eval _ _
  next _ _ _ h := h
  taken _ _ _ w _ _ h hframe hnext := hframe.next (by rwa [← h.known])
  ended _ _ hframe := .begun hframe.supply

namespace Parsing

/-! ### Where runs come to -/

section Reached

variable {C E X V S W : Type} {b : Behaviour C E X V S W} {K : W → Prop} {s : WalkState V S W}
  {top : List (Step C E X)} {id : ItemId}

theorem placed_of_reaches (htop : BlockFormedAt 0 top)
    (h : Reaches (Graph.ofBlock top) b K s id) (isDelay : E → Bool) (d : Ternary) :
    Placed isDelay d top False id := by
  induction h with
  | entry _ hentry => exact (Stands.top.placed_firstOr hentry).mono False.elim
  | go _ hstep ih =>
    obtain ⟨item, hitem, ht⟩ := step_target (congrArg (Move.target ∘ Prod.fst) hstep)
    exact ih.leadsTo htop hitem ht
  | resume _ hstep _ ih =>
    obtain ⟨item, hitem, ht⟩ := step_target (congrArg (Move.target ∘ Prod.fst) hstep)
    exact ih.leadsTo htop hitem ht

/-- A run comes to steps of the body only. -/
theorem exists_standsAt_of_reaches (htop : BlockFormedAt 0 top)
    (h : Reaches (Graph.ofBlock top) b K s id) (r : LineReader C E X) (start : Place) :
    ∃ place step rest, StandsAt r start top place (step :: rest) ∧ step.id = id := by
  obtain ⟨_, _, _, step, rest, hstands, hid, -⟩ := placed_of_reaches htop h (fun _ => false) .no
  obtain ⟨place, hplace⟩ := exists_standsAt hstands r start
  exact ⟨place, step, rest, hplace, hid⟩

end Reached

/-! ### Typed loops -/

section Runs

variable {registry : Registry} {start place : Place}
  {top block : List (Step Condition Effect Expression)} {s : ScriptWalk} {id : ItemId}
  (hformed : BlockFormedAt 0 top) (hsystem : start.system = registry.system)
  (hloops : start.loops = [])

include hformed hsystem hloops

/-- What the run shows is of the types that were known at a place of the body, if its running loops
are typed. -/
theorem agrees_of_holds (hstands : StandsAt (.ofRegistry registry) start top place block)
    (h : s.Holds (Graph.ofBlock top) (Surroundings.Typed registry.system)
      fun x => FrameTyped registry.system x.returns) (p : Progress) (line : Nat) :
    s.sight.Agrees (place.scope p line) where
  system :=
    (ScriptWalk.system_sight h.world).trans (hsystem.symm.trans hstands.system_eq.symm)
  event type v hv := by
    rw [ScriptWalk.system_sight h.world]
    exact h.world.event type v hv
  loops l hl v hv := by
    have hnone : l ∉ start.loops := by simp [hloops]
    obtain ⟨place', line', x, body, rest, hloop, htype⟩ := hstands.exists_loop hl hnone
    obtain ⟨item, hitem, hkind⟩ := hloop.get?_id hformed
    obtain ⟨frame, hframe, hcurrent⟩ := Option.bind_eq_some_iff.1 hv
    rw [ScriptWalk.system_sight h.world, ← htype]
    exact (h.frames l.id frame item x _ hframe hitem hkind).current v hcurrent

variable (hsound : registry.system.Sound)
  (hbuiltIn : ∀ p, ∀ entry ∈ registry.inGroup p, Vocabulary.BuiltIn entry.setup)
  (hread : ∀ step ∈ top, ReadAt (.ofRegistry registry) start step)

include hsound hbuiltIn hread

/-- **Wherever a run comes to, its running loops are typed.** -/
theorem holds_of_reaches
    (h : Reaches (Graph.ofBlock top) scriptBehaviour (Surroundings.Typed registry.system) s id) :
    s.Holds (Graph.ofBlock top) (Surroundings.Typed registry.system)
      fun x => FrameTyped registry.system x.returns := by
  refine h.holds (scriptBehaviour_keeps registry.system) ?_
  intro (s : ScriptWalk) id item x body hreaches hholds hitem hkind supply hsupply
  obtain ⟨place, step, rest, hstands, rfl⟩ :=
    exists_standsAt_of_reaches hformed hreaches (.ofRegistry registry) start
  obtain ⟨_, hitem', hkind'⟩ := hstands.get?_id hformed
  obtain rfl := Option.some.inj (hitem'.symm.trans hitem)
  have hstep := (List.forall_mem_cons.1 (hstands.readAt hread)).1
  -- What the loop runs over was read with the loops around it, which are typed already.
  cases hstep with
  | check _ => cases hkind'.symm.trans hkind
  | act _ => cases hkind'.symm.trans hkind
  | choose _ _ => cases hkind'.symm.trans hkind
  | whileHolds _ _ => cases hkind'.symm.trans hkind
  | @loop _ p _ line text values _ hvalues _ =>
    obtain ⟨rfl, rfl⟩ := ItemKind.loop.inj (hkind'.symm.trans hkind)
    have hagrees := agrees_of_holds hformed hsystem hloops hstands hholds p line
    have hsystem := ScriptWalk.system_sight hholds.world
    have hvalues : (parseExpression registry (place.scope p line) text
        (.many [objectType])).result = some values := hvalues
    have hsuits := suits_parseExpression (hsystem ▸ hsound) hagrees hbuiltIn _ _ _ hvalues
    refine FrameTyped.begun fun n v hv => ?_
    rw [← hsystem] at hv ⊢
    exact hsuits.typed v (.iterate (Surroundings.gives_of_eval hsupply) hv)

end Runs

/-! ### Registries of built-in expressions -/

/-- The place of a body that is read next. -/
def State.place (state : State) (script : String) : Place :=
  { system := state.registry.system, script, events := state.events, loops := state.loops,
    warnMissingAnd := state.warnMissingAnd }

/-- **Whatever is read for a slot produces values of its own type, each of one of the types of the
slot.** This holds for every registry of built-in expressions with any types and conversions. A
context has to show loop values of the types that were known where the text was read; wherever a run
of a trigger comes to, it does so for the lines that were read there. -/
theorem values_suit {r : Registration} {registry : Registry}
    (hbuiltIn : ∀ e ∈ r.expressions, Vocabulary.BuiltIn e.setup) (hsound : r.system.Sound)
    (hclose : r.close = .ok registry) :
    (∀ (scope : Scope) (sight : Sight), scope.system = registry.system → sight.Agrees scope →
      ∀ depth text slot e, (parseWithin registry scope depth text slot).result = some e →
        e.Suits sight slot.types) ∧
    ∀ (state : State) (events : List EventKind) (script : String) (nodes : List Node),
      state.registry = registry →
      let begun := state.startTrigger events
      let body := (begun.readBody script nodes).1
      ∀ (s : ScriptWalk) (id : ItemId),
        Reaches body.graph scriptBehaviour (Surroundings.Typed registry.system) s id →
        ∃ place step rest,
          StandsAt (.ofRegistry registry) (begun.place script) body.steps place (step :: rest) ∧
          step.id = id ∧ ReadAt (.ofRegistry registry) place step ∧
          ∀ p line depth text slot e,
            (parseWithin registry (place.scope p line) depth text slot).result = some e →
              e.Suits s.sight slot.types := by
  obtain ⟨entries, hclosed⟩ := Registration.closed_of_close hclose
  have hsystem : registry.system.Sound := hclosed.sound hsound
  have hbuiltIn : ∀ p, ∀ entry ∈ registry.inGroup p, Vocabulary.BuiltIn entry.setup := by
    intro p entry hentry
    obtain ⟨e, he, hsetup⟩ := Registration.exists_setup_of_closed hclosed hentry
    rw [hsetup]
    exact hbuiltIn e he
  constructor
  · intro scope sight hscope hagrees depth
    exact suits_parseWithin (by rwa [hagrees.system, hscope]) hagrees hbuiltIn depth
  · rintro state events script nodes rfl begun body s id hreaches
    have hformed : BlockFormedAt 0 body.steps :=
      (reads_readBody (.ofRegistry state.registry) (begun.place script) begun.delay nodes).formed
    have hread : ∀ step ∈ body.steps,
        ReadAt (.ofRegistry state.registry) (begun.place script) step :=
      readAt_readBody (.ofRegistry state.registry) (begun.place script) begun.delay nodes
    have hknown : (begun.place script).system = state.registry.system := rfl
    have hnone : (begun.place script).loops = [] := rfl
    have hholds := holds_of_reaches hformed hknown hnone hsystem hbuiltIn hread hreaches
    obtain ⟨place, step, rest, hstands, hid⟩ := exists_standsAt_of_reaches hformed hreaches
      (.ofRegistry state.registry) (begun.place script)
    have hstep := (List.forall_mem_cons.1 (hstands.readAt hread)).1
    refine ⟨place, step, rest, hstands, hid, hstep, fun p line depth => ?_⟩
    exact suits_parseWithin (ScriptWalk.system_sight hholds.world ▸ hsystem)
      (agrees_of_holds hformed hknown hnone hstands hholds p line) hbuiltIn depth

/-! ### Ranges for texts -/

/-- A line that does nothing. -/
def resting : StatementEntry String where
  name := "rest"
  patterns := ["rest"]
  setup := .effect fun _ c =>
    .accept (.declared { (default : DeclaredEffect) with name := "rest" } c.use c.parts)

/-- Ranges of numbers, which are converted where texts are asked for, and the values of loops. -/
def ranges : Registration :=
  { Registration.empty with
    types := ⟨[Vocabulary.objects, Vocabulary.numbers, Vocabulary.texts]⟩
    conversions := ⟨[⟨numberType, textType, Vocabulary.numberToText, false⟩]⟩
    expressions := [
      ⟨"number range", numberType, .combined,
        ["[the] numbers (from|between) %number% (to|and) %number%"], Vocabulary.range⟩,
      ⟨"loop value", objectType, .simple, ["[the] loop-<.+>"], Vocabulary.loopValue⟩]
    statements := [resting] }

theorem sound_ranges : ranges.system.Sound where
  rooted := rfl
  conversions := by
    refine List.forall_mem_singleton.2 fun v w _ hw => ?_
    obtain ⟨x, -, rfl⟩ := Option.map_eq_some_iff.1 hw
    exact Value.isA_typeName _ _
  literals := by
    intro info hinfo text v hv
    simp only [ranges, Registration.system, List.mem_cons, List.not_mem_nil, or_false] at hinfo
    obtain rfl | rfl | rfl := hinfo
    · cases hv
    · have hread : Vocabulary.readNumber? text = some v := hv
      simp only [Vocabulary.readNumber?] at hread
      split at hread
      · obtain ⟨x, -, rfl⟩ := Option.map_eq_some_iff.1 hread
        exact Value.isA_typeName _ _
      · cases hread
    · cases hv

theorem builtIn_ranges : ∀ e ∈ ranges.expressions, Vocabulary.BuiltIn e.setup :=
  List.forall_mem_cons.2 ⟨Vocabulary.builtIn_iff.2 (.inr (.inr (.inr rfl))),
    List.forall_mem_singleton.2 (Vocabulary.builtIn_iff.2 (.inr (.inl rfl)))⟩

/-- A line that is run for each number of a range. -/
def countingNodes : List Node := [.heading 1 "loop numbers from 1 to 2" [.entry 2 "rest"]]

/-- The state in which it is read. -/
def countingState (registry : Registry) : State := (State.new registry true).startTrigger []

/-- A run that has not begun, in a world where nothing has happened. -/
def countingStart (registry : Registry) : ScriptWalk :=
  .start ⟨.start ⟨0, .plain "start", [], false⟩, World.new registry .standard⟩

/-- The run when it has come to the line. -/
def countingWalk (registry : Registry) : ScriptWalk :=
  (step ((countingState registry).readBody "count" countingNodes).1.graph scriptBehaviour
    (countingStart registry) 0).2

theorem reaches_countingWalk {registry : Registry}
    (hentry : ((countingState registry).readBody "count" countingNodes).1.graph.entry = some 0)
    (hmove : (step ((countingState registry).readBody "count" countingNodes).1.graph scriptBehaviour
      (countingStart registry) 0).1 = .go (some 1)) :
    Reaches ((countingState registry).readBody "count" countingNodes).1.graph scriptBehaviour
      (Surroundings.Typed registry.system) (countingWalk registry) 1 :=
  .go (.entry ⟨rfl, fun _ _ h => by cases h⟩ hentry) (Prod.ext hmove rfl)

/-- A range that is read as texts produces texts. A line in a loop over a range is reached in a run
while the loop has a value, and what is read there suits its slot. -/
theorem values_suit_ranges :
    ∃ registry e v, ranges.close = .ok registry ∧
      (parseWithin registry (bareScope registry) maxDepth "numbers from 1 to 2"
        (.many [textType])).result = some e ∧
      e.Produces (bareSight registry) v ∧ v.IsA registry.system.types textType ∧
      v.IsA registry.system.types e.returns ∧
      ((countingWalk registry).loopValue? 0).isSome ∧
      ∃ place step rest,
        StandsAt (.ofRegistry registry) ((countingState registry).place "count")
          ((countingState registry).readBody "count" countingNodes).1.steps place (step :: rest) ∧
        step.id = 1 ∧
        ∀ p line depth text slot e,
          (parseWithin registry (place.scope p line) depth text slot).result = some e →
            e.Suits (countingWalk registry).sight slot.types := by
  have hvalue : (ranges.close.toOption.bind fun registry =>
      (parseWithin registry (bareScope registry) maxDepth "numbers from 1 to 2"
        (.many [textType])).result.bind fun e =>
          (e.all (bareSight registry) default).toOption.bind fun r => r.1.head?).isSome = true := by
    decide +kernel
  have hrun : (ranges.close.toOption.map fun registry =>
      let g := ((countingState registry).readBody "count" countingNodes).1.graph
      (g.entry, (step g scriptBehaviour (countingStart registry) 0).1,
        ((countingWalk registry).loopValue? 0).isSome)) =
          some (some 0, .go (some 1), true) := by
    decide +kernel
  obtain ⟨v, hvalue⟩ := Option.isSome_iff_exists.1 hvalue
  obtain ⟨registry, hclose, hvalue⟩ := Option.bind_eq_some_iff.1 hvalue
  obtain ⟨e, hresult, hvalue⟩ := Option.bind_eq_some_iff.1 hvalue
  obtain ⟨⟨vs, dice⟩, hall, hv⟩ := Option.bind_eq_some_iff.1 hvalue
  rw [hclose, Option.map_some, Option.some.injEq, Prod.mk.injEq, Prod.mk.injEq] at hrun
  obtain ⟨hentry, hmove, hloop⟩ := hrun
  have hclose : ranges.close = .ok registry := Registration.eq_ok_of_toOption hclose
  have hproduces : e.Produces (bareSight registry) v :=
    .all ⟨default, dice, Registration.eq_ok_of_toOption hall⟩ (List.mem_of_head? hv)
  have hagrees : (bareSight registry).Agrees (bareScope registry) :=
    ⟨rfl, fun _ _ h => (nomatch h), fun _ h => (nomatch h)⟩
  obtain ⟨hsuits, hruns⟩ := values_suit builtIn_ranges sound_ranges hclose
  have hsuits := hsuits (bareScope registry) (bareSight registry) rfl hagrees maxDepth _ _ e hresult
  obtain ⟨type, htype, hrequired⟩ := hsuits.required v hproduces
  obtain rfl := List.mem_singleton.1 htype
  obtain ⟨place, step, rest, hstands, hid, -, hthere⟩ := hruns (State.new registry true) [] "count"
    countingNodes rfl (countingWalk registry) 1 (reaches_countingWalk hentry hmove)
  exact ⟨registry, e, v, hclose, hresult, hproduces, hrequired, hsuits.typed v hproduces, hloop,
    place, step, rest, hstands, hid, hthere⟩

end Parsing

end TriggerScript

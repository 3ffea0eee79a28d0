import TriggerScript.Proofs.Flow.Loops
import TriggerScript.Proofs.Parsing.BodyGraph
import TriggerScript.Proofs.Parsing.TypedRuns
import TriggerScript.Vocabulary.BuiltIn

/-!
# The loops of a run and the lines inside them

A line can only ask for the values of the loops that are around it where it is written. Whenever the
line is run these loops are running, so there always is such a value.

* `StandsAt.exists_around` : the loops known at a place are those around what stands there.
* `values_loopValue` : what a loop value produces.
* `loops_follow_nesting` : the running loops of every run of a trigger.
-/

namespace TriggerScript.Parsing

open TriggerScript.Flow

/-! ### Loops that are known to a line -/

section Known

variable {C E X : Type} {r : LineReader C E X} {start place : Place}
  {top block rest : List (Step C E X)} {step : Step C E X} {l : ItemId}

/-- The loops known at a place are those known at the start and those around it. -/
theorem StandsAt.exists_around (htop : BlockFormedAt 0 top)
    (h : StandsAt r start top place block) :
    ∃ around tail, Around top around tail block ∧
      ∀ l, l ∈ place.loops.map LoopInfo.id ↔
        l ∈ start.loops.map LoopInfo.id ∨ (Graph.ofBlock top).IsLoop l ∧ l ∈ around := by
  induction h with
  | top => exact ⟨[], none, .top, fun l => by simp⟩
  | next _ ih =>
    obtain ⟨around, tail, h, hloops⟩ := ih
    exact ⟨around, tail, h.next, hloops⟩
  | branch _ hb ih =>
    obtain ⟨around, tail, h, hloops⟩ := ih
    refine ⟨_, _, h.branch hb, fun l => (hloops l).trans (or_congr_right ?_)⟩
    exact and_congr_right fun hl => (hl.mem_cons_iff (h.not_isLoop_choose htop)).symm
  | @loop place id line x body rest _ ih =>
    obtain ⟨around, tail, h, hloops⟩ := ih
    have hid : (Graph.ofBlock top).IsLoop id := (h.isLoop_iff htop).2 ⟨x, _, rfl⟩
    refine ⟨_, _, h.loop, fun l => ?_⟩
    simp only [Place.insideLoop, List.map_append, List.mem_append, hloops l, List.map_singleton,
      List.mem_cons]
    by_cases heq : l = id
    · subst heq
      simp [hid]
    · simp [heq]
  | whileHolds _ ih =>
    obtain ⟨around, tail, h, hloops⟩ := ih
    refine ⟨_, _, h.whileHolds, fun l => (hloops l).trans (or_congr_right ?_)⟩
    exact and_congr_right fun hl => (hl.mem_cons_iff (h.not_isLoop_whileHolds htop)).symm

/-- The loops known to a line are those around it. -/
theorem StandsAt.mem_loops_iff (htop : BlockFormedAt 0 top) (hstart : start.loops = [])
    (h : StandsAt r start top place (step :: rest)) :
    l ∈ place.loops.map LoopInfo.id ↔
      (Graph.ofBlock top).IsLoop l ∧ (Graph.ofBlock top).Encloses l step.id := by
  obtain ⟨around, tail, haround, hloops⟩ := h.exists_around htop
  rw [hloops l, haround.encloses_iff htop, hstart]
  simp

end Known

/-! ### Loop values -/

/-- A loop value is the current value of its loop, if it has one. -/
theorem values_loopValue {s : ScriptWalk} {l : ItemId} {v : Value} (h : s.loopValue? l = some v)
    {sight : Sight} (hsight : sight.loopValue? = s.loopValue?) (name type : String)
    (choose : Bool) : (Expression.loopValue name l type).values sight choose = pure [v] := by
  rw [Expression.values, hsight, h]
  rfl

/-- What `loop-value` and its kin are read as always yields one value, wherever the loops known to
the line have one. -/
theorem exists_values_of_loopValue {s : ScriptWalk} {scope : Scope}
    (hloops : ∀ l ∈ scope.loops, ∃ v, s.loopValue? l.id = some v) {read : Reader}
    {location : Option Location} {c : Capture} {e : Expression}
    (h : (runSetup read location (Vocabulary.loopValue scope c)).result = some e) :
    ∃ v, ∀ sight choose, sight.loopValue? = s.loopValue? → e.values sight choose = pure [v] := by
  obtain ⟨name, wanted, index, l, hchosen, rfl⟩ := Vocabulary.exists_of_loopValue h
  have hmem : l ∈ scope.loops := by
    have hmem := Vocabulary.mem_of_chooseLoop hchosen
    cases wanted with
    | none => exact hmem
    | some type => exact (List.mem_filter.1 hmem).1
  obtain ⟨v, hv⟩ := hloops l hmem
  exact ⟨v, fun sight choose hsight => values_loopValue hv hsight name _ choose⟩

/-- **The running loops follow the nesting.** Wherever a run of a trigger comes to, whatever its
lines do and however the world changes while it is suspended, the running loops are those around
the item, and the item itself if it is a loop that the run comes back to. Each loop around the item
has a current value, which is what loop values at this line stand for, and a loop that is entered
again starts afresh. -/
theorem loops_follow_nesting (state : State) (events : List EventKind) (script : String)
    (nodes : List Node) :
    let begun := state.startTrigger events
    let body := (begun.readBody script nodes).1
    (∀ (V S W : Type) (b : Behaviour Condition Effect Expression V S W) (s : WalkState V S W)
        (id : ItemId), Reaches body.graph b (fun _ => True) s id →
      s.LoopsFit body.graph id ∧
        ∀ item x ids t s', body.graph.get? id = some item → item.kind = .loop x ids →
          step body.graph b s id = (.go t, s') → TakesNext body.graph b s s' id x) ∧
    ∀ (s : ScriptWalk) (id : ItemId), Reaches body.graph scriptBehaviour (fun _ => True) s id →
      (∀ l, body.graph.IsLoop l → body.graph.Encloses l id → ∃ v, ∀ name type sight choose,
        sight.loopValue? = s.loopValue? →
          (Expression.loopValue name l type).values sight choose = pure [v]) ∧
      ∃ place step rest,
        StandsAt (.ofRegistry state.registry) (begun.place script) body.steps place
          (step :: rest) ∧ step.id = id ∧ ReadAt (.ofRegistry state.registry) place step ∧
        (∀ l, l ∈ place.loops.map LoopInfo.id ↔
          body.graph.IsLoop l ∧ body.graph.Encloses l id) ∧
        ∀ p line c read location e,
          (runSetup read location (Vocabulary.loopValue (place.scope p line) c)).result = some e →
            ∃ v, ∀ sight choose, sight.loopValue? = s.loopValue? →
              e.values sight choose = pure [v] := by
  intro begun body
  have htop : BlockFormedAt 0 body.steps :=
    formed_readBody (.ofRegistry state.registry) (begun.place script) begun.delay nodes
  have hread : ∀ step ∈ body.steps,
      ReadAt (.ofRegistry state.registry) (begun.place script) step :=
    readAt_readBody (.ofRegistry state.registry) (begun.place script) begun.delay nodes
  constructor
  · intro V S W b s id hreaches
    obtain ⟨⟨around, hoccurs⟩, hfit⟩ := hreaches.loopsFit htop
    refine ⟨hfit, fun item x ids t s' hitem hkind hstep => ?_⟩
    exact hfit.takesNext (hoccurs.not_encloses_self htop) hitem hkind hstep
  · intro s id hreaches
    obtain ⟨-, hfit⟩ := hreaches.loopsFit htop
    obtain ⟨place, step, rest, hstands, rfl⟩ := exists_standsAt_of_reaches htop hreaches
      (.ofRegistry state.registry) (begun.place script)
    have hstep := (List.forall_mem_cons.1 (hstands.readAt hread)).1
    have hknown (l : ItemId) := hstands.mem_loops_iff (l := l) htop rfl
    constructor
    · intro l hloop henclosed
      obtain ⟨v, hv⟩ := hfit.valued l hloop henclosed
      exact ⟨v, fun name type sight choose hsight => values_loopValue hv hsight name type choose⟩
    · refine ⟨place, step, rest, hstands, rfl, hstep, hknown, fun p line c read location e he => ?_⟩
      refine exists_values_of_loopValue (fun l hl => ?_) he
      obtain ⟨hloop, henclosed⟩ := (hknown l.id).1 (List.mem_map_of_mem hl)
      exact hfit.valued l.id hloop henclosed

/-- Ranges of numbers to loop over, their values, and waiting. -/
def countdowns : Registration :=
  { Registration.empty with
    types := ⟨[Vocabulary.objects, Vocabulary.numbers]⟩
    expressions :=
      [⟨"loop value", objectType, .simple, ["[the] loop-<.+>"], Vocabulary.loopValue⟩,
        ⟨"number range", numberType, .combined, ["numbers from %number% to %number%"],
          Vocabulary.range⟩]
    statements := [⟨"wait", ["wait %number% ticks"], .effect Vocabulary.wait⟩] }

/-- Waits inside two loops. -/
def waits : List Node :=
  [.heading 1 "loop numbers from 1 to 2"
    [.heading 2 "loop numbers from 1 to 2" [.entry 3 "wait loop-value ticks"]]]

/-- The body of the lines, read with nothing around it. -/
def waitsBody : Body Condition Effect Expression :=
  let registry := countdowns.close.toOption.getD default
  (((State.new registry false).startTrigger []).readBody "test.sk" waits).1

/-- The second time the inner line is reached its loop has gone on. -/
theorem loops_follow_nesting_waits :
    ∃ s : ScriptWalk, Reaches waitsBody.graph scriptBehaviour (fun _ => True) s 2 ∧
      waitsBody.graph.Encloses 0 2 ∧ waitsBody.graph.Encloses 1 2 ∧
      ∃ v, ∀ name type sight choose, sight.loopValue? = s.loopValue? →
        (Expression.loopValue name 1 type).values sight choose = pure [v] := by
  let go (s : ScriptWalk) (id : ItemId) := step waitsBody.graph scriptBehaviour s id
  let entered := (go (go (.start default) 0).2 1).2
  let resumed := (go (go entered 2).2 1).2
  have hmoves : waitsBody.graph.entry = some 0 ∧
      (go (.start default) 0).1 = .go (some 1) ∧
      (go (go (.start default) 0).2 1).1 = .go (some 2) ∧
      (go entered 2).1 = .halt (.suspended (some 1) 1) ∧
      (go (go entered 2).2 1).1 = .go (some 2) ∧
      resumed.hasLoop 0 = true ∧ resumed.hasLoop 1 = true := by
    decide +kernel
  obtain ⟨hentry, houter, hinner, hwait, hagain, hloop₀, hloop₁⟩ := hmoves
  have hentered : Reaches waitsBody.graph scriptBehaviour (fun _ => True) entered 2 :=
    .go (.go (.entry trivial hentry) (Prod.ext houter rfl)) (Prod.ext hinner rfl)
  have hresumed : Reaches waitsBody.graph scriptBehaviour (fun _ => True) resumed 2 :=
    .go (.resume hentered (Prod.ext hwait rfl) trivial) (Prod.ext hagain rfl)
  obtain ⟨hfits, hvalues⟩ := loops_follow_nesting
    (.new (countdowns.close.toOption.getD default) false) [] "test.sk" waits
  obtain ⟨hfit, -⟩ := hfits _ _ _ scriptBehaviour resumed 2 hresumed
  obtain ⟨-, henclosed₀⟩ := (hfit.running 0).1 hloop₀
  obtain ⟨hisLoop, henclosed₁⟩ := (hfit.running 1).1 hloop₁
  have henclosed₀ := henclosed₀.resolve_right fun h => absurd h.1 (by decide)
  have henclosed₁ := henclosed₁.resolve_right fun h => absurd h.1 (by decide)
  obtain ⟨hvalue, -⟩ := hvalues resumed 2 hresumed
  exact ⟨resumed, hresumed, henclosed₀, henclosed₁, hvalue 1 hisLoop henclosed₁⟩

end TriggerScript.Parsing

import TriggerScript.Proofs.Flow.Simulation
import TriggerScript.Proofs.Flow.WellFormed
import TriggerScript.Proofs.Parsing.DelayedRun
import TriggerScript.Proofs.Parsing.Flagged

/-!
# The graph of a body

What holds of the graph of every body, whatever its lines were read as.

* `wellFormed_readBody` : its items fit together, and walks stay inside it.
* `runWithin_readBody` : walks through it do what the interpreter does with the steps of the body.
* `visits_not_delayed_iff` : when the delay flag of a line can be trusted.
-/

namespace TriggerScript.Parsing

open TriggerScript.Flow

variable {C E X V S W : Type}

/-- The steps of a body are numbered in the order of its lines, and no part of them is missing. -/
theorem formed_readBody (r : LineReader C E X) (place : Place) (delay : Ternary)
    (nodes : List Node) : BlockFormedAt 0 (readBody r place delay nodes).steps :=
  (reads_readBody r place delay nodes).formed

/-- **The graph of a body is well formed, and a walk through it never comes to a number that is
not the number of an item.** -/
theorem wellFormed_readBody (r : LineReader C E X) (place : Place) (delay : Ternary)
    (nodes : List Node) :
    (readBody r place delay nodes).graph.WellFormed
        (blockIds (readBody r place delay nodes).steps) ∧
      ∀ (V S W : Type) (b : Behaviour C E X V S W) (world : W) (delayed : Bool)
        (s : WalkState V S W) (id : ItemId),
        Visits (readBody r place delay nodes).graph b world delayed s id →
          ∃ item, (readBody r place delay nodes).graph.get? id = some item := by
  have hwf := wellFormed_ofBlock (formed_readBody r place delay nodes)
  refine ⟨hwf, fun V S W b world delayed s id hv => ?_⟩
  have hlt := hwf.visits_lt hv
  exact ⟨_, Array.getElem?_eq_getElem hlt⟩

/-- **Walking through the graph of a body, and going on after each suspension in the same state,
is running its steps.** Both check the same conditions, perform the same effects and bind the same
values in the same order, and end in the same way, after any number of steps. -/
theorem runWithin_readBody (r : LineReader C E X) (place : Place) (delay : Ternary)
    (nodes : List Node) (b : Behaviour C E X V S W) (meanwhile : UInt64 → W → W) (world : W) :
    let body := readBody r place delay nodes
    let later := fun ticks (w : W × List (Event C E X V)) => (meanwhile ticks w.1, w.2)
    (∀ n start s, runWithin body.graph b.traced later n start s =
      resumeWithin body.graph b.traced later (stepsLeft body.graph b.traced n start s)
        (walkWithin body.graph b.traced n start s)) ∧
    ∀ n, observe (runWithin body.graph b.traced later n body.graph.entry (.start (world, []))) =
      interpret b.traced later n body.steps (world, []) := by
  intro body later
  constructor
  · intro n start s
    exact runWithin_eq_resumeWithin body.graph b.traced later n start s
  · intro n
    exact observe_runWithin_ofBlock b.traced later (formed_readBody r place delay nodes) n
      (world, [])

/-! ### Delays -/

/-- The flag that is kept with a line of its own. -/
def flag? : ItemKind (C × Ternary) (E × Ternary) X → Option Ternary
  | .check c => some c.2
  | .act e => some e.2
  | .choose _ => none
  | .loop _ _ => none
  | .whileHolds _ _ => none

/-- An item stands inside a loop, and a line that delays is in the same loop. -/
def InsideDelayingLoop (isDelay : E → Bool) (start : Ternary) (top : List (Step C E X))
    (id : ItemId) : Prop :=
  ∃ d tail step rest, Stands isDelay start top d true tail (step :: rest) ∧ step.id = id

/-- The flag that is kept with a line is the one behind the lines before it. -/
theorem flag?_eq_of_stands {r : LineReader C E X} {start d flag : Ternary}
    {top rest : List (Step (C × Ternary) (E × Ternary) X)} {repeated : Bool}
    {tail : Option ItemId} {step : Step (C × Ternary) (E × Ternary) X}
    (htop : BlockRead r.flagged start top)
    (h : Stands r.flagged.isDelay start top d repeated tail (step :: rest))
    (hflag : flag? step.kind = some flag) :
    flag = d ∧ comesBack r.flagged.isDelay step = false := by
  obtain ⟨hread, -⟩ := h.read htop
  cases step with
  | check id line c =>
    obtain ⟨scope, text, rfl, hresult⟩ := hread
    obtain ⟨statement, -, hstatement⟩ := Option.map_eq_some_iff.1 hresult
    obtain rfl : c.2 = flag := Option.some.inj hflag
    cases statement with
    | inl c' =>
      obtain rfl := Sum.inl.inj hstatement
      exact ⟨rfl, rfl⟩
    | inr e => cases hstatement
  | act id line e =>
    obtain ⟨scope, text, rfl, hresult⟩ := hread
    obtain ⟨statement, -, hstatement⟩ := Option.map_eq_some_iff.1 hresult
    obtain rfl : e.2 = flag := Option.some.inj hflag
    cases statement with
    | inl c => cases hstatement
    | inr e' =>
      obtain rfl := Sum.inr.inj hstatement
      exact ⟨rfl, rfl⟩
  | choose id line branches => cases hflag
  | loop id line x body => cases hflag
  | whileHolds id line c body => cases hflag

/-- **A line that was read with the flag `no` is never come to after a delay, exactly if it is not
in a loop with a line that delays.** The body in which lines keep their flags is apart from them the
one that is read. -/
theorem visits_not_delayed_iff (r : LineReader C E X) (place : Place) (delay : Ternary)
    (nodes : List Node) {id : ItemId} {item : Item (C × Ternary) (E × Ternary) X}
    (hitem : (readBody r.flagged place delay nodes).graph.get? id = some item)
    (hflag : flag? item.kind = some .no) :
    readBody r place delay nodes = forgetBody (readBody r.flagged place delay nodes) ∧
      ((∀ (V S W : Type) (b : Behaviour (C × Ternary) (E × Ternary) X V S W),
          b.SuspendsBy r.flagged.isDelay → ∀ (world : W) (s : WalkState V S W),
            ¬ Visits (readBody r.flagged place delay nodes).graph b world true s id) ↔
        ¬ InsideDelayingLoop r.flagged.isDelay delay
          (readBody r.flagged place delay nodes).steps id) := by
  have htop := formed_readBody r.flagged place delay nodes
  have hread := (reads_readBody r.flagged place delay nodes).read
  refine ⟨forget_readBody r place delay nodes, ?_⟩
  constructor
  -- Inside such a loop the oracle leads to the line after the delay.
  · rintro hnever ⟨d, tail, step, rest, hs, rfl⟩
    obtain ⟨world, s, hv⟩ := exists_visits_delayed htop hs
    exact hnever _ _ _ _ (oracle_suspendsBy _) world s hv
  · intro houtside V S W b hb world s hv
    obtain ⟨d, repeated, tail, step, rest, hs, rfl, hlate⟩ :=
      @placed_of_visits _ _ X V S W _ delay _ htop b hb world true s id hv
    obtain ⟨_, hitem', hkind, -⟩ := hs.get?_id htop
    obtain rfl := Option.some.inj (hitem'.symm.trans hitem)
    rw [hkind] at hflag
    obtain ⟨rfl, hback⟩ := flag?_eq_of_stands hread hs hflag
    obtain hd | rfl | hback' := hlate rfl
    · exact hd rfl
    · exact houtside ⟨_, tail, step, rest, hs, rfl⟩
    · rw [hback] at hback'
      cases hback'

/-- Reads every line of its own as an effect, of which `wait` delays, and every loop as one over
values. -/
def waitReader : LineReader Unit Bool Unit where
  statement _ text := .ok (.inr (text == "wait"))
  condition _ _ := .ok ()
  values _ _ := .ok ()
  isDelay waits := waits
  isSingle _ := false
  returns _ := "text"

/-- A script by itself. -/
def alone : Place := ⟨default, "test.sk", [], [], false⟩

/-- A loop in which a line stands before one that delays. -/
def cancelThenWait : List Node := [.heading 1 "loop all" [.entry 2 "cancel", .entry 3 "wait"]]

theorem visits_not_delayed_iff_cancelThenWait :
    ∃ item, (readBody waitReader.flagged alone .no cancelThenWait).graph.get? 1 = some item ∧
      flag? item.kind = some .no ∧
      readBody waitReader alone .no cancelThenWait =
        forgetBody (readBody waitReader.flagged alone .no cancelThenWait) ∧
      ((∀ (V S W : Type) (b : Behaviour (Unit × Ternary) (Bool × Ternary) Unit V S W),
          b.SuspendsBy waitReader.flagged.isDelay → ∀ (world : W) (s : WalkState V S W),
            ¬ Visits (readBody waitReader.flagged alone .no cancelThenWait).graph b world true s
              1) ↔
        ¬ InsideDelayingLoop waitReader.flagged.isDelay .no
          (readBody waitReader.flagged alone .no cancelThenWait).steps 1) :=
  ⟨_, rfl, rfl, visits_not_delayed_iff waitReader alone .no cancelThenWait rfl rfl⟩

/-- The graph of the loop. -/
def cancelThenWaitGraph : Graph (Unit × Ternary) (Bool × Ternary) Unit :=
  ⟨#[⟨.loop () [1, 2], none, none, 1⟩, ⟨.act (false, .no), some 2, some 0, 2⟩,
    ⟨.act (true, .no), some 0, some 0, 3⟩], some 0⟩

/-- **The flag `no` does not rule out a delay.** In the second round of the loop its first line is
come to after the delay below it. -/
theorem visits_cancelThenWait_delayed :
    ∃ item s, (readBody waitReader.flagged alone .no cancelThenWait).graph.get? 1 = some item ∧
      flag? item.kind = some .no ∧
      Behaviour.SuspendsBy (oracle waitReader.flagged.isDelay : Behaviour (Unit × Ternary)
        (Bool × Ternary) Unit Unit Unit (List Bool)) waitReader.flagged.isDelay ∧
      Visits (readBody waitReader.flagged alone .no cancelThenWait).graph
        (oracle waitReader.flagged.isDelay) [true, true] true s 1 := by
  have hgraph : (readBody waitReader.flagged alone .no cancelThenWait).graph =
      cancelThenWaitGraph := rfl
  rw [hgraph]
  have hloop : Visits cancelThenWaitGraph (oracle waitReader.flagged.isDelay) [true, true] false
      _ 0 := .entry rfl
  have hcancel : Visits cancelThenWaitGraph _ _ false _ 1 := hloop.go rfl
  have hwait : Visits cancelThenWaitGraph _ _ false _ 2 := hcancel.go rfl
  have hagain : Visits cancelThenWaitGraph _ _ true _ 0 := hwait.resume rfl [true]
  have hlate : Visits cancelThenWaitGraph _ _ true _ 1 := hagain.go rfl
  exact ⟨_, _, rfl, rfl, oracle_suspendsBy _, hlate⟩

end TriggerScript.Parsing

import TriggerScript.Parsing.State
import TriggerScript.Proofs.Parsing.Mirrors

/-!
# Lines and the items of a graph

No line of a trigger is lost: each leaves at most one error, and if there is none, each is an item of
the graph or a branch of one. Items are numbered in the order of the lines.

* `itemCount` : how many items some nodes are to become.
* `Depicts` : the items of a graph that some nodes have become.
* `Mirrors.depicts` : the steps of a block, laid out in a graph.
* `accounted_readBody` : the lines of a trigger, what they leave and what they become.
-/

namespace TriggerScript.Parsing

open TriggerScript.Flow

variable {C E X : Type}

mutual

/-- How many items a node is to become, with the lines inside it. Only a heading that goes on with
a conditional is no item itself. -/
def itemCountOfNode : Node → Nat
  | .entry .. => 1
  | .heading _ key children => (if (classify key true).continues then 0 else 1) + itemCount children

/-- How many items some nodes are to become. -/
def itemCount : List Node → Nat
  | [] => 0
  | node :: rest => itemCountOfNode node + itemCount rest

end

/-- The items of a graph from the number `n` on are what some nodes have become: first the further
branches of the conditional above them, if there is one, and then the items with the given numbers.
The number of this conditional and whether it has its last branch are known. The items stand inside
`parent`. -/
inductive Depicts (r : LineReader C E X) (g : Graph C E X) :
    Place → Option ItemId → Option (ItemId × Bool) → ItemId → List Node →
      List (Option C × List ItemId) → List ItemId → Prop where
  | nil {place : Place} {parent : Option ItemId} {n : ItemId} : Depicts r g place parent none n [] [] []
  | check {place : Place} {parent next : Option ItemId} {p : Progress} {n : ItemId} {line : Nat}
    {key : String} {rest : List Node} {ids : List ItemId} {c : C}
    (h : (r.statement (place.scope p line) (Text.trimString key)).result = some (.inl c))
    (hitem : g.get? n = some ⟨.check c, next, parent, line⟩)
    (hrest : Depicts r g place parent none (n + 1) rest [] ids) :
    Depicts r g place parent none n (.entry line key :: rest) [] (n :: ids)
  | act {place : Place} {parent next : Option ItemId} {p : Progress} {n : ItemId} {line : Nat}
    {key : String} {rest : List Node} {ids : List ItemId} {e : E}
    (h : (r.statement (place.scope p line) (Text.trimString key)).result = some (.inr e))
    (hitem : g.get? n = some ⟨.act e, next, parent, line⟩)
    (hrest : Depicts r g place parent none (n + 1) rest [] ids) :
    Depicts r g place parent none n (.entry line key :: rest) [] (n :: ids)
  | choose {place : Place} {parent next : Option ItemId} {p : Progress} {n : ItemId} {line : Nat}
    {key text : String} {children rest : List Node} {body ids : List ItemId}
    {branches : List (Option C × List ItemId)} {c : C} (hkind : classify key true = .ifHolds text)
    (h : (r.condition (place.scope p line) text).result = some c)
    (hitem : g.get? n = some ⟨.choose ((some c, body) :: branches), next, parent, line⟩)
    (hbody : Depicts r g place (some n) none (n + 1) children [] body)
    (hrest : Depicts r g place parent (some (n, false)) (n + 1 + itemCount children) rest branches
      ids) :
    Depicts r g place parent none n (.heading line key children :: rest) [] (n :: ids)
  | loop {place : Place} {parent next : Option ItemId} {p : Progress} {n : ItemId} {line : Nat}
    {key text : String} {children rest : List Node} {body ids : List ItemId} {x : X}
    (hkind : classify key true = .loop text)
    (h : (r.values (place.scope p line) text).result = some x)
    (hitem : g.get? n = some ⟨.loop x body, next, parent, line⟩)
    (hbody : Depicts r g (place.insideLoop ⟨n, r.returns x⟩) (some n) none (n + 1) children [] body)
    (hrest : Depicts r g place parent none (n + 1 + itemCount children) rest [] ids) :
    Depicts r g place parent none n (.heading line key children :: rest) [] (n :: ids)
  | whileHolds {place : Place} {parent next : Option ItemId} {p : Progress} {n : ItemId}
    {line : Nat} {key text : String} {children rest : List Node} {body ids : List ItemId} {c : C}
    (hkind : classify key true = .whileHolds text)
    (h : (r.condition (place.scope p line) text).result = some c)
    (hitem : g.get? n = some ⟨.whileHolds c body, next, parent, line⟩)
    (hbody : Depicts r g place (some n) none (n + 1) children [] body)
    (hrest : Depicts r g place parent none (n + 1 + itemCount children) rest [] ids) :
    Depicts r g place parent none n (.heading line key children :: rest) [] (n :: ids)
  | close {place : Place} {parent : Option ItemId} {above : ItemId × Bool} {n : ItemId}
    {nodes : List Node} {ids : List ItemId} (h : Depicts r g place parent none n nodes [] ids) :
    Depicts r g place parent (some above) n nodes [] ids
  | elseIf {place : Place} {parent : Option ItemId} {above : ItemId} {p : Progress} {n : ItemId}
    {line : Nat} {key text : String} {children rest : List Node} {body ids : List ItemId}
    {branches : List (Option C × List ItemId)} {c : C} (hkind : classify key true = .elseIf text)
    (h : (r.condition (place.scope p line) text).result = some c)
    (hbody : Depicts r g place (some above) none n children [] body)
    (hrest : Depicts r g place parent (some (above, false)) (n + itemCount children) rest branches
      ids) :
    Depicts r g place parent (some (above, false)) n (.heading line key children :: rest)
      ((some c, body) :: branches) ids
  | otherwise {place : Place} {parent : Option ItemId} {above : ItemId} {n : ItemId} {line : Nat}
    {key : String} {children rest : List Node} {body ids : List ItemId}
    {branches : List (Option C × List ItemId)} (hkind : classify key true = .otherwise)
    (hbody : Depicts r g place (some above) none n children [] body)
    (hrest : Depicts r g place parent (some (above, true)) (n + itemCount children) rest branches
      ids) :
    Depicts r g place parent (some (above, false)) n (.heading line key children :: rest)
      ((none, body) :: branches) ids

section Layout

variable {r : LineReader C E X} {g : Graph C E X} {place : Place} {nodes : List Node}
  {branches : List (Branch C E X)} {steps : List (Step C E X)}

/-- Nodes become as many items as they should. -/
theorem Mirrors.size_eq {open? : Option Bool} (h : Mirrors r place open? nodes branches steps) :
    branchesSize branches + blockSize steps = itemCount nodes := by
  induction h with
  | nil => rfl
  | check h hrest ih | act h hrest ih =>
    simp only [blockSize, Step.size, branchesSize, itemCount, itemCountOfNode] at ih ⊢
    omega
  | choose hkind h hbody hrest ihbody ih | loop hkind h hbody hrest ihbody ih
  | whileHolds hkind h hbody hrest ihbody ih | elseIf hkind h hbody hrest ihbody ih
  | otherwise hkind hbody hrest ihbody ih =>
    simp only [blockSize, Step.size, branchesSize, Branch.size, itemCount, itemCountOfNode, hkind,
      LineKind.continues] at ihbody ih ⊢
    simp only [Bool.false_eq_true, if_true, if_false]
    omega
  | close h ih => exact ih

theorem Mirrors.blockSize_eq (h : Mirrors r place none nodes [] steps) :
    blockSize steps = itemCount nodes := by
  simpa only [branchesSize, Nat.zero_add] using h.size_eq

/-- The items of branches and of steps that stand in a graph, one behind the other. -/
theorem Mirrors.depicts {open? : Option Bool} (h : Mirrors r place open? nodes branches steps)
    (n above : ItemId) (parent next tail : Option ItemId) (hbranches : BranchesFormedAt n branches)
    (hsteps : BlockFormedAt (n + branchesSize branches) steps)
    (hfurther : g.HoldsAt n (layBranches (some above) next branches))
    (hitems : g.HoldsAt (n + branchesSize branches) (layBlock parent tail steps)) :
    Depicts r g place parent (open?.map (above, ·)) n nodes (branchIds branches)
      (blockIds steps) := by
  induction h generalizing n above parent next tail with
  | nil => exact .nil
  | check h hrest ih =>
    rw [branchesSize, Nat.add_zero] at hsteps hitems
    obtain ⟨rfl, hsteps⟩ := hsteps
    obtain ⟨hitem, hitems⟩ := Graph.holdsAt_layBlock_cons.1 hitems
    exact .check h (Graph.holdsAt_cons.1 hitem).1
      (ih _ above parent next tail trivial hsteps (Graph.holdsAt_nil g _) hitems)
  | act h hrest ih =>
    rw [branchesSize, Nat.add_zero] at hsteps hitems
    obtain ⟨rfl, hsteps⟩ := hsteps
    obtain ⟨hitem, hitems⟩ := Graph.holdsAt_layBlock_cons.1 hitems
    exact .act h (Graph.holdsAt_cons.1 hitem).1
      (ih _ above parent next tail trivial hsteps (Graph.holdsAt_nil g _) hitems)
  | @choose _ _ _ _ _ _ _ _ _ _ id _ hkind h hbody hrest ihbody ih =>
    rw [branchesSize, Nat.add_zero] at hsteps hitems
    obtain ⟨⟨rfl, -, hinner, hothers⟩, hsteps⟩ := hsteps
    obtain ⟨hitem, hitems⟩ := Graph.holdsAt_layBlock_cons.1 hitems
    obtain ⟨hitem, hlaid⟩ := Graph.holdsAt_cons.1 hitem
    obtain ⟨hlaid, hfurther⟩ := Graph.holdsAt_layBranches_cons.1 hlaid
    rw [Branch.size, hbody.blockSize_eq] at hothers hfurther
    -- Behind the first branch come the other branches, and behind them the steps below.
    rw [Step.size, branchesSize, Branch.size, hbody.blockSize_eq, Nat.add_right_comm,
      Nat.add_comm _ 1, ← Nat.add_assoc, ← Nat.add_assoc] at hsteps hitems
    exact .choose hkind h hitem (ihbody _ id _ none _ trivial hinner (Graph.holdsAt_nil g _) hlaid)
      (ih _ id parent _ tail hothers hsteps hfurther hitems)
  | @loop _ _ _ _ _ _ _ _ _ id _ hkind h hbody hrest ihbody ih =>
    rw [branchesSize, Nat.add_zero] at hsteps hitems
    obtain ⟨⟨rfl, -, hinner⟩, hsteps⟩ := hsteps
    obtain ⟨hitem, hitems⟩ := Graph.holdsAt_layBlock_cons.1 hitems
    obtain ⟨hitem, hlaid⟩ := Graph.holdsAt_cons.1 hitem
    rw [Step.size, hbody.blockSize_eq, Nat.add_comm _ 1, ← Nat.add_assoc] at hsteps hitems
    exact .loop hkind h hitem (ihbody _ id _ none _ trivial hinner (Graph.holdsAt_nil g _) hlaid)
      (ih _ above parent next tail trivial hsteps (Graph.holdsAt_nil g _) hitems)
  | @whileHolds _ _ _ _ _ _ _ _ _ id _ hkind h hbody hrest ihbody ih =>
    rw [branchesSize, Nat.add_zero] at hsteps hitems
    obtain ⟨⟨rfl, -, hinner⟩, hsteps⟩ := hsteps
    obtain ⟨hitem, hitems⟩ := Graph.holdsAt_layBlock_cons.1 hitems
    obtain ⟨hitem, hlaid⟩ := Graph.holdsAt_cons.1 hitem
    rw [Step.size, hbody.blockSize_eq, Nat.add_comm _ 1, ← Nat.add_assoc] at hsteps hitems
    exact .whileHolds hkind h hitem
      (ihbody _ id _ none _ trivial hinner (Graph.holdsAt_nil g _) hlaid)
      (ih _ above parent next tail trivial hsteps (Graph.holdsAt_nil g _) hitems)
  | elseIf hkind h hbody hrest ihbody ih =>
    obtain ⟨hinner, hothers⟩ := hbranches
    obtain ⟨hlaid, hfurther⟩ := Graph.holdsAt_layBranches_cons.1 hfurther
    rw [Branch.size, hbody.blockSize_eq] at hothers hfurther
    rw [branchesSize, Branch.size, hbody.blockSize_eq, ← Nat.add_assoc] at hsteps hitems
    exact .elseIf hkind h (ihbody n above _ none _ trivial hinner (Graph.holdsAt_nil g _) hlaid)
      (ih _ above parent next tail hothers hsteps hfurther hitems)
  | otherwise hkind hbody hrest ihbody ih =>
    obtain ⟨hinner, hothers⟩ := hbranches
    obtain ⟨hlaid, hfurther⟩ := Graph.holdsAt_layBranches_cons.1 hfurther
    rw [Branch.size, hbody.blockSize_eq] at hothers hfurther
    rw [branchesSize, Branch.size, hbody.blockSize_eq, ← Nat.add_assoc] at hsteps hitems
    exact .otherwise hkind (ihbody n above _ none _ trivial hinner (Graph.holdsAt_nil g _) hlaid)
      (ih _ above parent next tail hothers hsteps hfurther hitems)
  | close h ih => exact .close (ih n above parent next tail hbranches hsteps hfurther hitems)

end Layout

/-- **No line of a trigger is lost.** Whatever is registered and whatever surrounds the trigger, each
line below its header leaves at most one error, which is about that line; and if no error is left,
the items of its graph are what the lines have become, one after the other, and there are no other
items. -/
theorem accounted_readBody (s : State) (script : String) (nodes : List Node) :
    let (body, after) := s.readBody script nodes
    (∃ shares, List.Forall₂ (Share script) (linesOf nodes) shares ∧
      after.log = s.log.addAll shares.flatten) ∧
    (after.log.errorsHere = s.log.errorsHere → ∃ ids,
      Depicts (.ofRegistry s.registry) body.graph ⟨s.registry.system, script, s.events, s.loops,
        s.warnMissingAnd⟩ none none 0 nodes [] ids ∧
      body.graph.entry = ids.head? ∧ body.graph.size = itemCount nodes) := by
  have hr := honest_ofRegistry s.registry
  generalize hplace : Place.mk s.registry.system script s.events s.loops s.warnMissingAnd = place
  have hscript : place.script = script := by rw [← hplace]
  simp only [State.readBody, hplace]
  constructor
  · obtain ⟨shares, hshares, hentries⟩ := adds_readBlock hr place nodes .none ⟨s.delay, 0, []⟩
    rw [hscript] at hshares
    exact ⟨shares, hshares, congrArg s.log.addAll hentries⟩
  · intro hquiet
    have hnone : errorsOf (readBody (.ofRegistry s.registry) place s.delay nodes).entries = [] := by
      rw [Log.errorsHere_addAll] at hquiet
      exact List.eq_nil_of_length_eq_zero (by omega)
    have hmirrors := mirrors_readBody hr place s.delay nodes hnone
    have hformed := (reads_readBody (.ofRegistry s.registry) place s.delay nodes).formed
    refine ⟨_, hmirrors.depicts 0 0 none none none trivial hformed (Graph.holdsAt_nil _ _)
      (Graph.holdsAt_ofBlock _), ?_, ?_⟩
    · exact (firstOr_eq _ none).trans Option.or_none
    · exact (Graph.size_ofBlock _).trans hmirrors.blockSize_eq

/-- A condition `ready` and an effect `go`. -/
def switches : Registry where
  system := ⟨.empty, .empty, .empty⟩
  expressions := []
  statements :=
    [⟨"ready", [⟨"ready", [.literal "ready".toList], [], []⟩],
        .condition fun _ _ => .accept (.comparison default default .equal false)⟩,
      ⟨"go", [⟨"go", [.literal "go".toList], [], []⟩], .effect fun _ _ => .accept (.delete [])⟩]
  headers := []

/-- A conditional with two branches, and a line below it. -/
def readyOrNot : List Node :=
  [.heading 1 "if ready" [.entry 2 "go"], .heading 3 "else" [.entry 4 "go", .entry 5 "ready"],
    .entry 6 "go"]

theorem accounted_readBody_readyOrNot :
    let (body, after) := (State.new switches false).readBody "test.sk" readyOrNot
    after.log.errorsHere = 0 ∧ ∃ ids,
      Depicts (.ofRegistry switches) body.graph ⟨switches.system, "test.sk", [], [], false⟩ none none
        0 readyOrNot [] ids ∧
      body.graph.entry = ids.head? ∧ body.graph.size = 5 := by
  have hquiet : ((State.new switches false).readBody "test.sk" readyOrNot).2.log.errorsHere = 0 := by
    decide +kernel
  exact ⟨hquiet, (accounted_readBody (State.new switches false) "test.sk" readyOrNot).2 hquiet⟩

end TriggerScript.Parsing

import TriggerScript.Parsing.Body

/-!
# Bodies with their flags

Lines of their own may keep the delay flag with which they were read. Apart from what is kept, the
body stays the same.

* `LineReader.flagged` : a reader that keeps the flag of each line of its own.
* `forgetStep`, `forgetBody` : a step and a body without the flags.
* `forget_readBody` : what is kept changes nothing else.
-/

namespace TriggerScript.Parsing

open TriggerScript.Flow

variable {C E X : Type}

/-- The same reader, which keeps with each line the delay flag with which it was read. -/
def LineReader.flagged (r : LineReader C E X) : LineReader (C × Ternary) (E × Ternary) X where
  statement scope text :=
    (r.statement scope text).map (Sum.map (·, scope.delay) (·, scope.delay))
  condition scope text := (r.condition scope text).map (·, scope.delay)
  values := r.values
  isDelay e := r.isDelay e.1
  isSingle := r.isSingle
  returns := r.returns

mutual

/-- A step without the flags. -/
def forgetStep : Step (C × Ternary) (E × Ternary) X → Step C E X
  | .check id line c => .check id line c.1
  | .act id line e => .act id line e.1
  | .choose id line branches => .choose id line (forgetBranches branches)
  | .loop id line x body => .loop id line x (forgetBlock body)
  | .whileHolds id line c body => .whileHolds id line c.1 (forgetBlock body)

/-- The steps of a block without the flags. -/
def forgetBlock : List (Step (C × Ternary) (E × Ternary) X) → List (Step C E X)
  | [] => []
  | step :: rest => forgetStep step :: forgetBlock rest

/-- Branches without the flags. -/
def forgetBranches : List (Branch (C × Ternary) (E × Ternary) X) → List (Branch C E X)
  | [] => []
  | branch :: rest => forgetBranch branch :: forgetBranches rest

/-- A branch without the flags. -/
def forgetBranch : Branch (C × Ternary) (E × Ternary) X → Branch C E X
  | .mk condition body => .mk (condition.map Prod.fst) (forgetBlock body)

end

theorem forgetBlock_eq_map (block : List (Step (C × Ternary) (E × Ternary) X)) :
    forgetBlock block = block.map forgetStep := by
  induction block with
  | nil => rfl
  | cons step rest ih => rw [forgetBlock, ih, List.map_cons]

theorem forgetBranches_eq_map (branches : List (Branch (C × Ternary) (E × Ternary) X)) :
    forgetBranches branches = branches.map forgetBranch := by
  induction branches with
  | nil => rfl
  | cons branch rest ih => rw [forgetBranches, ih, List.map_cons]

/-- What was read, without the flags. -/
def forgetRead (read : List (Step (C × Ternary) (E × Ternary) X) × Progress) :
    List (Step C E X) × Progress :=
  (forgetBlock read.1, read.2)

/-- A body without the flags. -/
def forgetBody (body : Body (C × Ternary) (E × Ternary) X) : Body C E X :=
  ⟨forgetBlock body.steps, body.delay, body.entries⟩

/-- Branches that may still be continued, without the flags. -/
def Chain.forget (c : Chain (C × Ternary) (E × Ternary) X) : Chain C E X :=
  { c with branches := c.branches.map forgetBranch }

/-- What the next line may continue, without the flags. -/
def Pending.forget (pending : Pending (C × Ternary) (E × Ternary) X) : Pending C E X :=
  { pending with chain := pending.chain.map Chain.forget }

/-- Reading what is inside a heading keeps flags, and nothing else changes. -/
def Forgets (inside' : Inside (C × Ternary) (E × Ternary) X) (inside : Inside C E X) : Prop :=
  ∀ place p, inside place p = forgetRead (inside' place p)

section Lines

variable {r : LineReader C E X} {place : Place} {line : Nat} {text : String} {p : Progress}
  {inside' : Inside (C × Ternary) (E × Ternary) X} {inside : Inside C E X}
  {pending : Pending (C × Ternary) (E × Ternary) X}

theorem forget_closeChain (chain : Option (Chain (C × Ternary) (E × Ternary) X)) :
    closeChain (chain.map Chain.forget) p = forgetRead (closeChain chain p) := by
  cases chain with
  | none => rfl
  | some c =>
    simp [closeChain, Chain.close, Chain.forget, forgetRead, forgetBlock, forgetStep,
      forgetBranches_eq_map]

theorem forget_readLine : readLine r place line text p =
    forgetRead (readLine r.flagged place line text p) := by
  simp only [readLine, Progress.attempt, LineReader.flagged, Attempt.map]
  cases (r.statement (place.scope p line) (Text.trimString text)).result with
  | none => rfl
  | some statement =>
    cases statement with
    | inl c => rfl
    | inr e => rfl

theorem forget_readBranch (hin : Forgets inside' inside)
    (c : Chain (C × Ternary) (E × Ternary) X) (condition : Option (C × Ternary)) :
    c.forget.readBranch place inside (condition.map Prod.fst) p =
      ((c.readBranch place inside' condition p).1.forget,
        (c.readBranch place inside' condition p).2) := by
  simp [Chain.readBranch, Chain.forget, Chain.add, hin place, forgetRead, forgetBranch]

/-- A branch that has been read may be continued, with its flags or without. -/
theorem forget_pending (hin : Forgets inside' inside)
    (c : Chain (C × Ternary) (E × Ternary) X) (condition : Option (C × Ternary)) (skipElse : Bool) :
    (Pending.mk (some (c.forget.readBranch place inside (condition.map Prod.fst) p).1) skipElse,
        (c.forget.readBranch place inside (condition.map Prod.fst) p).2) =
      ((Pending.mk (some (c.readBranch place inside' condition p).1) skipElse).forget,
        (c.readBranch place inside' condition p).2) := by
  rw [forget_readBranch hin]
  rfl

theorem forget_beginChain (hin : Forgets inside' inside) :
    beginChain r place line text inside p =
      ((beginChain r.flagged place line text inside' p).1.forget,
        (beginChain r.flagged place line text inside' p).2) := by
  simp only [beginChain, Progress.attempt, LineReader.flagged, Attempt.map]
  cases (r.condition (place.scope p line) text).result with
  | none => rfl
  | some c =>
    exact forget_pending hin ⟨p.next, line, p.delay, [], false, []⟩ (some (c, p.delay)) false

theorem forget_continueChain {text : Option String} {complaint : String}
    (hin : Forgets inside' inside) :
    continueChain r place line text complaint inside pending.forget p =
      ((continueChain r.flagged place line text complaint inside' pending p).1.forget,
        (continueChain r.flagged place line text complaint inside' pending p).2) := by
  obtain ⟨chain, skipElse⟩ := pending
  cases skipElse with
  | true => rfl
  | false =>
    have hfilter : (chain.map Chain.forget).filter (!·.hasElse) =
        (chain.filter (!·.hasElse)).map Chain.forget := by
      cases chain with
      | none => rfl
      | some c => cases hc : c.hasElse <;> simp [Option.filter, Chain.forget, hc]
    simp only [continueChain, Pending.forget, Bool.false_eq_true, if_false, hfilter]
    cases hbegun : chain.filter (!·.hasElse) with
    | none => rfl
    | some begun =>
      cases text with
      | none => exact forget_pending hin begun none false
      | some text =>
        simp only [Option.map_some, Progress.attempt, LineReader.flagged, Attempt.map]
        cases (r.condition (place.scope p line) text).result with
        | none => rfl
        | some c => exact forget_pending hin begun (some (c, p.delay)) false

theorem forget_readRepeating {inside' : ItemId → Progress →
      List (Step (C × Ternary) (E × Ternary) X) × Progress}
    {inside : ItemId → Progress → List (Step C E X) × Progress}
    {step' : ItemId → List (Step (C × Ternary) (E × Ternary) X) →
      Step (C × Ternary) (E × Ternary) X}
    {step : ItemId → List (Step C E X) → Step C E X}
    (hin : ∀ id p, inside id p = forgetRead (inside' id p))
    (hstep : ∀ id body, step id (forgetBlock body) = forgetStep (step' id body)) :
    readRepeating inside step p = forgetRead (readRepeating inside' step' p) := by
  rcases hread : inside' p.next { p with next := p.next + 1 } with ⟨body, q⟩
  simp only [readRepeating, Progress.draw, hin, hread, forgetRead]
  cases body with
  | nil => rfl
  | cons first rest =>
    simp only [List.isEmpty_cons, Bool.false_eq_true, if_false, forgetBlock, ← hstep]

theorem forget_readLoop (hin : Forgets inside' inside) :
    readLoop r place line text inside p =
      forgetRead (readLoop r.flagged place line text inside' p) := by
  simp only [readLoop, Progress.attempt, LineReader.flagged]
  cases (r.values (place.scope p line) text).result with
  | none => rfl
  | some values =>
    cases hsingle : r.isSingle values with
    | true =>
      simp only [hsingle, if_true]
      rfl
    | false =>
      simp only [hsingle, Bool.false_eq_true, if_false]
      exact forget_readRepeating (fun _ p => hin _ p) fun _ _ => rfl

theorem forget_readWhile (hin : Forgets inside' inside) :
    readWhile r place line text inside p =
      forgetRead (readWhile r.flagged place line text inside' p) := by
  simp only [readWhile, Progress.attempt, LineReader.flagged, Attempt.map]
  cases (r.condition (place.scope p line) text).result with
  | none => rfl
  | some c => exact forget_readRepeating (fun _ p => hin _ p) fun _ _ => rfl

/-- The steps that end with a node and what the next node may continue, without the flags. -/
def forgetNode (read : List (Step (C × Ternary) (E × Ternary) X) ×
      Pending (C × Ternary) (E × Ternary) X × Progress) :
    List (Step C E X) × Pending C E X × Progress :=
  (forgetBlock read.1, read.2.1.forget, read.2.2)

theorem forget_settle (kind : LineKind) :
    settle kind pending.forget p = forgetNode (settle kind pending p) := by
  cases hk : kind.continues with
  | true =>
    simp only [settle, hk, if_true]
    rfl
  | false =>
    simp only [settle, hk, Bool.false_eq_true, if_false, Pending.forget, forget_closeChain]
    rfl

theorem forget_readHeading {kind : LineKind} (hin : Forgets inside' inside) :
    readHeading r place line kind inside pending.forget p =
      forgetNode (readHeading r.flagged place line kind inside' pending p) := by
  cases kind with
  | ifHolds text => exact congrArg (Prod.mk []) (forget_beginChain hin)
  | elseIf text => exact congrArg (Prod.mk []) (forget_continueChain hin)
  | otherwise => exact congrArg (Prod.mk []) (forget_continueChain hin)
  | loop text =>
    simp only [readHeading, forget_readLoop hin]
    rfl
  | whileHolds text =>
    simp only [readHeading, forget_readWhile hin]
    rfl
  | statement text => rfl

end Lines

theorem forgetBlock_append (xs ys : List (Step (C × Ternary) (E × Ternary) X)) :
    forgetBlock (xs ++ ys) = forgetBlock xs ++ forgetBlock ys := by
  simp only [forgetBlock_eq_map, List.map_append]

mutual

theorem forget_readBlock {r : LineReader C E X} (place : Place) (nodes : List Node)
    (pending : Pending (C × Ternary) (E × Ternary) X) (p : Progress) :
    readBlock r place nodes pending.forget p =
      forgetRead (readBlock r.flagged place nodes pending p) := by
  match nodes with
  | [] =>
    simp only [readBlock, Pending.forget]
    exact forget_closeChain pending.chain
  | node :: rest =>
    simp only [readBlock, forget_readNode place node pending p, forgetNode,
      forget_readBlock place rest, forgetRead, forgetBlock_append]

theorem forget_readNode {r : LineReader C E X} (place : Place) (node : Node)
    (pending : Pending (C × Ternary) (E × Ternary) X) (p : Progress) :
    readNode r place node pending.forget p =
      forgetNode (readNode r.flagged place node pending p) := by
  match node with
  | .entry line key =>
    have hclosed := @forget_closeChain C E X p pending.chain
    have hline := fun q => @forget_readLine C E X r place line key q
    simp only [readNode, Pending.forget, hclosed, forgetRead, forgetNode, forgetBlock_append]
    rw [hline]
    rfl
  | .heading line key children =>
    have hin : Forgets (fun place p => readBlock r.flagged place children .none p)
        fun place p => readBlock r place children .none p :=
      fun place p => forget_readBlock place children .none p
    simp only [readNode, forget_settle, forgetNode]
    split
    · rfl
    · simp only [forget_readHeading hin, forgetNode, forgetBlock_append]

end

/-- **Keeping the flags changes nothing else of a body.** -/
theorem forget_readBody (r : LineReader C E X) (place : Place) (delay : Ternary)
    (nodes : List Node) :
    readBody r place delay nodes = forgetBody (readBody r.flagged place delay nodes) := by
  have hread := @forget_readBlock C E X r place nodes .none ⟨delay, 0, []⟩
  simp only [readBody, forgetBody]
  exact congrArg (fun read => Body.mk read.1 read.2.delay read.2.entries) hread

end TriggerScript.Parsing

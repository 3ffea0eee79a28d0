import TriggerScript.Proofs.Parsing.DelayFlag

/-!
# The loops around a line

Each line of a body is read with the loops around it. What stands at a place of the body was read
there, and the loops of the place are steps of the body.

* `ReadAt` : the lines of a step were read at a place, and those inside a loop with that loop around
  them.
* `readAt_readBody` : the steps of a body were read at the place of the body.
* `StandsAt` : a block stands in a body at a place.
* `StandsAt.readAt`, `StandsAt.exists_loop` : its lines were read at this place, and each loop of
  the place is a step of the body.
-/

namespace TriggerScript.Parsing

open TriggerScript.Flow

variable {C E X : Type}

/-- The lines of a step were read at a place; the number of a loop and the type of its values are
known to the lines inside it. -/
inductive ReadAt (r : LineReader C E X) : Place → Step C E X → Prop where
  | check {place : Place} {p : Progress} {id : ItemId} {line : Nat} {text : String} {c : C}
    (h : (r.statement (place.scope p line) text).result = some (.inl c)) :
    ReadAt r place (.check id line c)
  | act {place : Place} {p : Progress} {id : ItemId} {line : Nat} {text : String} {e : E}
    (h : (r.statement (place.scope p line) text).result = some (.inr e)) :
    ReadAt r place (.act id line e)
  | choose {place : Place} {id : ItemId} {line : Nat} {branches : List (Branch C E X)}
    (hcondition : ∀ branch ∈ branches, ∀ c, branch.condition = some c →
      ∃ p line text, (r.condition (place.scope p line) text).result = some c)
    (hbody : ∀ branch ∈ branches, ∀ step ∈ branch.body, ReadAt r place step) :
    ReadAt r place (.choose id line branches)
  | loop {place : Place} {p : Progress} {id : ItemId} {line : Nat} {text : String} {x : X}
    {body : List (Step C E X)} (h : (r.values (place.scope p line) text).result = some x)
    (hbody : ∀ step ∈ body, ReadAt r (place.insideLoop ⟨id, r.returns x⟩) step) :
    ReadAt r place (.loop id line x body)
  | whileHolds {place : Place} {p : Progress} {id : ItemId} {line : Nat} {text : String} {c : C}
    {body : List (Step C E X)} (h : (r.condition (place.scope p line) text).result = some c)
    (hbody : ∀ step ∈ body, ReadAt r place step) : ReadAt r place (.whileHolds id line c body)

/-- The lines of a branch were read at a place. -/
structure BranchReadAt (r : LineReader C E X) (place : Place) (branch : Branch C E X) : Prop where
  condition : ∀ c, branch.condition = some c →
    ∃ p line text, (r.condition (place.scope p line) text).result = some c
  body : ∀ step ∈ branch.body, ReadAt r place step

/-- What is inside a heading is read at the place that it is given. -/
def InsideReadAt (r : LineReader C E X) (inside : Inside C E X) : Prop :=
  ∀ place p, ∀ step ∈ (inside place p).1, ReadAt r place step

/-- The branches that may still be continued were read at a place. -/
def Pending.ReadAt (r : LineReader C E X) (place : Place) (pending : Pending C E X) : Prop :=
  ∀ c, pending.chain = some c → ∀ branch ∈ c.branches, BranchReadAt r place branch

theorem Pending.readAt_none {r : LineReader C E X} {place : Place} {skipElse : Bool} :
    (⟨Option.none, skipElse⟩ : Pending C E X).ReadAt r place :=
  fun _ h => nomatch h

section Lines

variable {r : LineReader C E X} {place : Place} {line : Nat} {text : String}
  {inside : Inside C E X} {pending : Pending C E X} {p : Progress}

theorem readAt_closeChain (h : pending.ReadAt r place) :
    ∀ step ∈ (closeChain pending.chain p).1, ReadAt r place step := by
  cases hc : pending.chain with
  | none => exact List.forall_mem_nil _
  | some c =>
    have hbranches := h c hc
    refine List.forall_mem_singleton.2 (.choose ?_ ?_)
    · exact fun branch hb => (hbranches branch (List.mem_reverse.1 hb)).condition
    · exact fun branch hb => (hbranches branch (List.mem_reverse.1 hb)).body

theorem readAt_readLine : ∀ step ∈ (readLine r place line text p).1, ReadAt r place step := by
  unfold readLine Progress.attempt
  cases hs : (r.statement (place.scope p line) (Text.trimString text)).result with
  | none => exact List.forall_mem_nil _
  | some statement =>
    cases statement with
    | inl c => exact List.forall_mem_singleton.2 (.check hs)
    | inr e => exact List.forall_mem_singleton.2 (.act hs)

/-- A branch that is read at the place of the branches before it. -/
theorem readAt_readBranch {c : Chain C E X} {condition : Option C} {skipElse : Bool}
    (hin : InsideReadAt r inside) (hchain : ∀ branch ∈ c.branches, BranchReadAt r place branch)
    (hcondition : ∀ c, condition = some c →
      ∃ p line text, (r.condition (place.scope p line) text).result = some c) :
    (Pending.mk (some (c.readBranch place inside condition p).1) skipElse).ReadAt r place := by
  rintro chain ⟨rfl⟩
  exact List.forall_mem_cons.2 ⟨⟨hcondition, hin place _⟩, hchain⟩

theorem readAt_beginChain (hin : InsideReadAt r inside) :
    (beginChain r place line text inside p).1.ReadAt r place := by
  unfold beginChain Progress.attempt
  cases hc : (r.condition (place.scope p line) text).result with
  | none => exact Pending.readAt_none
  | some c =>
    refine readAt_readBranch hin (List.forall_mem_nil _) ?_
    rintro _ ⟨rfl⟩
    exact ⟨p, line, text, hc⟩

theorem readAt_continueChain {text : Option String} {complaint : String}
    (h : pending.ReadAt r place) (hin : InsideReadAt r inside) :
    (continueChain r place line text complaint inside pending p).1.ReadAt r place := by
  unfold continueChain
  split
  · exact h
  split
  · exact h
  next begun hbegun =>
  have hchain := h begun (Option.filter_eq_some_iff.1 hbegun).1
  cases text with
  | none => exact readAt_readBranch hin hchain fun c hc => nomatch hc
  | some text =>
    simp only [Progress.attempt]
    cases hc : (r.condition (place.scope p line) text).result with
    | none => exact h
    | some c =>
      refine readAt_readBranch hin hchain ?_
      rintro _ ⟨rfl⟩
      exact ⟨p, line, text, hc⟩

/-- Lines that are run any number of times make up one step, if any of them could be read. -/
theorem mem_readRepeating {inside : ItemId → Progress → List (Step C E X) × Progress}
    {step : ItemId → List (Step C E X) → Step C E X} {s : Step C E X}
    (hs : s ∈ (readRepeating inside step p).1) :
    ∃ id q, s = step id (inside id q).1 := by
  unfold readRepeating at hs
  simp only at hs
  split at hs
  · cases hs
  · exact ⟨_, _, List.mem_singleton.1 hs⟩

theorem readAt_readLoop (hin : InsideReadAt r inside) :
    ∀ step ∈ (readLoop r place line text inside p).1, ReadAt r place step := by
  unfold readLoop Progress.attempt
  cases hx : (r.values (place.scope p line) text).result with
  | none => exact List.forall_mem_nil _
  | some x =>
    simp only
    split
    · exact List.forall_mem_nil _
    · intro step hstep
      obtain ⟨id, q, rfl⟩ := mem_readRepeating hstep
      exact .loop hx (hin _ q)

theorem readAt_readWhile (hin : InsideReadAt r inside) :
    ∀ step ∈ (readWhile r place line text inside p).1, ReadAt r place step := by
  unfold readWhile Progress.attempt
  cases hc : (r.condition (place.scope p line) text).result with
  | none => exact List.forall_mem_nil _
  | some c =>
    intro step hstep
    obtain ⟨id, q, rfl⟩ := mem_readRepeating hstep
    exact .whileHolds hc (hin _ q)

theorem readAt_settle (kind : LineKind) (h : pending.ReadAt r place) :
    (∀ step ∈ (settle kind pending p).1, ReadAt r place step) ∧
      (settle kind pending p).2.1.ReadAt r place := by
  unfold settle
  split
  · exact ⟨List.forall_mem_nil _, h⟩
  · exact ⟨readAt_closeChain h, Pending.readAt_none⟩

theorem readAt_readHeading {kind : LineKind} (hin : InsideReadAt r inside)
    (h : pending.ReadAt r place) :
    (∀ step ∈ (readHeading r place line kind inside pending p).1, ReadAt r place step) ∧
      (readHeading r place line kind inside pending p).2.1.ReadAt r place := by
  cases kind with
  | ifHolds text => exact ⟨List.forall_mem_nil _, readAt_beginChain hin⟩
  | elseIf text => exact ⟨List.forall_mem_nil _, readAt_continueChain h hin⟩
  | otherwise => exact ⟨List.forall_mem_nil _, readAt_continueChain h hin⟩
  | loop text => exact ⟨readAt_readLoop hin, h⟩
  | whileHolds text => exact ⟨readAt_readWhile hin, h⟩
  | statement text => exact ⟨List.forall_mem_nil _, h⟩

end Lines

mutual

theorem readAt_readBlock {r : LineReader C E X} (place : Place) (nodes : List Node)
    {pending : Pending C E X} {p : Progress} (h : pending.ReadAt r place) :
    ∀ step ∈ (readBlock r place nodes pending p).1, ReadAt r place step := by
  match nodes with
  | [] => simpa only [readBlock] using readAt_closeChain h
  | node :: rest =>
    obtain ⟨hsteps, hpending⟩ := readAt_readNode place node h
    simp only [readBlock]
    exact List.forall_mem_append.2 ⟨hsteps, readAt_readBlock place rest hpending⟩

theorem readAt_readNode {r : LineReader C E X} (place : Place) (node : Node)
    {pending : Pending C E X} {p : Progress} (h : pending.ReadAt r place) :
    (∀ step ∈ (readNode r place node pending p).1, ReadAt r place step) ∧
      (readNode r place node pending p).2.1.ReadAt r place := by
  match node with
  | .entry line key =>
    simp only [readNode]
    exact ⟨List.forall_mem_append.2 ⟨readAt_closeChain h, readAt_readLine⟩, Pending.readAt_none⟩
  | .heading line key children =>
    obtain ⟨hclosed, hpending⟩ := readAt_settle (classify key true) h
    have hinside : InsideReadAt r fun place p => readBlock r place children .none p :=
      fun place p => readAt_readBlock place children Pending.readAt_none
    simp only [readNode]
    split
    · exact ⟨hclosed, hpending⟩
    · obtain ⟨hsteps, hholds⟩ := readAt_readHeading hinside hpending
      exact ⟨List.forall_mem_append.2 ⟨hclosed, hsteps⟩, hholds⟩

end

/-- **The steps of a body were read at the place of the body,** and those inside loops with these
loops around them. -/
theorem readAt_readBody (r : LineReader C E X) (place : Place) (delay : Ternary)
    (nodes : List Node) :
    ∀ step ∈ (readBody r place delay nodes).steps, ReadAt r place step :=
  readAt_readBlock place nodes Pending.readAt_none

/-! ### Blocks at a place -/

/-- A block stands in a body at a place: the place of the body, inside one more loop for each loop
around the block. -/
inductive StandsAt (r : LineReader C E X) (start : Place) (top : List (Step C E X)) :
    Place → List (Step C E X) → Prop where
  | top : StandsAt r start top start top
  | next {place : Place} {step : Step C E X} {rest : List (Step C E X)}
    (h : StandsAt r start top place (step :: rest)) : StandsAt r start top place rest
  | branch {place : Place} {id : ItemId} {line : Nat} {branches : List (Branch C E X)}
    {rest : List (Step C E X)} {branch : Branch C E X}
    (h : StandsAt r start top place (.choose id line branches :: rest)) (hb : branch ∈ branches) :
    StandsAt r start top place branch.body
  | loop {place : Place} {id : ItemId} {line : Nat} {x : X} {body rest : List (Step C E X)}
    (h : StandsAt r start top place (.loop id line x body :: rest)) :
    StandsAt r start top (place.insideLoop ⟨id, r.returns x⟩) body
  | whileHolds {place : Place} {id : ItemId} {line : Nat} {c : C} {body rest : List (Step C E X)}
    (h : StandsAt r start top place (.whileHolds id line c body :: rest)) :
    StandsAt r start top place body

section Stands

variable {r : LineReader C E X} {start place : Place} {top block rest : List (Step C E X)}
  {step : Step C E X}

/-- What stands at a place was read there. -/
theorem StandsAt.readAt (htop : ∀ step ∈ top, ReadAt r start step)
    (h : StandsAt r start top place block) : ∀ step ∈ block, ReadAt r place step := by
  induction h with
  | top => exact htop
  | next _ ih => exact (List.forall_mem_cons.1 ih).2
  | branch _ hb ih =>
    cases (List.forall_mem_cons.1 ih).1 with
    | choose _ hbody => exact hbody _ hb
  | loop _ ih =>
    cases (List.forall_mem_cons.1 ih).1 with
    | loop _ hbody => exact hbody
  | whileHolds _ ih =>
    cases (List.forall_mem_cons.1 ih).1 with
    | whileHolds _ hbody => exact hbody

/-- Only the loops change from place to place. -/
theorem StandsAt.system_eq (h : StandsAt r start top place block) :
    place.system = start.system := by
  induction h with
  | top => rfl
  | next _ ih => exact ih
  | branch _ _ ih => exact ih
  | loop _ ih => exact ih
  | whileHolds _ ih => exact ih

/-- A loop of the place is one of the loops around the body, or a step of the body that runs over
values of the same type. -/
theorem StandsAt.exists_loop (h : StandsAt r start top place block) {l : LoopInfo}
    (hl : l ∈ place.loops) (hstart : l ∉ start.loops) :
    ∃ place' line x body rest, StandsAt r start top place' (.loop l.id line x body :: rest) ∧
      r.returns x = l.type := by
  induction h with
  | top => exact absurd hl hstart
  | next _ ih => exact ih hl
  | branch _ _ ih => exact ih hl
  | loop h ih =>
    rcases List.mem_append.1 hl with hl | hl
    · exact ih hl
    · obtain rfl := List.mem_singleton.1 hl
      exact ⟨_, _, _, _, _, h, rfl⟩
  | whileHolds _ ih => exact ih hl

theorem StandsAt.exists_stands (h : StandsAt r start top place block) (isDelay : E → Bool)
    (d : Ternary) : ∃ d' repeated tail, Stands isDelay d top d' repeated tail block := by
  induction h with
  | top => exact ⟨_, _, _, .top⟩
  | next _ ih =>
    obtain ⟨_, _, _, h⟩ := ih
    exact ⟨_, _, _, h.next⟩
  | branch _ hb ih =>
    obtain ⟨_, _, _, h⟩ := ih
    exact ⟨_, _, _, h.branch hb⟩
  | loop _ ih =>
    obtain ⟨_, _, _, h⟩ := ih
    exact ⟨_, _, _, h.loop⟩
  | whileHolds _ ih =>
    obtain ⟨_, _, _, h⟩ := ih
    exact ⟨_, _, _, h.whileHolds⟩

theorem exists_standsAt {isDelay : E → Bool} {d d' : Ternary} {repeated : Bool}
    {tail : Option ItemId} (h : Stands isDelay d top d' repeated tail block) (r : LineReader C E X)
    (start : Place) : ∃ place, StandsAt r start top place block := by
  induction h with
  | top => exact ⟨_, .top⟩
  | next _ ih =>
    obtain ⟨_, h⟩ := ih
    exact ⟨_, h.next⟩
  | branch _ hb ih =>
    obtain ⟨_, h⟩ := ih
    exact ⟨_, h.branch hb⟩
  | loop _ ih =>
    obtain ⟨_, h⟩ := ih
    exact ⟨_, h.loop⟩
  | whileHolds _ ih =>
    obtain ⟨_, h⟩ := ih
    exact ⟨_, h.whileHolds⟩

/-- The item of the first step of the block. -/
theorem StandsAt.get?_id (h : StandsAt r start top place (step :: rest))
    (htop : BlockFormedAt 0 top) :
    ∃ item, (Graph.ofBlock top).get? step.id = some item ∧ item.kind = step.kind := by
  obtain ⟨_, _, _, hstands⟩ := h.exists_stands (fun _ => false) .no
  obtain ⟨item, hitem, hkind, -⟩ := hstands.get?_id htop
  exact ⟨item, hitem, hkind⟩

end Stands

end TriggerScript.Parsing

import TriggerScript.Parsing.Body
import TriggerScript.Proofs.Flow.Layout

/-!
# What reading a block gives

Reading goes from line to line with branches that may still be continued. What comes out can be
said of the steps alone.

* `delayBehind` : the delay flag behind a block, from the flag before it.
* `BlockRead` : every line was read with the flag that the lines before it give.
* `Reads` : the steps that lead from one progress to another.
* `reads_readBlock`, `reads_readBody` : reading a block, and a whole trigger.
-/

namespace TriggerScript.Parsing

open TriggerScript.Flow

variable {C E X : Type}

mutual

/-- The delay flag behind a step, from the flag before it. -/
def delayBehindStep (isDelay : E → Bool) (d : Ternary) : Step C E X → Ternary
  | .check .. => d
  | .act _ _ e => if isDelay e then .yes else d
  | .choose _ _ branches =>
    .merge (branchDelays isDelay d branches ++
      if branches.any (·.condition.isNone) then [] else [d])
  | .loop _ _ _ body => delayAfterRepeating d (delayBehind isDelay d body)
  | .whileHolds _ _ _ body => delayAfterRepeating d (delayBehind isDelay d body)

/-- The delay flag behind a block, from the flag before it. -/
def delayBehind (isDelay : E → Bool) (d : Ternary) : List (Step C E X) → Ternary
  | [] => d
  | step :: rest => delayBehind isDelay (delayBehindStep isDelay d step) rest

/-- The delay flags behind branches that are all begun with the same flag. -/
def branchDelays (isDelay : E → Bool) (d : Ternary) : List (Branch C E X) → List Ternary
  | [] => []
  | branch :: rest => delayBehindBranch isDelay d branch :: branchDelays isDelay d rest

/-- The delay flag behind a branch. -/
def delayBehindBranch (isDelay : E → Bool) (d : Ternary) : Branch C E X → Ternary
  | .mk _ body => delayBehind isDelay d body

end

mutual

/-- The lines of a step were read with the flags that the lines before them give. -/
def StepRead (r : LineReader C E X) (d : Ternary) : Step C E X → Prop
  | .check _ _ c =>
    ∃ scope text, scope.delay = d ∧ (r.statement scope text).result = some (.inl c)
  | .act _ _ e =>
    ∃ scope text, scope.delay = d ∧ (r.statement scope text).result = some (.inr e)
  | .choose _ _ branches => BranchesRead r d branches
  | .loop _ _ _ body => BlockRead r d body
  | .whileHolds _ _ _ body => BlockRead r d body

/-- The lines of a block were read with the flags that the lines before them give. -/
def BlockRead (r : LineReader C E X) (d : Ternary) : List (Step C E X) → Prop
  | [] => True
  | step :: rest => StepRead r d step ∧ BlockRead r (delayBehindStep r.isDelay d step) rest

/-- The lines of branches were read with the flags that the lines before them give. -/
def BranchesRead (r : LineReader C E X) (d : Ternary) : List (Branch C E X) → Prop
  | [] => True
  | branch :: rest => BranchRead r d branch ∧ BranchesRead r d rest

/-- The lines of a branch were read with the flags that the lines before them give. -/
def BranchRead (r : LineReader C E X) (d : Ternary) : Branch C E X → Prop
  | .mk _ body => BlockRead r d body

end

section Append

variable {r : LineReader C E X} {isDelay : E → Bool} {d : Ternary}

theorem delayBehind_append (xs ys : List (Step C E X)) :
    delayBehind isDelay d (xs ++ ys) = delayBehind isDelay (delayBehind isDelay d xs) ys := by
  induction xs generalizing d with
  | nil => simp [delayBehind]
  | cons x xs ih => simp [delayBehind, ih]

theorem blockRead_append {xs ys : List (Step C E X)} :
    BlockRead r d (xs ++ ys) ↔ BlockRead r d xs ∧ BlockRead r (delayBehind r.isDelay d xs) ys := by
  induction xs generalizing d with
  | nil => simp [BlockRead, delayBehind]
  | cons x xs ih => simp [BlockRead, delayBehind, ih, and_assoc]

theorem branchDelays_append (xs ys : List (Branch C E X)) :
    branchDelays isDelay d (xs ++ ys) = branchDelays isDelay d xs ++ branchDelays isDelay d ys := by
  induction xs with
  | nil => simp [branchDelays]
  | cons x xs ih => simp [branchDelays, ih]

theorem branchesRead_append {xs ys : List (Branch C E X)} :
    BranchesRead r d (xs ++ ys) ↔ BranchesRead r d xs ∧ BranchesRead r d ys := by
  induction xs with
  | nil => simp [BranchesRead]
  | cons x xs ih => simp [BranchesRead, ih, and_assoc]

end Append

/-- A further condition may be missing if none is missing so far. -/
theorem guarded_concat {conditions : List (Option C)} {c : Option C}
    (hall : ∀ c ∈ conditions, c.isSome) (hc : conditions = [] → c.isSome) :
    Guarded (conditions ++ [c]) where
  first := by
    cases conditions with
    | nil => simpa [Option.isSome_iff_exists] using hc rfl
    | cons first rest => simpa [Option.isSome_iff_exists] using hall first (by simp)
  others := by simpa using hall

/-- The steps that lead from one progress to another. -/
structure Reads (r : LineReader C E X) (p : Progress) (steps : List (Step C E X))
    (q : Progress) : Prop where
  formed : BlockFormedAt p.next steps
  next : q.next = p.next + blockSize steps
  delay : q.delay = delayBehind r.isDelay p.delay steps
  read : BlockRead r p.delay steps

namespace Reads

variable {r : LineReader C E X} {p q : Progress}

/-- Without steps only entries are added. -/
theorem nil (hn : q.next = p.next) (hd : q.delay = p.delay) : Reads r p [] q :=
  ⟨trivial, by simpa [blockSize] using hn, by simpa [delayBehind] using hd, trivial⟩

/-- Entries do not matter. -/
theorem congr_left {p' : Progress} {steps : List (Step C E X)} (h : Reads r p' steps q)
    (hn : p'.next = p.next) (hd : p'.delay = p.delay) : Reads r p steps q := by
  obtain ⟨formed, next, delay, read⟩ := h
  rw [hn] at formed next
  rw [hd] at delay read
  exact ⟨formed, next, delay, read⟩

theorem append {q' : Progress} {xs ys : List (Step C E X)} (hx : Reads r p xs q)
    (hy : Reads r q ys q') : Reads r p (xs ++ ys) q' where
  formed := blockFormedAt_append.2 ⟨hx.formed, by rw [← hx.next]; exact hy.formed⟩
  next := by rw [hy.next, hx.next, blockSize_append, Nat.add_assoc]
  delay := by rw [hy.delay, hx.delay, delayBehind_append]
  read := blockRead_append.2 ⟨hx.read, by rw [← hx.delay]; exact hy.read⟩

end Reads

/-- What is inside a heading is read as a block. -/
def InsideReads (r : LineReader C E X) (inside : Inside C E X) : Prop :=
  ∀ place p, Reads r p (inside place p).1 (inside place p).2

namespace Chain

/-- The branches so far have been read one after the other from the flag before the first. -/
structure Holds (r : LineReader C E X) (c : Chain C E X) (p : Progress) : Prop where
  formed : BranchesFormedAt (c.id + 1) c.branches.reverse
  next : p.next = c.id + 1 + branchesSize c.branches.reverse
  outcomes : c.outcomes.reverse = branchDelays r.isDelay c.before c.branches.reverse
  hasElse : c.hasElse = c.branches.any (·.condition.isNone)
  read : BranchesRead r c.before c.branches.reverse

/-- The conditions of the branches so far. -/
def conditions (c : Chain C E X) : List (Option C) :=
  c.branches.reverse.map Branch.condition

variable {r : LineReader C E X} {c : Chain C E X} {p : Progress}

theorem Holds.isSome_of_not_hasElse (h : c.Holds r p) (helse : c.hasElse = false) :
    ∀ o ∈ c.conditions, o.isSome := by
  rw [h.hasElse, List.any_eq_false] at helse
  intro o ho
  obtain ⟨b, hb, rfl⟩ := List.mem_map.1 ho
  simpa [Option.isSome_iff_ne_none] using helse b (List.mem_reverse.1 hb)

theorem conditions_readBranch (place : Place) (inside : Inside C E X) (condition : Option C) :
    (c.readBranch place inside condition p).1.conditions = c.conditions ++ [condition] := by
  simp [conditions, readBranch, add]

theorem Holds.readBranch {place : Place} {inside : Inside C E X} {condition : Option C}
    (h : c.Holds r p) (helse : c.hasElse = false) (hin : InsideReads r inside) :
    (c.readBranch place inside condition p).1.Holds r
      (c.readBranch place inside condition p).2 := by
  -- A branch is read from the flag before the first branch, whatever the others did to it.
  have hbody := hin place { p with delay := c.before }
  have hany : c.branches.any (·.condition.isNone) = false := by rw [← h.hasElse, helse]
  simp only [Chain.readBranch]
  generalize inside place { p with delay := c.before } = result at hbody ⊢
  obtain ⟨body, q⟩ := result
  obtain ⟨formed, next, delay, read⟩ := hbody
  simp only at formed next delay read
  constructor
  · simp only [add, List.reverse_cons]
    exact branchesFormedAt_append.2
      ⟨h.formed, by simpa [BranchesFormedAt, Branch.FormedAt, ← h.next] using formed⟩
  · simp only [add, List.reverse_cons, branchesSize_append, branchesSize, Branch.size, next,
      h.next, Nat.add_assoc, Nat.add_zero]
  · simp only [add, List.reverse_cons, branchDelays_append, h.outcomes, branchDelays,
      delayBehindBranch, delay]
  · simp only [add, List.any_cons, hany, Branch.condition_mk, Bool.or_false]
  · simp only [add, List.reverse_cons]
    exact branchesRead_append.2 ⟨h.read, read, trivial⟩

theorem Holds.congr {q : Progress} (h : c.Holds r p) (hn : q.next = p.next) : c.Holds r q :=
  { h with next := hn ▸ h.next }

end Chain

namespace Pending

variable {r : LineReader C E X} {pending : Pending C E X} {p : Progress}

/-- The branches that may be continued have been read, and at least one of them. -/
def Holds (r : LineReader C E X) (pending : Pending C E X) (p : Progress) : Prop :=
  ∀ c, pending.chain = some c → c.Holds r p ∧ Guarded c.conditions

/-- The progress before the branches that may still be continued. -/
def start (pending : Pending C E X) (p : Progress) : Progress :=
  match pending.chain with
  | some c => { p with next := c.id, delay := c.before }
  | Option.none => p

theorem holds_of_chain_none (h : pending.chain = Option.none) : pending.Holds r p := by
  simp [Holds, h]

theorem holds_none : (none : Pending C E X).Holds r p := holds_of_chain_none rfl

theorem start_of_chain_none (h : pending.chain = Option.none) : pending.start p = p := by
  simp [start, h]

theorem start_of_chain_some {c : Chain C E X} (h : pending.chain = some c) :
    pending.start p = { p with next := c.id, delay := c.before } := by
  simp [start, h]

/-- Only the number of the next step matters for what has been read. -/
theorem Holds.congr {q : Progress} (h : pending.Holds r p) (hn : q.next = p.next) :
    pending.Holds r q :=
  fun c hc => ⟨(h c hc).1.congr hn, (h c hc).2⟩

/-- Adding entries changes nothing. -/
theorem reads_start {q : Progress} (hn : q.next = p.next) (hd : q.delay = p.delay) :
    Reads r (pending.start p) [] (pending.start q) := by
  unfold start
  split
  · exact .nil rfl rfl
  · exact .nil hn hd

end Pending

section Lines

variable {r : LineReader C E X} {place : Place} {line : Nat} {text : String}
  {inside : Inside C E X} {pending : Pending C E X} {p : Progress}

theorem reads_closeChain (h : pending.Holds r p) :
    Reads r (pending.start p) (closeChain pending.chain p).1 (closeChain pending.chain p).2 := by
  cases hc : pending.chain with
  | none => rw [Pending.start_of_chain_none hc]; exact .nil rfl rfl
  | some c =>
    obtain ⟨⟨formed, next, outcomes, hasElse, read⟩, hg⟩ := h c hc
    rw [Pending.start_of_chain_some hc]
    constructor
    · exact ⟨⟨rfl, hg, formed⟩, trivial⟩
    · simp [closeChain, Chain.close, blockSize, Step.size, next, Nat.add_assoc, Nat.add_comm 1]
    · simp [closeChain, Chain.close, delayBehind, delayBehindStep, outcomes, hasElse]
    · exact ⟨read, trivial⟩

theorem reads_readLine : Reads r p (readLine r place line text p).1
    (readLine r place line text p).2 := by
  unfold readLine Progress.attempt
  have hscope : (place.scope p line).delay = p.delay := rfl
  cases hs : (r.statement (place.scope p line) (Text.trimString text)).result with
  | none => exact .nil rfl rfl
  | some statement =>
    cases statement with
    | inl c =>
      exact ⟨⟨rfl, trivial⟩, rfl, rfl, ⟨_, _, hscope, hs⟩, trivial⟩
    | inr e =>
      refine ⟨⟨rfl, trivial⟩, ?_, ?_, ⟨_, _, hscope, hs⟩, trivial⟩
      · simp only [Progress.draw]
        split <;> rfl
      · simp only [Progress.draw, delayBehind, delayBehindStep]
        split <;> rfl

/-- A branch that has been read may be continued. -/
theorem holds_readBranch {c : Chain C E X} {condition : Option C} {skipElse : Bool}
    (h : c.Holds r p) (helse : c.hasElse = false) (hfirst : c.conditions = [] → condition.isSome)
    (hin : InsideReads r inside) :
    (Pending.mk (some (c.readBranch place inside condition p).1) skipElse).Holds r
      (c.readBranch place inside condition p).2 := by
  rintro chain ⟨rfl⟩
  refine ⟨h.readBranch helse hin, ?_⟩
  rw [Chain.conditions_readBranch]
  exact guarded_concat (h.isSome_of_not_hasElse helse) hfirst

theorem holds_beginChain (hin : InsideReads r inside) :
    (beginChain r place line text inside p).1.Holds r (beginChain r place line text inside p).2 ∧
      Reads r p [] ((beginChain r place line text inside p).1.start
        (beginChain r place line text inside p).2) := by
  unfold beginChain Progress.attempt
  cases (r.condition (place.scope p line) text).result with
  | none => exact ⟨Pending.holds_of_chain_none rfl, .nil rfl rfl⟩
  | some c =>
    exact ⟨holds_readBranch ⟨trivial, rfl, rfl, rfl, trivial⟩ rfl (fun _ => rfl) hin,
      .nil rfl rfl⟩

/-- Going on with branches does not change where they began. -/
theorem holds_continueChain {text : Option String} {complaint : String} (h : pending.Holds r p)
    (hin : InsideReads r inside) :
    (continueChain r place line text complaint inside pending p).1.Holds r
        (continueChain r place line text complaint inside pending p).2 ∧
      Reads r (pending.start p) []
        ((continueChain r place line text complaint inside pending p).1.start
          (continueChain r place line text complaint inside pending p).2) := by
  unfold continueChain
  split
  · exact ⟨h, .nil rfl rfl⟩
  split
  · exact ⟨h.congr rfl, Pending.reads_start rfl rfl⟩
  next begun hbegun =>
  obtain ⟨hchain, helse⟩ := Option.filter_eq_some_iff.1 hbegun
  obtain ⟨hholds, hguarded⟩ := h begun hchain
  have helse : begun.hasElse = false := by simpa using helse
  have hfirst : ∀ {c : Option C}, begun.conditions = [] → c.isSome := by
    intro c hnil
    obtain ⟨first, hfirst⟩ := hguarded.first
    simp [hnil] at hfirst
  rw [Pending.start_of_chain_some hchain]
  cases text with
  | none => exact ⟨holds_readBranch hholds helse hfirst hin, .nil rfl rfl⟩
  | some text =>
    simp only [Progress.attempt]
    cases (r.condition (place.scope p line) text).result with
    | none =>
      rw [← Pending.start_of_chain_some hchain]
      exact ⟨h.congr rfl, Pending.reads_start rfl rfl⟩
    | some c =>
      exact ⟨holds_readBranch (hholds.congr rfl) helse hfirst hin, .nil rfl rfl⟩

theorem reads_readRepeating {inside : ItemId → Progress → List (Step C E X) × Progress}
    {step : ItemId → List (Step C E X) → Step C E X}
    (hin : ∀ id p, Reads r p (inside id p).1 (inside id p).2)
    (hstep : (∃ x, step = fun id => .loop id line x) ∨
      ∃ c, step = fun id => .whileHolds id line c) :
    Reads r p (readRepeating inside step p).1 (readRepeating inside step p).2 := by
  have hbody := hin p.next { p with next := p.next + 1 }
  rcases hresult : inside p.next { p with next := p.next + 1 } with ⟨body, q⟩
  rw [hresult] at hbody
  simp only [readRepeating, Progress.draw, hresult]
  obtain ⟨formed, next, delay, read⟩ := hbody
  cases body with
  -- Without a line the loop is dropped, and its number is used again.
  | nil => exact .nil rfl rfl
  | cons first rest =>
    have hnext : q.next = p.next + (blockSize (first :: rest) + 1 + 0) := by
      rw [next, Nat.add_assoc, Nat.add_comm 1]
    have hdelay : delayAfterRepeating p.delay q.delay =
        delayAfterRepeating p.delay (delayBehind r.isDelay p.delay (first :: rest)) := by
      rw [delay]
    obtain ⟨x, rfl⟩ | ⟨c, rfl⟩ := hstep
    · exact ⟨⟨⟨rfl, by simp, formed⟩, trivial⟩, hnext, hdelay, read, trivial⟩
    · exact ⟨⟨⟨rfl, by simp, formed⟩, trivial⟩, hnext, hdelay, read, trivial⟩

theorem reads_readLoop (hin : InsideReads r inside) :
    Reads r p (readLoop r place line text inside p).1
      (readLoop r place line text inside p).2 := by
  unfold readLoop Progress.attempt
  cases (r.values (place.scope p line) text).result with
  | none => exact .nil rfl rfl
  | some values =>
    simp only
    split
    · exact .nil rfl rfl
    · exact (reads_readRepeating (fun id p => hin (place.insideLoop ⟨id, r.returns values⟩) p)
        (.inl ⟨values, rfl⟩)).congr_left rfl rfl

theorem reads_readWhile (hin : InsideReads r inside) :
    Reads r p (readWhile r place line text inside p).1
      (readWhile r place line text inside p).2 := by
  unfold readWhile Progress.attempt
  cases (r.condition (place.scope p line) text).result with
  | none => exact .nil rfl rfl
  | some c =>
    simp only
    exact (reads_readRepeating (fun _ p => hin place p) (.inr ⟨c, rfl⟩)).congr_left rfl rfl

theorem settle_chain {kind : LineKind} (hk : kind.continues = false) :
    (settle kind pending p).2.1.chain = none := by
  simp [settle, hk, Pending.none]

theorem reads_settle (kind : LineKind) (h : pending.Holds r p) :
    Reads r (pending.start p) (settle kind pending p).1
        ((settle kind pending p).2.1.start (settle kind pending p).2.2) ∧
      (settle kind pending p).2.1.Holds r (settle kind pending p).2.2 := by
  unfold settle
  split
  · exact ⟨.nil rfl rfl, h⟩
  · exact ⟨reads_closeChain h, Pending.holds_of_chain_none rfl⟩

theorem reads_readHeading {kind : LineKind} (hin : InsideReads r inside)
    (hk : kind.continues = false → pending.chain = none) (h : pending.Holds r p) :
    Reads r (pending.start p) (readHeading r place line kind inside pending p).1
        ((readHeading r place line kind inside pending p).2.1.start
          (readHeading r place line kind inside pending p).2.2) ∧
      (readHeading r place line kind inside pending p).2.1.Holds r
        (readHeading r place line kind inside pending p).2.2 := by
  cases kind with
  | ifHolds text =>
    rw [Pending.start_of_chain_none (hk rfl)]
    exact (holds_beginChain hin).symm
  | elseIf text => exact (holds_continueChain h hin).symm
  | otherwise => exact (holds_continueChain h hin).symm
  | loop text =>
    have hnone := hk rfl
    simp only [readHeading, Pending.start_of_chain_none hnone]
    exact ⟨reads_readLoop hin, Pending.holds_of_chain_none hnone⟩
  | whileHolds text =>
    have hnone := hk rfl
    simp only [readHeading, Pending.start_of_chain_none hnone]
    exact ⟨reads_readWhile hin, Pending.holds_of_chain_none hnone⟩
  | statement text => exact ⟨.nil rfl rfl, h⟩

theorem reads_refuseEmpty {key : String} {kind : LineKind} (h : pending.Holds r p) :
    Reads r (pending.start p) []
        ((refuseEmpty place line key kind pending p).1.start
          (refuseEmpty place line key kind pending p).2) ∧
      (refuseEmpty place line key kind pending p).1.Holds r
        (refuseEmpty place line key kind pending p).2 :=
  ⟨Pending.reads_start rfl rfl, h.congr rfl⟩

end Lines

mutual

/-- The steps of a block lead from the branches that may be continued to its end. -/
theorem reads_readBlock {r : LineReader C E X} (place : Place) (nodes : List Node)
    {pending : Pending C E X} {p : Progress} (h : pending.Holds r p) :
    Reads r (pending.start p) (readBlock r place nodes pending p).1
      (readBlock r place nodes pending p).2 := by
  match nodes with
  | [] => simpa only [readBlock] using reads_closeChain h
  | node :: rest =>
    obtain ⟨hsteps, hpending⟩ := reads_readNode place node h
    simp only [readBlock]
    exact hsteps.append (reads_readBlock place rest hpending)

theorem reads_readNode {r : LineReader C E X} (place : Place) (node : Node)
    {pending : Pending C E X} {p : Progress} (h : pending.Holds r p) :
    Reads r (pending.start p) (readNode r place node pending p).1
        ((readNode r place node pending p).2.1.start (readNode r place node pending p).2.2) ∧
      (readNode r place node pending p).2.1.Holds r (readNode r place node pending p).2.2 := by
  match node with
  | .entry line key =>
    simp only [readNode]
    -- A line of its own ends the branches above it.
    exact ⟨(reads_closeChain h).append reads_readLine, Pending.holds_of_chain_none rfl⟩
  | .heading line key children =>
    obtain ⟨hclosed, hpending⟩ := reads_settle (classify key true) h
    have hinside : InsideReads r fun place p => readBlock r place children .none p :=
      fun place p => reads_readBlock place children Pending.holds_none
    simp only [readNode]
    split
    · obtain ⟨hempty, hholds⟩ := reads_refuseEmpty hpending
      exact ⟨by simpa using hclosed.append hempty, hholds⟩
    · obtain ⟨hsteps, hholds⟩ := reads_readHeading hinside settle_chain hpending
      exact ⟨hclosed.append hsteps, hholds⟩

end

/-- The steps of a whole trigger lead from the start to its end. -/
theorem reads_readBody (r : LineReader C E X) (place : Place) (delay : Ternary)
    (nodes : List Node) :
    Reads r ⟨delay, 0, []⟩ (readBody r place delay nodes).steps
      (readBlock r place nodes .none ⟨delay, 0, []⟩).2 :=
  reads_readBlock place nodes Pending.holds_none

end TriggerScript.Parsing

import TriggerScript.Text.Cut
import TriggerScript.Text.LetterCase
import TriggerScript.Parsing.Statement
import TriggerScript.Flow.Graph
import TriggerScript.Outline.Node

/-!
# Reading the body of a trigger

The nodes below a header become steps. Lines that cannot be read are reported and left out. On
the way it is noted whether a delay may have happened before each line.

* `LineKind`, `classify` : what a line of a trigger is, going by its first word.
* `Progress` : what changes from line to line.
* `Chain`, `Pending` : branches that may still be continued, and what the next line may continue.
* `readLine` : a line of its own.
* `beginChain`, `continueChain` : a branch with the lines inside it.
* `readRepeating` : lines that are run any number of times.
* `readBlock` : the steps of some nodes.
* `readBody` : a whole trigger.
-/

namespace TriggerScript.Parsing

/-! ### Kinds of lines -/

/-- What a line of a trigger is. -/
inductive LineKind where
  | ifHolds (text : String)
  | elseIf (text : String)
  | otherwise
  | loop (text : String)
  | whileHolds (text : String)
  | statement (text : String)
  deriving DecidableEq, Repr, Inhabited

/-- The trimmed rest of a text behind a leading keyword. -/
def afterKeyword? (keyword : String) (cs : List Char) : Option String :=
  (Text.afterWord? keyword.toList cs).map fun rest => String.ofList (Text.trim rest)

/-- The kind of a line. Only headings have keywords; a heading without one is a condition. -/
def classify (key : String) (isHeading : Bool) : LineKind :=
  let cs := Text.trim key.toList
  let text := String.ofList cs
  if !isHeading then .statement text
  else if Text.sameAscii cs ['e', 'l', 's', 'e'] then .otherwise
  else match afterKeyword? "else if " cs with
    | some rest => .elseIf rest
    | none => match afterKeyword? "if " cs with
      | some rest => .ifHolds rest
      | none => match afterKeyword? "loop " cs with
        | some rest => .loop rest
        | none => match afterKeyword? "while " cs with
          | some rest => .whileHolds rest
          | none => .ifHolds text

/-- Whether the line goes on with branches that were begun before. -/
def LineKind.continues : LineKind → Bool
  | .elseIf _ => true
  | .otherwise => true
  | _ => false

/-- The name of the kind in data. -/
def LineKind.name : LineKind → String
  | .ifHolds _ => "If"
  | .elseIf _ => "ElseIf"
  | .otherwise => "Else"
  | .loop _ => "Loop"
  | .whileHolds _ => "While"
  | .statement _ => "Statement"

/-- The line without its keyword. -/
def LineKind.text? : LineKind → Option String
  | .ifHolds text => some text
  | .elseIf text => some text
  | .otherwise => none
  | .loop text => some text
  | .whileHolds text => some text
  | .statement text => some text

/-! ### Blocks -/

open TriggerScript.Flow

variable {C E X : Type}

/-- The graph of a trigger. -/
abbrev ScriptGraph := Graph Condition Effect Expression

/-- What changes from line to line. -/
structure Progress where
  /-- Whether a delay may have happened before the next line. -/
  delay : Ternary
  /-- The number of the next step. -/
  next : ItemId
  entries : List Entry
  deriving Inhabited

/-- Branches that may still be continued; branches and their outcomes are in reverse. -/
structure Chain (C E X : Type) where
  id : ItemId
  line : Nat
  /-- The delay before the first branch. -/
  before : Ternary
  /-- The delay behind each branch. -/
  outcomes : List Ternary
  hasElse : Bool
  branches : List (Branch C E X)

/-- What the next line may continue. -/
structure Pending (C E X : Type) where
  chain : Option (Chain C E X)
  /-- Continuations of branches that could not be read are passed over. -/
  skipElse : Bool

/-- Nothing that could be continued. -/
def Pending.none : Pending C E X := ⟨Option.none, false⟩

/-- The place of a block: the script, and what surrounds it. -/
structure Place where
  system : TypeSystem
  script : String
  events : List EventKind
  loops : List LoopInfo
  warnMissingAnd : Bool

namespace Place

/-- What is known at a line. -/
def scope (place : Place) (p : Progress) (line : Nat) : Scope :=
  { system := place.system, events := place.events, loops := place.loops, delay := p.delay,
    location := some ⟨place.script, line⟩, warnMissingAnd := place.warnMissingAnd }

/-- An error about a line. -/
def complain (place : Place) (p : Progress) (line : Nat) (message : String) : Progress :=
  { p with entries := p.entries ++ [.error (some ⟨place.script, line⟩) message .semantic] }

/-- The place inside one more loop. -/
def insideLoop (place : Place) (info : LoopInfo) : Place :=
  { place with loops := place.loops ++ [info] }

end Place

namespace Progress

/-- Makes an attempt and keeps its entries. -/
def attempt {α : Type} (p : Progress) (a : Attempt α) : Option α × Progress :=
  (a.result, { p with entries := p.entries ++ a.entries })

/-- Takes the number of the next step. -/
def draw (p : Progress) : ItemId × Progress :=
  (p.next, { p with next := p.next + 1 })

end Progress

/-- Reads the lines inside a heading. -/
abbrev Inside (C E X : Type) := Place → Progress → List (Step C E X) × Progress

namespace Chain

/-- Adds a branch that has been read. -/
def add (c : Chain C E X) (condition : Option C) (body : List (Step C E X)) (p : Progress) :
    Chain C E X :=
  { c with
    branches := .mk condition body :: c.branches
    outcomes := p.delay :: c.outcomes
    hasElse := condition.isNone }

/-- Reads a branch; it starts with the delay before the first one. -/
def readBranch (c : Chain C E X) (place : Place) (inside : Inside C E X) (condition : Option C)
    (p : Progress) : Chain C E X × Progress :=
  let (body, p) := inside place { p with delay := c.before }
  (c.add condition body p, p)

/-- The branches as a step. Without a last branch that is always taken, all may be passed by. -/
def close (c : Chain C E X) (p : Progress) : Step C E X × Progress :=
  let outcomes := c.outcomes.reverse ++ if c.hasElse then [] else [c.before]
  (.choose c.id c.line c.branches.reverse, { p with delay := .merge outcomes })

end Chain

/-- Ends branches that may still have been continued. -/
def closeChain (chain : Option (Chain C E X)) (p : Progress) : List (Step C E X) × Progress :=
  match chain with
  | some c =>
    let (step, p) := c.close p
    ([step], p)
  | none => ([], p)

/-- The delay behind lines that are run any number of times. -/
def delayAfterRepeating (before after : Ternary) : Ternary :=
  if before.isYes then .yes else if after == before then before else .maybe

/-- Reads a line of its own. -/
def readLine (reader : LineReader C E X) (place : Place) (line : Nat) (key : String)
    (p : Progress) : List (Step C E X) × Progress :=
  match p.attempt (reader.statement (place.scope p line) (Text.trimString key)) with
  | (none, p) => ([], p)
  | (some (.inl c), p) =>
    let (id, p) := p.draw
    ([.check id line c], p)
  | (some (.inr e), p) =>
    let (id, p) := p.draw
    ([.act id line e], if reader.isDelay e then { p with delay := .yes } else p)

/-- Reads the first of some branches. -/
def beginChain (reader : LineReader C E X) (place : Place) (line : Nat) (text : String)
    (inside : Inside C E X) (p : Progress) : Pending C E X × Progress :=
  match p.attempt (reader.condition (place.scope p line) text) with
  | (none, p) => (⟨none, true⟩, p)
  | (some c, p) =>
    let (id, p) := p.draw
    let begun : Chain C E X := ⟨id, line, p.delay, [], false, []⟩
    let (chain, p) := begun.readBranch place inside (some c) p
    (⟨some chain, false⟩, p)

/-- Reads a further branch, with a condition if it has a text. -/
def continueChain (reader : LineReader C E X) (place : Place) (line : Nat) (text : Option String)
    (complaint : String) (inside : Inside C E X) (pending : Pending C E X) (p : Progress) :
    Pending C E X × Progress :=
  if pending.skipElse then (pending, p)
  else match pending.chain.filter (!·.hasElse) with
    | none => (pending, place.complain p line complaint)
    | some begun =>
      match text with
      | none =>
        let (chain, p) := begun.readBranch place inside none p
        ({ pending with chain := some chain }, p)
      | some text =>
        match p.attempt (reader.condition (place.scope p line) text) with
        | (none, p) => (pending, p)
        | (some c, p) =>
          let (chain, p) := begun.readBranch place inside (some c) p
          ({ pending with chain := some chain }, p)

/-- Reads lines that are run any number of times. If there are none left, the step is dropped. -/
def readRepeating (inside : ItemId → Progress → List (Step C E X) × Progress)
    (step : ItemId → List (Step C E X) → Step C E X) (p : Progress) :
    List (Step C E X) × Progress :=
  let (id, inner) := p.draw
  let (body, inner) := inside id inner
  if body.isEmpty then ([], { p with entries := inner.entries })
  else ([step id body], { inner with delay := delayAfterRepeating p.delay inner.delay })

/-- Reads a loop. -/
def readLoop (reader : LineReader C E X) (place : Place) (line : Nat) (text : String)
    (inside : Inside C E X) (p : Progress) : List (Step C E X) × Progress :=
  match p.attempt (reader.values (place.scope p line) text) with
  | (none, p) => ([], p)
  | (some values, p) =>
    if reader.isSingle values then
      ([], place.complain p line ("Can't loop '" ++ text ++ "' because it's only a single value"))
    else
      readRepeating (fun id => inside (place.insideLoop ⟨id, reader.returns values⟩))
        (fun id => .loop id line values) p

/-- Reads lines that are run as long as a condition holds. -/
def readWhile (reader : LineReader C E X) (place : Place) (line : Nat) (text : String)
    (inside : Inside C E X) (p : Progress) : List (Step C E X) × Progress :=
  match p.attempt (reader.condition (place.scope p line) text) with
  | (none, p) => ([], p)
  | (some c, p) => readRepeating (fun _ => inside place) (fun id => .whileHolds id line c) p

/-- Ends the branches that a line of some kind does not continue. -/
def settle (kind : LineKind) (pending : Pending C E X) (p : Progress) :
    List (Step C E X) × Pending C E X × Progress :=
  if kind.continues then ([], pending, p)
  else
    let (closed, p) := closeChain pending.chain p
    (closed, .none, p)

/-- Reads a heading. The branches before it have been ended if it does not continue them. -/
def readHeading (reader : LineReader C E X) (place : Place) (line : Nat) (kind : LineKind)
    (inside : Inside C E X) (pending : Pending C E X) (p : Progress) :
    List (Step C E X) × Pending C E X × Progress :=
  match kind with
  | .ifHolds text => ([], beginChain reader place line text inside p)
  | .elseIf text =>
    ([], continueChain reader place line (some text)
      "'else if' has to be placed just after another 'if' or 'else if' section" inside pending p)
  | .otherwise =>
    ([], continueChain reader place line none
      "'else' has to be placed just after an 'if' or 'else if' section" inside pending p)
  | .loop text =>
    let (steps, p) := readLoop reader place line text inside p
    (steps, pending, p)
  | .whileHolds text =>
    let (steps, p) := readWhile reader place line text inside p
    (steps, pending, p)
  | .statement _ => ([], pending, p)

/-- Reports a heading with nothing inside. -/
def refuseEmpty (place : Place) (line : Nat) (key : String) (kind : LineKind)
    (pending : Pending C E X) (p : Progress) : Pending C E X × Progress :=
  let skipElse := match kind with
    | .ifHolds _ => true
    | _ => pending.skipElse
  ({ pending with skipElse }, place.complain p line ("Empty section: '" ++ key ++ "'"))

mutual

/-- The steps of some nodes, given what the first of them may continue. -/
def readBlock (reader : LineReader C E X) (place : Place) :
    List Node → Pending C E X → Progress → List (Step C E X) × Progress
  | [], pending, p => closeChain pending.chain p
  | node :: rest, pending, p =>
    let (steps, pending, p) := readNode reader place node pending p
    let (more, p) := readBlock reader place rest pending p
    (steps ++ more, p)

/-- The steps that end with a node, and what the following node may continue. -/
def readNode (reader : LineReader C E X) (place : Place) :
    Node → Pending C E X → Progress → List (Step C E X) × Pending C E X × Progress
  | .entry line key, pending, p =>
    let (closed, p) := closeChain pending.chain p
    let (steps, p) := readLine reader place line key p
    (closed ++ steps, .none, p)
  | .heading line key children, pending, p =>
    let kind := classify key true
    let (closed, pending, p) := settle kind pending p
    if children.isEmpty then
      (closed, refuseEmpty place line key kind pending p)
    else
      let inside : Inside C E X := fun place p => readBlock reader place children .none p
      let (steps, pending, p) := readHeading reader place line kind inside pending p
      (closed ++ steps, pending, p)

end

/-- The body of a trigger as it was read. -/
structure Body (C E X : Type) where
  steps : List (Step C E X)
  /-- Whether a delay may have happened at its end. -/
  delay : Ternary
  entries : List Entry
  deriving Inhabited

/-- The body as a graph. -/
def Body.graph (body : Body C E X) : Graph C E X := .ofBlock body.steps

/-- Reads the nodes below a header. -/
def readBody (reader : LineReader C E X) (place : Place) (delay : Ternary) (nodes : List Node) :
    Body C E X :=
  let (steps, p) := readBlock reader place nodes .none ⟨delay, 0, []⟩
  ⟨steps, p.delay, p.entries⟩

end TriggerScript.Parsing

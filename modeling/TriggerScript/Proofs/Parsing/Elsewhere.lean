import TriggerScript.Parsing.Body
import TriggerScript.Proofs.Parsing.Conditions

/-!
# Reading in another line

What a text is read as depends on the types, the events and the loops around it. On the line that it
stands in, on a delay before it and on whether warnings are wanted depends only what is reported. And
on what has been reported before nothing depends.

* `Scope.moved` : the view from another line.
* `SameResults` : readers that only report differently.
* `result_matchElement_moved`, `result_parseSingle_moved`, `result_parseList_moved` : parts of texts.
* `sameResults_parseExpression`, `result_parseCondition_moved` : expressions and conditions.
* `Progress.behind` : lines behind others that have left some entries.
* `readBlock_behind` : they are read in the same way.
-/

namespace TriggerScript

/-- The view from another line with the same events and loops. -/
def Scope.moved (scope : Scope) (delay : Ternary) (location : Option Location) (warn : Bool) : Scope :=
  { scope with delay, location, warnMissingAnd := warn }

@[simp] theorem Scope.moved_system (scope : Scope) (delay : Ternary) (location : Option Location)
    (warn : Bool) : (scope.moved delay location warn).system = scope.system := rfl

namespace Parsing

open Text Pattern Vocabulary

variable {registry : Registry} {word : Regex} {scope : Scope} {delay : Ternary}
  {location : Option Location} {warn : Bool} {read read' : Reader} {text : String} {slot : Slot}

/-- Readers with the same results. -/
def SameResults (read read' : Reader) : Prop :=
  ∀ text slot, (read' text slot).result = (read text slot).result

/-! ### Elements -/

theorem result_runSetup_congr {α : Type} (hread : SameResults read read')
    (first second : Option Location) (setup : Setup α) :
    (runSetup read' second setup).result = (runSetup read first setup).result := by
  induction setup with
  | done result => rfl
  | error message quality next ih => exact ih
  | warning message next ih => exact ih
  | parse text slot next ih =>
    rw [runSetup, runSetup, Attempt.result_after, Attempt.result_after, hread]
    exact ih _

theorem result_parseSlots_moved (hread : SameResults read read') (slots : List Slot)
    (spans : List (Option Span)) :
    (parseSlots read' (scope.moved delay location warn) slots spans).result =
      (parseSlots read scope slots spans).result := by
  induction slots generalizing spans with
  | nil => rfl
  | cons slot slots ih =>
    rw [parseSlots, parseSlots]
    cases spans.head?.join with
    | none =>
      simp only [Attempt.result_map, ih]
      rfl
    | some span => simp only [result_bind, Attempt.result_map, ih, hread _ slot]

theorem result_matchElement_moved {α : Type} (hread : SameResults read read')
    {setup : Scope → Capture → Setup α}
    (hsetup : ∀ c, setup (scope.moved delay location warn) c = setup scope c)
    (patterns : List Pattern) :
    (matchElement read' (scope.moved delay location warn) setup patterns text).result =
      (matchElement read scope setup patterns text).result := by
  have hsame (index : Nat) (p : Pattern) :
      (matchPattern read' (scope.moved delay location warn) index p text).result =
        (matchPattern read scope index p text).result := by
    rw [result_matchPattern_eq, result_matchPattern_eq]
    simp only [result_parseSlots_moved hread]
  rw [matchElement, matchElement, result_firstOf, result_firstOf]
  simp only [result_bind, hsame, hsetup, result_runSetup_congr hread scope.location]

/-! ### Expressions -/

theorem result_tryEntry_moved (hread : SameResults read read') {entry : ExpressionEntry Pattern}
    (hsetup : ∀ c, entry.setup (scope.moved delay location warn) c = entry.setup scope c) :
    (tryEntry read' (scope.moved delay location warn) text slot entry).result =
      (tryEntry read scope text slot entry).result := by
  rw [tryEntry, tryEntry, Scope.moved_system]
  split
  · rfl
  · rw [result_bind, result_bind, result_matchElement_moved hread hsetup]

theorem result_parseLiteral_moved :
    (parseLiteral (scope.moved delay location warn) text slot).result =
      (parseLiteral scope text slot).result := by
  rw [parseLiteral, parseLiteral, Scope.moved_system]
  split <;> rfl

theorem result_acceptFor_moved (e : Expression) :
    (acceptFor (scope.moved delay location warn) text slot e).result =
      (acceptFor scope text slot e).result := by
  rw [acceptFor, acceptFor, Scope.moved_system]
  split <;> rfl

theorem result_parseSingle_moved (hknows : Knows registry word) (hread : SameResults read read') :
    (parseSingle registry read' (scope.moved delay location warn) text slot).result =
      (parseSingle registry read scope text slot).result := by
  rw [parseSingle, parseSingle]
  cases unquote text.toList with
  | some content =>
    simp only [result_bind, result_runSetup_congr hread scope.location, result_acceptFor_moved]
  | none =>
    simp only [Scope.moved_system]
    split
    · exact result_parseLiteral_moved
    · split
      · exact result_acceptFor_moved _
      · rw [result_orElse, result_orElse, result_parseLiteral_moved, result_groups hknows,
          result_groups hknows, result_tryEntry_moved hread fun _ => rfl,
          result_tryEntry_moved hread fun _ => rfl, result_tryEntry_moved hread fun _ => rfl,
          result_tryEntry_moved hread fun _ => rfl]

theorem result_parseItems_moved (hknows : Knows registry word) (hread : SameResults read read')
    (items : List (List Char)) :
    (parseItems registry read' (scope.moved delay location warn) slot items).result =
      (parseItems registry read scope slot items).result := by
  induction items with
  | nil => rfl
  | cons item rest ih =>
    rw [parseItems, parseItems]
    cases stripParens item with
    | none => simp only [result_bind, Attempt.result_map, ih, result_parseSingle_moved hknows hread]
    | some inner => simp only [result_bind, Attempt.result_map, ih, hread _ slot]

theorem result_parseList_moved (hknows : Knows registry word) (hread : SameResults read read') :
    (parseList registry read' (scope.moved delay location warn) text slot).result =
      (parseList registry read scope text slot).result :=
  Option.ext fun e => by
    rw [result_parseList_iff, result_parseList_iff]
    simp only [result_parseItems_moved hknows hread, Scope.moved_system]

theorem sameResults_parseWithin (hknows : Knows registry word) (depth : Nat) :
    SameResults (parseWithin registry scope depth)
      (parseWithin registry (scope.moved delay location warn) depth) := by
  induction depth with
  | zero =>
    intro text slot
    rw [result_parseWithin_zero, result_parseWithin_zero]
  | succ depth ih =>
    intro text slot
    refine Option.ext fun e => ?_
    -- Both sides read the whole text first, and its items next, one level deeper.
    rw [result_parseWithin_iff, result_parseWithin_iff, parseOnce, parseOnce]
    cases stripParens (trimString text).toList with
    | none =>
      simp only [Attempt.result_framed, result_orElse, result_parseSingle_moved hknows ih,
        result_parseList_moved hknows ih]
    | some inner => simp only [ih _ slot]

/-- **The same expressions are read in any line** with the same events and loops. -/
theorem sameResults_parseExpression (hregistry : builtIn = .ok registry) :
    SameResults (parseExpression registry scope)
      (parseExpression registry (scope.moved delay location warn)) := by
  obtain ⟨word, hknows⟩ := exists_knows hregistry
  exact sameResults_parseWithin hknows maxDepth

/-- **The same conditions are read in any line** with the same events and loops. -/
theorem result_parseCondition_moved (hregistry : builtIn = .ok registry) :
    (parseCondition registry (scope.moved delay location warn) text).result =
      (parseCondition registry scope text).result := by
  rw [result_parseCondition hregistry, result_parseCondition hregistry,
    result_matchElement_moved (sameResults_parseExpression hregistry) fun _ => rfl,
    result_matchElement_moved (sameResults_parseExpression hregistry) fun _ => rfl]

/-! ### Entries from before -/

section Blocks

open TriggerScript.Flow

variable {C E X : Type} {r : LineReader C E X}

/-- The progress with some entries from before. -/
def Progress.behind (front : List Entry) (p : Progress) : Progress :=
  { p with entries := front ++ p.entries }

section Behind

variable {front : List Entry} {place : Place} {line : Nat} {text : String} {p : Progress}
  {inside : Inside C E X} {pending : Pending C E X}

/-- What is inside a heading is read in the same way, whatever entries there are before. -/
def KeepsBehind (front : List Entry) (inside : Inside C E X) : Prop :=
  ∀ place p, inside place (p.behind front) =
    ((inside place p).1, (inside place p).2.behind front)

theorem closeChain_behind (chain : Option (Chain C E X)) :
    closeChain chain (p.behind front) =
      ((closeChain chain p).1, (closeChain chain p).2.behind front) := by
  cases chain <;> rfl

theorem attempt_behind {α : Type} (a : Attempt α) :
    (p.behind front).attempt a = ((p.attempt a).1, (p.attempt a).2.behind front) := by
  simp only [Progress.attempt, Progress.behind, List.append_assoc]

theorem complain_behind (message : String) :
    place.complain (p.behind front) line message =
      (place.complain p line message).behind front := by
  simp only [Place.complain, Progress.behind, List.append_assoc]

theorem scope_behind : place.scope (p.behind front) line = place.scope p line := rfl

theorem readLine_behind : readLine r place line text (p.behind front) =
    ((readLine r place line text p).1, (readLine r place line text p).2.behind front) := by
  simp only [readLine, scope_behind, attempt_behind]
  rcases p.attempt (r.statement (place.scope p line) (trimString text)) with ⟨_ | ⟨c | e⟩, q⟩
  · rfl
  · rfl
  · cases hdelay : r.isDelay e <;> simp [hdelay, Progress.draw, Progress.behind]

theorem readBranch_behind (hin : KeepsBehind front inside) (c : Chain C E X) (condition : Option C) :
    c.readBranch place inside condition (p.behind front) =
      ((c.readBranch place inside condition p).1,
        (c.readBranch place inside condition p).2.behind front) := by
  have hbody := hin place { p with delay := c.before }
  have hsame : { p.behind front with delay := c.before } =
      Progress.behind front { p with delay := c.before } := rfl
  simp only [Chain.readBranch, hsame, hbody]
  rfl

theorem draw_behind : (p.behind front).draw = (p.draw.1, p.draw.2.behind front) := rfl

theorem beginChain_behind (hin : KeepsBehind front inside) :
    beginChain r place line text inside (p.behind front) =
      ((beginChain r place line text inside p).1,
        (beginChain r place line text inside p).2.behind front) := by
  simp only [beginChain, scope_behind, attempt_behind]
  rcases p.attempt (r.condition (place.scope p line) text) with ⟨_ | c, q⟩
  · rfl
  · simp only [draw_behind, readBranch_behind hin]
    rfl

theorem continueChain_behind {text : Option String} {complaint : String}
    (hin : KeepsBehind front inside) :
    continueChain r place line text complaint inside pending (p.behind front) =
      ((continueChain r place line text complaint inside pending p).1,
        (continueChain r place line text complaint inside pending p).2.behind front) := by
  simp only [continueChain, complain_behind, scope_behind, attempt_behind, readBranch_behind hin]
  split
  · rfl
  split
  · rfl
  cases text with
  | none => rfl
  | some text =>
    simp only
    rcases p.attempt (r.condition (place.scope p line) text) with ⟨_ | c, q⟩
    · rfl
    · simp only [readBranch_behind hin]

theorem readRepeating_behind {inside : ItemId → Progress → List (Step C E X) × Progress}
    {step : ItemId → List (Step C E X) → Step C E X}
    (hin : ∀ id p, inside id (p.behind front) = ((inside id p).1, (inside id p).2.behind front)) :
    readRepeating inside step (p.behind front) =
      ((readRepeating inside step p).1, (readRepeating inside step p).2.behind front) := by
  simp only [readRepeating, draw_behind, hin]
  split <;> rfl

theorem readHeading_behind {kind : LineKind} (hin : KeepsBehind front inside) :
    readHeading r place line kind inside pending (p.behind front) =
      ((readHeading r place line kind inside pending p).1,
        (readHeading r place line kind inside pending p).2.1,
        (readHeading r place line kind inside pending p).2.2.behind front) := by
  cases kind with
  | ifHolds text => simp only [readHeading, beginChain_behind hin]
  | elseIf text => simp only [readHeading, continueChain_behind hin]
  | otherwise => simp only [readHeading, continueChain_behind hin]
  | loop text =>
    simp only [readHeading, readLoop, scope_behind, attempt_behind]
    rcases p.attempt (r.values (place.scope p line) text) with ⟨_ | values, q⟩
    · rfl
    · simp only [complain_behind]
      split
      · rfl
      · rw [readRepeating_behind fun id p => hin _ p]
  | whileHolds text =>
    simp only [readHeading, readWhile, scope_behind, attempt_behind]
    rcases p.attempt (r.condition (place.scope p line) text) with ⟨_ | c, q⟩
    · rfl
    · simp only
      rw [readRepeating_behind fun id p => hin _ p]
  | statement text => rfl

theorem settle_behind (kind : LineKind) : settle kind pending (p.behind front) =
    ((settle kind pending p).1, (settle kind pending p).2.1,
      (settle kind pending p).2.2.behind front) := by
  simp only [settle, closeChain_behind]
  split <;> rfl

end Behind

mutual

theorem readBlock_behind (front : List Entry) (place : Place) (nodes : List Node)
    (pending : Pending C E X) (p : Progress) :
    readBlock r place nodes pending (p.behind front) =
      ((readBlock r place nodes pending p).1, (readBlock r place nodes pending p).2.behind front) := by
  match nodes with
  | [] => simp only [readBlock, closeChain_behind]
  | node :: rest =>
    simp only [readBlock, readNode_behind front place node, readBlock_behind front place rest]

theorem readNode_behind (front : List Entry) (place : Place) (node : Node)
    (pending : Pending C E X) (p : Progress) :
    readNode r place node pending (p.behind front) =
      ((readNode r place node pending p).1, (readNode r place node pending p).2.1,
        (readNode r place node pending p).2.2.behind front) := by
  match node with
  | .entry line key => simp only [readNode, closeChain_behind, readLine_behind]
  | .heading line key children =>
    have hin : KeepsBehind front fun place p => readBlock r place children .none p :=
      fun place p => readBlock_behind front place children .none p
    simp only [readNode, settle_behind]
    split
    · simp only [refuseEmpty, complain_behind]
    · simp only [readHeading_behind hin]

end

end Blocks

end Parsing

end TriggerScript

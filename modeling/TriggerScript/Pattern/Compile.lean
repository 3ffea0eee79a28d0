import TriggerScript.Pattern.Element
import TriggerScript.Pattern.Token
import TriggerScript.Types.Table

/-!
# Compiling patterns

* `Draft` : the groups that are still open while a source is read.
* `Draft.step` : what a token adds to it.
* `wholeText` : how a regular expression is to match what it takes.
* `Pattern.compile` : the pattern that a source stands for, or what is wrong with it.
-/

namespace TriggerScript.Pattern

open TriggerScript.Text

/-- A group whose end has not been reached. Lists are in reverse. -/
structure OpenGroup where
  close : Char
  alternatives : List Alternative
  mark : Int32
  /-- The parts before the group. -/
  outer : List Element

/-- The state between two tokens. `elements` are the parts of the innermost sequence in reverse,
and `word` the characters of the literal at its end in reverse. -/
structure Draft where
  groups : List OpenGroup
  elements : List Element
  word : List Char
  slots : List Slot
  regexes : List Regex

namespace Draft

def empty : Draft := ⟨[], [], [], [], []⟩

/-- Ends the literal at the end of the sequence. -/
def flush (d : Draft) : Draft :=
  if d.word.isEmpty then d
  else { d with elements := .literal d.word.reverse :: d.elements, word := [] }

/-- Adds a part to the sequence. -/
def push (d : Draft) (e : Element) : Draft :=
  let d := d.flush
  { d with elements := e :: d.elements }

/-- Adds blanks; further blanks right behind them change nothing. -/
def pushSpace (d : Draft) : Draft :=
  let d := d.flush
  match d.elements with
  | .space :: _ => d
  | elements => { d with elements := .space :: elements }

end Draft

/-- Takes the flags off the front of the body of a slot. -/
def slotFlags (slot : Slot) : List Char → Slot × List Char
  | '-' :: rest => slotFlags { slot with nullable := true } rest
  | '*' :: rest => slotFlags { slot with literalOnly := true } rest
  | '+' :: rest => slotFlags { slot with greedy := true } rest
  | '~' :: rest => slotFlags slot rest
  | rest => (slot, rest)

/-- Adds the types that are named to a slot; only singular names leave it a single one. -/
def slotTypes (types : TypeTable) (slot : Slot) : List String → Except String Slot
  | [] => .ok slot
  | name :: names =>
    match types.lookup? name with
    | none => .error ("'" ++ trimString name ++ "' is not a type")
    | some (info, plural) =>
      slotTypes types
        { slot with types := slot.types ++ [info.code], single := slot.single && !plural } names

/-- The slot that the text between percent signs stands for. -/
def readSlot (types : TypeTable) (body : List Char) : Except String Slot :=
  let (slot, names) := slotFlags (Slot.one []) body
  slotTypes types slot ((pieces '/' names).map String.ofList)

/-- A regular expression as a pattern takes it: letter case does not count, and the expression is
to match from the start to the end of what it takes. -/
def wholeText (body : List Char) : List Char :=
  "(?i)^(?:".toList ++ body ++ ")$".toList

/-- Something wrong with a source at a place. -/
def patternFault (source message : String) (place : Nat) : Fault :=
  .pattern source (message ++ " (at character " ++ toString place ++ ")")

namespace Draft

/-- Takes one token in. -/
def step (types : TypeTable) (source : String) (d : Draft) : Token → Except Fault Draft
  | .char c => .ok { d with word := (lowerChar c).reverse ++ d.word }
  | .blank => .ok d.pushSpace
  | .opening c =>
    let d := d.flush
    let group : OpenGroup := ⟨if c == '[' then ']' else ')', [], 0, d.elements⟩
    .ok { d with groups := group :: d.groups, elements := [] }
  | .mark n =>
    match d.groups with
    | group :: outer => .ok { d with groups := { group with mark := n } :: outer }
    | [] => .ok d
  | .delimiter c place =>
    match d.groups with
    | [] => .error (patternFault source ("unexpected '" ++ c.toString ++ "' outside of a group") place)
    | group :: outer =>
      let d := d.flush
      let alternatives := .mk group.mark d.elements.reverse :: group.alternatives
      if c == '|' then
        .ok { d with groups := { group with alternatives, mark := 0 } :: outer, elements := [] }
      else if c == group.close then
        let whole := .group alternatives.reverse (group.close == ']')
        .ok { d with groups := outer, elements := whole :: group.outer }
      else
        .error (patternFault source
          ("expected '" ++ group.close.toString ++ "' but found '" ++ c.toString ++ "'") place)
  | .slot body place =>
    match readSlot types body with
    | .error message => .error (patternFault source message place)
    | .ok slot => .ok { d.push (.slot d.slots.length) with slots := d.slots ++ [slot] }
  | .regex body place =>
    match Regex.compile? (wholeText body) with
    | none =>
      .error (patternFault source ("invalid regex '" ++ String.ofList body ++ "'") place)
    | some r => .ok { d.push (.regex d.regexes.length) with regexes := d.regexes ++ [r] }
  | .bad message place => .error (patternFault source message place)

/-- Takes tokens in from left to right. -/
def run (types : TypeTable) (source : String) (d : Draft) : List Token → Except Fault Draft
  | [] => .ok d
  | token :: rest => (d.step types source token).bind fun d => d.run types source rest

end Draft

/-- The pattern that a source stands for. -/
def compile (types : TypeTable) (source : String) : Except Fault Pattern :=
  (Draft.empty.run types source (tokens source.toList)).bind fun d =>
    match d.groups with
    | group :: _ =>
      .error (patternFault source ("missing closing '" ++ group.close.toString ++ "'") source.length)
    | [] =>
      match d.flush.elements.reverse with
      | [] => .error (patternFault source "pattern is empty" source.length)
      | elements => .ok { source, elements, slots := d.slots, regexes := d.regexes }

end TriggerScript.Pattern

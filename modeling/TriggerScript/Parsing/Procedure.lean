import TriggerScript.Parsing.State
import TriggerScript.Parsing.Statement

/-!
# Reading on a desk

All readings of a script share one desk: the log with its open frames, what surrounds the line,
and how deep the reading is nested. Reading is done here step by step on that desk, the way an
engine does it in place: frames are opened and closed, the depth goes up and down, and the events
are swapped while the candidates for a header are tried.

* `Desk`, `Procedure` : what is shared, and a reading that works on it.
* `Procedure.inFrame`, `Procedure.nested`, `Procedure.about` : a reading in a frame of its own, one
  level deeper, and with other events.
* `Procedure.parseExpression`, `Procedure.parseStatement`, `Procedure.parseCondition`,
  `Procedure.parseHeader` : the readings themselves.
-/

namespace TriggerScript.Parsing

/-- What all readings of a script share. -/
structure Desk where
  state : State
  /-- How many expressions the reading at hand stands inside. -/
  depth : Nat

namespace Desk

def withLog (d : Desk) (log : Log) : Desk :=
  { d with state := { d.state with log } }

def withEvents (d : Desk) (events : List EventKind) : Desk :=
  { d with state := { d.state with events } }

/-- What is known at the line. -/
def scope (d : Desk) : Scope := d.state.scope

end Desk

/-- A reading that works on a desk. It ends with a result or without one. -/
abbrev Procedure (α : Type) := Desk → Option α × Desk

/-- Reads a nested text as an expression for a slot. -/
abbrev DeskReader := String → Slot → Procedure Expression

namespace Procedure

variable {α β : Type}

/-- Ends at once. -/
def ofOption (a : Option α) : Procedure α := fun d => (a, d)

/-- Ends without a result and says why. -/
def complain (message : String) (quality : Quality) : Procedure α :=
  fun d => (none, d.withLog (d.state.log.error message quality))

/-- Goes on with the result, if there is one. -/
def bind (m : Procedure α) (f : α → Procedure β) : Procedure β := fun d =>
  match m d with
  | (some a, d) => f a d
  | (none, d) => (none, d)

def map (f : α → β) (m : Procedure α) : Procedure β :=
  fun d => ((m d).1.map f, (m d).2)

/-- Goes on with another reading if there is no result. -/
def orElse (m : Procedure α) (next : Unit → Procedure α) : Procedure α := fun d =>
  match m d with
  | (some a, d) => (some a, d)
  | (none, d) => next () d

/-- Tries candidates in order until one succeeds. -/
def firstOf (f : α → Procedure β) : List α → Procedure β
  | [] => ofOption none
  | a :: rest => (f a).orElse fun _ => firstOf f rest

/-- Looks at the desk first. -/
def look (f : Desk → Procedure α) : Procedure α := fun d => f d d

/-- Opens a frame for a reading and closes it behind. -/
def inFrame (default : Option (String × Quality)) (m : Procedure α) : Procedure α := fun d =>
  let (handle, log) := d.state.log.enter
  match m (d.withLog log) with
  | (some a, d) => (some a, d.withLog (d.state.log.closeSuccess handle))
  | (none, d) => (none, d.withLog (d.state.log.closeBest handle default))

/-- One level deeper. -/
def nested (m : Procedure α) : Procedure α := fun d =>
  let (result, after) := m { d with depth := d.depth + 1 }
  (result, { after with depth := after.depth - 1 })

/-- With other events, which are taken back behind the reading. -/
def about (events : List EventKind) (m : Procedure α) : Procedure α := fun d =>
  let (result, after) := m (d.withEvents events)
  (result, after.withEvents d.state.events)

/-- Sets an element up, with nested texts read by `read`. -/
def runSetup (read : DeskReader) : Setup α → Procedure α
  | .done result => ofOption result
  | .error message quality next => fun d =>
    runSetup read next (d.withLog (d.state.log.error message quality))
  | .warning message next => fun d => runSetup read next (d.withLog (d.state.log.warning message))
  | .parse text slot next => fun d =>
    let (inner, d) := read text slot d
    runSetup read (next inner) d

/-- Reads the text of each slot, if it took one. -/
def parseSlots (read : DeskReader) :
    List Slot → List (Option Span) → Procedure (List (Option Expression))
  | [], _ => ofOption (some [])
  | slot :: slots, spans =>
    match spans.head?.join with
    | some span =>
      (read (String.ofList span.text) slot).bind fun e =>
        (parseSlots read slots spans.tail).map fun parts => some e :: parts
    | none => look fun d =>
      (parseSlots read slots spans.tail).map fun parts => defaultExpression? d.scope slot :: parts

/-- The first way to match a pattern in which the text of every slot can be read. -/
def matchPattern (read : DeskReader) (index : Nat) (p : Pattern) (text : String) :
    Procedure Capture := fun d =>
  (p.offer text.toList
    (fun split (sofar : Option Capture × Desk) =>
      match parseSlots read p.slots split.spans sofar.2 with
      | (some parts, d) => (true, some (capture index split parts), d)
      | (none, d) => (false, sofar.1, d))
    (none, d)).2

/-- The first pattern of an element that matches and with which it accepts. -/
def matchElement (read : DeskReader) (setup : Scope → Capture → Setup α) (patterns : List Pattern)
    (text : String) : Procedure α :=
  firstOf (fun (index, p) =>
    (matchPattern read index p text).bind fun c =>
      look fun d => runSetup read (setup d.scope c)) (numbered patterns)

/-- A registered expression that reads the text and fits the slot. -/
def tryEntry (read : DeskReader) (text : String) (slot : Slot) (entry : ExpressionEntry Pattern) :
    Procedure Expression :=
  look fun d =>
    if (d.scope.system.acceptance? entry.returns slot.types).isNone then ofOption none
    else
      (matchElement read entry.setup entry.patterns text).bind fun e =>
        ofOption (convertExpression? d.scope.system slot.types e)

/-- Tries all expressions of a group and keeps the first result. -/
def tryGroup (read : DeskReader) (text : String) (slot : Slot) (chosen : Option Expression) :
    List (ExpressionEntry Pattern) → Procedure Expression
  | [] => ofOption chosen
  | entry :: rest => fun d =>
    let (next, d) := tryEntry read text slot entry d
    tryGroup read text slot (chosen.or next) rest d

/-- The literal of the first type of the slot that has one. -/
def parseLiteral (text : String) (slot : Slot) : Procedure Expression :=
  look fun d =>
    match slot.types.findSome? fun type => d.scope.system.types.readLiteral? type text with
    | some value => ofOption (some (.literal [value] value.typeName true))
    | none => complain ("'" ++ text ++ "' is not " ++ d.scope.system.types.describe slot.types)
        .notExpression

/-- Converts an expression for a slot or says that it does not fit. -/
def acceptFor (text : String) (slot : Slot) (e : Expression) : Procedure Expression :=
  look fun d =>
    match convertExpression? d.scope.system slot.types e with
    | some e => ofOption (some e)
    | none => complain (text ++ " is not " ++ d.scope.system.types.describe slot.types) .semantic

/-- Reads one value: a quoted text, a number, a registered expression or a literal. -/
def parseSingle (read : DeskReader) (text : String) (slot : Slot) : Procedure Expression :=
  match Text.unquote text.toList with
  | some content =>
    (runSetup read (readTemplate true (String.ofList content))).bind fun parts =>
      acceptFor text slot (.quoted parts)
  | none =>
    if slot.literalOnly then parseLiteral text slot
    else look fun d =>
      match plainNumber? d.scope.system text slot with
      | some value => acceptFor text slot (.literal [value] numberType true)
      | none =>
        (firstOf (fun p => tryGroup read text slot none (d.state.registry.inGroup p))
          Priority.inOrder).orElse fun _ => parseLiteral text slot

/-- Reads the items of a list in order. -/
def parseItems (read : DeskReader) (slot : Slot) : List (List Char) → Procedure (List Expression)
  | [] => ofOption (some [])
  | item :: rest =>
    let parsed := match Text.stripParens item with
      | some inner => read (String.ofList inner) slot
      | none => parseSingle read (String.ofList item) slot
    parsed.bind fun e => (parseItems read slot rest).map fun es => e :: es

/-- Reads a text as a list of at least two items. -/
def parseList (read : DeskReader) (text : String) (slot : Slot) : Procedure Expression :=
  match Text.splitList text.toList with
  | none => ofOption none
  | some e =>
    if e.items.length ≤ 1 then ofOption none
    else if e.isMixed then
      complain ("'" ++ text ++ "' mixes 'and' and 'or'; use parentheses to group the list")
        .semantic
    else
      (parseItems read { slot with single := false } e.items).bind fun items d =>
        let whole := .list items e.isAnd (commonType d.scope.system.types items)
        if e.isCommaOnly && d.scope.warnMissingAnd then
          (some whole, d.withLog (d.state.log.warning
            ("List is missing 'and' or 'or', defaulting to 'and': " ++ text)))
        else (some whole, d)

/-- Reads a trimmed text: what its outer parentheses hold, one value, or a list. -/
def parseOnce (read : DeskReader) (text : String) (slot : Slot) : Procedure Expression :=
  match Text.stripParens text.toList with
  | some inner => read (String.ofList inner) slot
  | none => inFrame none ((parseSingle read text slot).orElse fun _ => parseList read text slot)

/-- Refuses several values where one is asked for. -/
def demandSingle (text : String) (slot : Slot) (e : Expression) : Procedure Expression :=
  if slot.single && !e.isSingle then
    look fun d => complain ("'" ++ text ++ "' can only be a single value, i.e. " ++
      d.scope.system.types.describe slot.types ++ ", not more") .semantic
  else ofOption (some e)

/-- Reads a text as an expression. The depth on the desk is what bounds the nesting; `rounds` only
has to be larger than what that depth leaves. -/
def parseWithin : Nat → DeskReader
  | 0, _, _ => ofOption none
  | rounds + 1, text, slot =>
    let text := Text.trimString text
    if text.isEmpty then complain "Empty expression" .notExpression
    else look fun d =>
      if maxDepth ≤ d.depth then complain ("'" ++ text ++ "' is nested too deeply") .semantic
      else (nested (parseOnce (parseWithin rounds) text slot)).bind (demandSingle text slot)

/-- Reads a text as an expression. -/
def parseExpression : DeskReader := parseWithin (maxDepth + 1)

/-- Tries some of the registered statements in order. -/
def parseAmong (entries : Registry → List (StatementEntry Pattern)) (complaint text : String) :
    Procedure Statement :=
  let text := Text.trimString text
  inFrame (some (complaint ++ "'" ++ text ++ "'", .generic)) <| look fun d =>
    firstOf (fun entry => matchElement parseExpression entry.setup.run entry.patterns text)
      (entries d.state.registry)

/-- Reads a condition or an effect. -/
def parseStatement (text : String) : Procedure Statement :=
  parseAmong Registry.statements "Can't understand this condition/effect: " text

/-- Reads a condition. -/
def parseCondition (text : String) : Procedure Condition :=
  (parseAmong (fun r => r.statements.filter (·.setup.isCondition))
    "Can't understand this condition: " text).bind fun s => ofOption s.condition?

/-- Reads a header as one registered element, which sees the events that it is about. -/
def tryHeader (text : String) (entry : HeaderEntry Pattern) : Procedure ParsedHeader :=
  (about entry.kinds (matchElement parseExpression entry.setup entry.patterns text)).map
    fun header => ⟨entry.name, entry.kinds, header⟩

/-- Reads the header of a trigger. -/
def parseHeader (text : String) : Procedure ParsedHeader :=
  let text := withoutOn text
  inFrame (some ("Can't understand this event: '" ++ text ++ "'", .generic)) <| look fun d =>
    firstOf (tryHeader text) d.state.registry.headers

end Procedure

end TriggerScript.Parsing

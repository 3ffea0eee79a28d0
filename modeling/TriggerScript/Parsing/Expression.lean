import TriggerScript.Parsing.Attempt
import TriggerScript.Registry.Basic
import TriggerScript.Pattern.Matching
import TriggerScript.Vocabulary.Expressions
import TriggerScript.Text.Brackets

/-!
# Reading expressions

A text is read as a quoted text, a number, a registered expression or a literal, and else as a
list of such. Registered expressions are tried group by group; within a group the first one in
order of registration is taken.

* `Reader` : reads nested texts.
* `matchPattern` : the first way to match a pattern in which all nested texts can be read.
* `parseSingle`, `parseOnce` : one value, and one value or a list.
* `parseWithin` : an expression with at most so many levels of nesting.
* `parseExpression` : an expression of a line.
-/

namespace TriggerScript.Parsing

/-- Reads a nested text as an expression for a slot. -/
abbrev Reader := String → Slot → Attempt Expression

/-- How deep expressions may be nested. -/
def maxDepth : Nat := 64

/-- Makes an expression produce one of the required types. Constants are converted at once and
have to be convertible; other values are converted when they are produced. -/
def convertExpression? (system : TypeSystem) (required : List String) (e : Expression) :
    Option Expression :=
  match system.acceptance? e.returns required with
  | none => none
  | some .direct => some e
  | some (.convert target) =>
    match e.constants? with
    | some values =>
      (values.mapM fun v => system.convert v target).map fun converted =>
        .literal converted target e.together
    | none => some (.converted e target)

/-- The outcome of setting an element up, with nested texts read by `read`. -/
def runSetup {α : Type} (read : Reader) (location : Option Location) : Setup α → Attempt α
  | .done result => .ofOption result
  | .error message quality next =>
    (runSetup read location next).after [.error location message quality]
  | .warning message next => (runSetup read location next).after [.warning location message]
  | .parse text slot next =>
    let inner := read text slot
    (runSetup read location (next inner.result)).after inner.entries

/-- What an omitted slot stands for: the event's value of the first of its types that defaults
to it and that the events carry. -/
def defaultExpression? (scope : Scope) (slot : Slot) : Option Expression :=
  if slot.nullable then none
  else slot.types.findSome? fun type =>
    match scope.system.types.get? type with
    | some info =>
      if info.eventDefault then
        (Vocabulary.eventValue? scope.system.types scope.events type).map .eventValue
      else none
    | none => none

/-- Reads the text of each slot, if it took one. -/
def parseSlots (read : Reader) (scope : Scope) :
    List Slot → List (Option Span) → Attempt (List (Option Expression))
  | [], _ => .ok []
  | slot :: slots, spans =>
    match spans.head?.join with
    | some span =>
      (read (String.ofList span.text) slot).bind fun e =>
        (parseSlots read scope slots spans.tail).map fun parts => some e :: parts
    | none =>
      (parseSlots read scope slots spans.tail).map fun parts =>
        defaultExpression? scope slot :: parts

/-- The capture of a split whose slots have been read. -/
def capture (pattern : Nat) (split : Split) (parts : List (Option Expression)) : Capture :=
  ⟨pattern, split.mark, parts, split.regexTexts.map String.ofList⟩

/-- The first way to match a pattern in which the text of every slot can be read. -/
def matchPattern (read : Reader) (scope : Scope) (index : Nat) (p : Pattern) (text : String) :
    Attempt Capture :=
  (p.offer text.toList
    (fun split (sofar : Attempt Capture) =>
      let parts := parseSlots read scope p.slots split.spans
      (parts.result.isSome, (parts.map (capture index split)).after sofar.entries))
    .no).2

/-- The patterns of an element with their numbers. -/
def numbered (patterns : List Pattern) : List (Nat × Pattern) :=
  patterns.zipIdx.map fun p => (p.2, p.1)

/-- The first pattern of an element that matches and with which it accepts. -/
def matchElement {α : Type} (read : Reader) (scope : Scope) (setup : Scope → Capture → Setup α)
    (patterns : List Pattern) (text : String) : Attempt α :=
  Attempt.firstOf (fun (index, p) =>
    (matchPattern read scope index p text).bind fun c =>
      runSetup read scope.location (setup scope c)) (numbered patterns)

/-- A registered expression that reads the text and fits the slot. -/
def tryEntry (read : Reader) (scope : Scope) (text : String) (slot : Slot)
    (entry : ExpressionEntry Pattern) : Attempt Expression :=
  if (scope.system.acceptance? entry.returns slot.types).isNone then .no
  else
    (matchElement read scope entry.setup entry.patterns text).bind fun e =>
      .ofOption (convertExpression? scope.system slot.types e)

/-- The first expression of a group that reads the text. All of them are tried. -/
def tryGroup (read : Reader) (scope : Scope) (text : String) (slot : Slot)
    (entries : List (ExpressionEntry Pattern)) : Attempt Expression :=
  entries.foldl (fun sofar entry =>
    let next := tryEntry read scope text slot entry
    ⟨sofar.result.or next.result, sofar.entries ++ next.entries⟩) .no

/-- The literal of the first type of the slot that has one. -/
def parseLiteral (scope : Scope) (text : String) (slot : Slot) : Attempt Expression :=
  match slot.types.findSome? fun type => scope.system.types.readLiteral? type text with
  | some value => .ok (.literal [value] value.typeName true)
  | none =>
    .refuse scope.location ("'" ++ text ++ "' is not " ++ scope.system.types.describe slot.types)
      .notExpression

/-- Converts an expression for a slot or says that it does not fit. -/
def acceptFor (scope : Scope) (text : String) (slot : Slot) (e : Expression) :
    Attempt Expression :=
  match convertExpression? scope.system slot.types e with
  | some e => .ok e
  | none =>
    .refuse scope.location (text ++ " is not " ++ scope.system.types.describe slot.types) .semantic

/-- The number that a text is, if the slot takes numbers. -/
def plainNumber? (system : TypeSystem) (text : String) (slot : Slot) : Option Value :=
  if Text.isPlainNumber text.toList && (system.acceptance? numberType slot.types).isSome then
    system.types.readLiteral? numberType text
  else none

/-- Reads one value: a quoted text, a number, a registered expression or a literal. -/
def parseSingle (registry : Registry) (read : Reader) (scope : Scope) (text : String)
    (slot : Slot) : Attempt Expression :=
  match Text.unquote text.toList with
  | some content =>
    (runSetup read scope.location (readTemplate true (String.ofList content))).bind fun parts =>
      acceptFor scope text slot (.quoted parts)
  | none =>
    if slot.literalOnly then parseLiteral scope text slot
    else match plainNumber? scope.system text slot with
      | some value => acceptFor scope text slot (.literal [value] numberType true)
      | none =>
        (Attempt.firstOf (fun p => tryGroup read scope text slot (registry.inGroup p))
          Priority.inOrder).orElse fun _ => parseLiteral scope text slot

/-- Reads the items of a list in order. -/
def parseItems (registry : Registry) (read : Reader) (scope : Scope) (slot : Slot) :
    List (List Char) → Attempt (List Expression)
  | [] => .ok []
  | item :: rest =>
    let parsed := match Text.stripParens item with
      | some inner => read (String.ofList inner) slot
      | none => parseSingle registry read scope (String.ofList item) slot
    parsed.bind fun e => (parseItems registry read scope slot rest).map fun es => e :: es

/-- The type that all items of a list are of. -/
def commonType (types : TypeTable) : List Expression → String
  | [] => objectType
  | e :: rest => rest.foldl (fun t e => types.common t e.returns) e.returns

/-- Reads a text as a list of at least two items. -/
def parseList (registry : Registry) (read : Reader) (scope : Scope) (text : String)
    (slot : Slot) : Attempt Expression :=
  match Text.splitList text.toList with
  | none => .no
  | some e =>
    if e.items.length ≤ 1 then .no
    else if e.isMixed then
      .refuse scope.location
        ("'" ++ text ++ "' mixes 'and' and 'or'; use parentheses to group the list") .semantic
    else
      (parseItems registry read scope { slot with single := false } e.items).bind fun items =>
        let whole := .list items e.isAnd (commonType scope.system.types items)
        if e.isCommaOnly && scope.warnMissingAnd then
          ⟨some whole, [.warning scope.location
            ("List is missing 'and' or 'or', defaulting to 'and': " ++ text)]⟩
        else .ok whole

/-- Reads a trimmed text: what its outer parentheses hold, one value, or a list. -/
def parseOnce (registry : Registry) (read : Reader) (scope : Scope) (text : String)
    (slot : Slot) : Attempt Expression :=
  match Text.stripParens text.toList with
  | some inner => read (String.ofList inner) slot
  | none =>
    ((parseSingle registry read scope text slot).orElse fun _ =>
      parseList registry read scope text slot).framed none

/-- Refuses several values where one is asked for. -/
def demandSingle (scope : Scope) (text : String) (slot : Slot) (e : Expression) :
    Attempt Expression :=
  if slot.single && !e.isSingle then
    .refuse scope.location ("'" ++ text ++ "' can only be a single value, i.e. " ++
      scope.system.types.describe slot.types ++ ", not more") .semantic
  else .ok e

/-- Reads a text as an expression, with at most `depth` levels of nesting. -/
def parseWithin (registry : Registry) (scope : Scope) : Nat → Reader
  | 0, text, _ =>
    let text := Text.trimString text
    if text.isEmpty then .refuse scope.location "Empty expression" .notExpression
    else .refuse scope.location ("'" ++ text ++ "' is nested too deeply") .semantic
  | depth + 1, text, slot =>
    let text := Text.trimString text
    if text.isEmpty then .refuse scope.location "Empty expression" .notExpression
    else
      (parseOnce registry (parseWithin registry scope depth) scope text slot).bind
        (demandSingle scope text slot)

/-- Reads a text of a line as an expression. -/
def parseExpression (registry : Registry) (scope : Scope) : Reader :=
  parseWithin registry scope maxDepth

end TriggerScript.Parsing

import TriggerScript.Vocabulary.BuiltIn

/-!
# Vocabularies stated as data

A host can state its types and elements instead of programming them.

* `Reaction` : what a declared element says when it is matched, and whether it rejects the match.
* `TypeDeclaration`, `ConversionRule`, `ComparisonRule` : types, conversions and comparators.
* `Declaration` : a whole vocabulary.
* `Declaration.registry` : the registry that it stands for.
-/

namespace TriggerScript.Vocabulary

/-- When a match is rejected, and what is said about it. -/
structure Rejection where
  /-- The only pattern whose matches are rejected. -/
  pattern : Option Nat
  error : Option (String × Quality)
  warning : Option String
  deriving Inhabited

/-- What a declared element does about a match. -/
structure Reaction where
  rejection : Option Rejection
  /-- What is said about a match that is accepted. -/
  warning : Option String
  deriving Inhabited

/-- Says something and goes on. -/
def warnThen {α : Type} (message : Option String) (next : Setup α) : Setup α :=
  match message with
  | some m => .warning m next
  | none => next

/-- Rejects the match or accepts it with `result`. -/
def Reaction.run {α : Type} (reaction : Reaction) (c : Capture) (result : α) : Setup α :=
  match reaction.rejection.filter fun r => r.pattern.all (· == c.pattern) with
  | some r =>
    let rest : Setup α := warnThen r.warning .reject
    match r.error with
    | some (message, quality) => .error message quality rest
    | none => rest
  | none => warnThen reaction.warning (.accept result)

/-- How the literals of a declared type are read. -/
structure LiteralRule where
  /-- Texts that start like this stand for the object named by the rest. -/
  start : Option String
  /-- Words that stand for an object of their name. -/
  words : List String
  deriving Inhabited

/-- Reads a literal of a declared type. -/
def LiteralRule.read? (rule : LiteralRule) (code text : String) : Option Value :=
  let cs := Text.trim text.toList
  match rule.start.bind fun start => Text.after? start.toList cs with
  | some rest => some (.object code (String.ofList rest))
  | none =>
    let word := String.ofList (Text.lower cs)
    if rule.words.contains word then some (.object code word) else none

/-- A declared type. -/
structure TypeDeclaration where
  code : String
  name : String
  supertype : Option String
  literals : Option LiteralRule
  /-- Whether values are written between angle brackets. -/
  bracketed : Bool
  eventDefault : Bool
  deriving Inhabited

/-- The type that a declaration stands for. -/
def TypeDeclaration.info (d : TypeDeclaration) : TypeInfo :=
  let base := TypeInfo.named d.code d.name
  { base with
    supertype := d.supertype.or base.supertype
    reader := d.literals.map fun rule => rule.read? d.code
    writer := if d.bracketed then some fun v => "<" ++ v.toText ++ ">" else none
    eventDefault := d.eventDefault }

/-- The conversions that can be declared. -/
inductive ConversionRule where
  | keyToText
  | textLength
  | textToNumber
  | numberPositive
  /-- No value can be converted. -/
  | nothing
  deriving DecidableEq, Repr, Inhabited

/-- The conversion with a name; names without a meaning convert nothing. -/
def ConversionRule.ofName : String → ConversionRule
  | "key_to_text" => .keyToText
  | "text_length" => .textLength
  | "text_to_number" => .textToNumber
  | "number_positive" => .numberPositive
  | _ => .nothing

def ConversionRule.run : ConversionRule → Value → Option Value
  | .keyToText, v => v.asKey?.map .text
  | .textLength, v => v.asText?.map fun s => .number (.ofNat s.length)
  | .textToNumber, v => v.asText?.bind fun s =>
    if Text.isPlainNumber s.toList then (Decimal.read? s.toList).map .number else none
  | .numberPositive, v => v.asNumber?.bind fun x =>
    if Decimal.same x .zero then none else some (.boolean (Decimal.below .zero x))
  | .nothing, _ => none

/-- The comparisons that can be declared. -/
inductive ComparisonRule where
  /-- By the keys of two objects. -/
  | keys
  /-- By the length of a text in bytes and a number. -/
  | length
  deriving DecidableEq, Repr, Inhabited

def ComparisonRule.run : ComparisonRule → Value → Value → Relation
  | .keys, .object _ a, .object _ b => .ofOrdering (Text.compareStrings a b)
  | .length, .text s, .number x =>
    .ofOrdering (Decimal.totalCompare (.ofNat s.utf8ByteSize) x)
  | _, _, _ => .notEqual

/-- A vocabulary stated as data. -/
structure Declaration where
  /-- Whether the built-in vocabulary is part of it. -/
  builtIns : Bool
  /-- Whether the built-in elements come last. -/
  first : Bool
  types : List TypeDeclaration
  conversions : List (String × String × ConversionRule)
  comparators : List (String × String × ComparisonRule × Bool)
  expressions : List (ExpressionEntry String)
  statements : List (StatementEntry String)
  headers : List (HeaderEntry String)
  deriving Inhabited

/-- A declared expression as a registered one. -/
def expressionEntry (d : DeclaredExpression) (priority : Priority) (patterns : List String)
    (reaction : Reaction) : ExpressionEntry String :=
  { name := d.name, returns := d.returns, priority, patterns
    setup := fun _ c => reaction.run c (.declared d c.use c.parts) }

/-- A declared condition as a registered one. -/
def conditionEntry (d : DeclaredCondition) (patterns : List String) (reaction : Reaction) :
    StatementEntry String :=
  { name := d.name, patterns
    setup := .condition fun _ c => reaction.run c (.declared d c.use c.parts) }

/-- A declared effect as a registered one. -/
def effectEntry (d : DeclaredEffect) (patterns : List String) (reaction : Reaction) :
    StatementEntry String :=
  { name := d.name, patterns
    setup := .effect fun _ c => reaction.run c (.declared d c.use c.parts) }

/-- A declared header as a registered one. -/
def headerEntry (name : String) (kinds : List EventKind) (patterns : List String)
    (reaction : Reaction) : HeaderEntry String :=
  { name, kinds, patterns
    setup := fun _ c => reaction.run c (.listens (declaredListener name c.use c.parts)) }

namespace Declaration

/-- Everything that is declared, registered in order. -/
def registration (d : Declaration) : Except Fault Registration := do
  let r ← if d.builtIns then addTypes .empty else pure .empty
  let r ← d.types.foldlM (fun r t => r.addType t.info) r
  let r := d.conversions.foldl (fun r c => r.addConversion c.1 c.2.1 c.2.2.run) r
  let r := d.comparators.foldl
    (fun r c => r.addComparator ⟨c.1, c.2.1, c.2.2.1.run, c.2.2.2⟩) r
  let r := if d.builtIns && !d.first then addElements r else r
  let r := d.expressions.foldl Registration.addExpression r
  let r := d.statements.foldl Registration.addStatement r
  let r := d.headers.foldl Registration.addHeader r
  pure (if d.builtIns && d.first then addElements r else r)

/-- The registry that a declaration stands for. -/
def registry (d : Declaration) : Except Fault Registry :=
  d.registration.bind Registration.close

end Declaration

end TriggerScript.Vocabulary

import TriggerScript.Parsing.Expression

/-!
# Reading lines and headers

Conditions, effects and headers are taken by the first registered element that accepts the text.

* `parseStatement`, `parseCondition` : a line of a trigger, or one that has to be a condition.
* `parseHeader` : the header of a trigger.
* `LineReader` : how the lines of a trigger are read, and what is asked about them. How lines stand
  inside each other does not depend on it.
* `LineReader.ofRegistry` : lines read by the elements of a registry.
-/

namespace TriggerScript.Parsing

/-- The statement that one registered element reads a text as. -/
def tryStatement (registry : Registry) (scope : Scope) (text : String)
    (entry : StatementEntry Pattern) : Attempt Statement :=
  matchElement (parseExpression registry scope) scope entry.setup.run entry.patterns text

/-- Tries some statements in order; if all fail, the best error or the given message remains. -/
def parseAmong (registry : Registry) (scope : Scope) (entries : List (StatementEntry Pattern))
    (complaint text : String) : Attempt Statement :=
  let text := Text.trimString text
  (Attempt.firstOf (tryStatement registry scope text) entries).framed
    (some (.error scope.location (complaint ++ "'" ++ text ++ "'") .generic))

/-- Reads a condition or an effect. -/
def parseStatement (registry : Registry) (scope : Scope) (text : String) : Attempt Statement :=
  parseAmong registry scope registry.statements "Can't understand this condition/effect: " text

/-- Reads a condition. -/
def parseCondition (registry : Registry) (scope : Scope) (text : String) : Attempt Condition :=
  (parseAmong registry scope (registry.statements.filter (·.setup.isCondition))
    "Can't understand this condition: " text).bind fun s => .ofOption s.condition?

/-- A header, and the kinds of events that it is about. -/
structure ParsedHeader where
  name : String
  kinds : List EventKind
  header : Header
  deriving Inhabited

/-- The header that one registered element reads a text as. Its slots may refer to the events
that it is about. -/
def tryHeader (registry : Registry) (scope : Scope) (text : String)
    (entry : HeaderEntry Pattern) : Attempt ParsedHeader :=
  let scope := { scope with events := entry.kinds }
  (matchElement (parseExpression registry scope) scope entry.setup entry.patterns text).map
    fun header => ⟨entry.name, entry.kinds, header⟩

/-- A header without the word `on` in front. -/
def withoutOn (text : String) : String :=
  let cs := Text.trim text.toList
  match Text.afterWord? ['o', 'n', ' '] cs with
  | some rest => String.ofList (Text.trimStart rest)
  | none => String.ofList cs

/-- Reads the header of a trigger. -/
def parseHeader (registry : Registry) (scope : Scope) (text : String) : Attempt ParsedHeader :=
  let text := withoutOn text
  (Attempt.firstOf (tryHeader registry scope text) registry.headers).framed
    (some (.error scope.location ("Can't understand this event: '" ++ text ++ "'") .generic))

/-! ### Readers of lines -/

/-- How lines are read, and what is asked about them. `C` are conditions, `E` effects and `X` what
a loop runs over. -/
structure LineReader (C E X : Type) where
  /-- A line of its own, which is a condition or an effect. -/
  statement : Scope → String → Attempt (C ⊕ E)
  condition : Scope → String → Attempt C
  /-- What a loop is to run over. -/
  values : Scope → String → Attempt X
  /-- Whether an effect says that it suspends the trigger. -/
  isDelay : E → Bool
  /-- Whether there is at most one value to run over. -/
  isSingle : X → Bool
  /-- The type of the values. -/
  returns : X → String

namespace LineReader

/-- Lines read by the elements of a registry. -/
def ofRegistry (registry : Registry) : LineReader Condition Effect Expression where
  statement scope text := (parseStatement registry scope text).map fun
    | .condition c => .inl c
    | .effect e => .inr e
  condition := parseCondition registry
  values scope text := parseExpression registry scope text (.many [objectType])
  isDelay := Effect.isDelay
  isSingle := Expression.isSingle
  returns := Expression.returns

end LineReader

end TriggerScript.Parsing

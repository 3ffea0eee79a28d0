import TriggerScript.Registry.Setup
import TriggerScript.Syntax.Statement
import TriggerScript.Pattern.Compile

/-!
# Registries

Types and syntax elements are registered once; closing the registration compiles all patterns
and yields a registry that never changes.

* `Priority` : which expressions are tried first.
* `ExpressionEntry`, `StatementEntry`, `HeaderEntry` : registered elements, with their patterns as
  sources or compiled.
* `Registration.close` : the registry, or the first thing wrong with the registration.
-/

namespace TriggerScript

/-- The groups in which expressions are tried; earlier groups win. -/
inductive Priority where
  /-- Fixed texts. -/
  | exact
  /-- Short forms such as variables. -/
  | simple
  /-- Values of the event. -/
  | event
  /-- Properties of other values. -/
  | property
  /-- Patterns in general. -/
  | pattern
  /-- Patterns made of several expressions. -/
  | combined
  /-- Patterns that match nearly everything. -/
  | everything
  deriving DecidableEq, Repr, Inhabited

/-- All groups in order. -/
def Priority.inOrder : List Priority :=
  [.exact, .simple, .event, .property, .pattern, .combined, .everything]

/-- The name of a group in data. -/
def Priority.name : Priority → String
  | .exact => "Exact"
  | .simple => "Simple"
  | .event => "Event"
  | .property => "Property"
  | .pattern => "Pattern"
  | .combined => "Combined"
  | .everything => "Everything"

/-- The group with a name. -/
def Priority.ofName? (s : String) : Option Priority :=
  Priority.inOrder.find? (·.name == s)

/-- A registered expression whose patterns are given as `P`. -/
structure ExpressionEntry (P : Type) where
  name : String
  returns : String
  priority : Priority
  patterns : List P
  setup : Scope → Capture → Setup Expression

/-- A line of a trigger. -/
inductive Statement where
  | condition (c : Condition)
  | effect (e : Effect)
  deriving Inhabited

namespace Statement

def describe (debug : Bool) : Statement → String
  | .condition c => c.describe debug
  | .effect e => e.describe debug

/-- The condition that it is. -/
def condition? : Statement → Option Condition
  | .condition c => some c
  | .effect _ => none

/-- Whether it says that it suspends the trigger. -/
def isDelay : Statement → Bool
  | .condition _ => false
  | .effect e => e.isDelay

end Statement

/-- How a statement is set up: as a condition or as an effect. -/
inductive StatementSetup where
  | condition (setup : Scope → Capture → Setup Condition)
  | effect (setup : Scope → Capture → Setup Effect)

namespace StatementSetup

def isCondition : StatementSetup → Bool
  | .condition _ => true
  | .effect _ => false

/-- The statement that a match is set up as. -/
def run (s : StatementSetup) (scope : Scope) (c : Capture) : Setup Statement :=
  match s with
  | .condition setup => (setup scope c).map .condition
  | .effect setup => (setup scope c).map .effect

end StatementSetup

/-- A registered condition or effect. -/
structure StatementEntry (P : Type) where
  name : String
  patterns : List P
  setup : StatementSetup

/-- A registered header of triggers, with the kinds of events that it listens to. -/
structure HeaderEntry (P : Type) where
  name : String
  kinds : List EventKind
  patterns : List P
  setup : Scope → Capture → Setup Header

/-- What has been registered so far. -/
structure Registration where
  types : TypeTable
  conversions : Conversions
  comparators : Comparators
  expressions : List (ExpressionEntry String)
  statements : List (StatementEntry String)
  headers : List (HeaderEntry String)
  deriving Inhabited

/-- A closed registration. Expressions are ordered by priority, all else by registration. -/
structure Registry where
  system : TypeSystem
  expressions : List (ExpressionEntry Pattern)
  statements : List (StatementEntry Pattern)
  headers : List (HeaderEntry Pattern)
  deriving Inhabited

namespace Registration

def empty : Registration := ⟨.empty, .empty, .empty, [], [], []⟩

def addType (r : Registration) (info : TypeInfo) : Except Fault Registration :=
  (r.types.register info).map fun types => { r with types }

def addConversion (r : Registration) (source target : String) (run : Value → Option Value) :
    Registration :=
  { r with conversions := r.conversions.register source target run }

def addComparator (r : Registration) (c : Comparator) : Registration :=
  { r with comparators := r.comparators.register c }

def addExpression (r : Registration) (e : ExpressionEntry String) : Registration :=
  { r with expressions := r.expressions ++ [e] }

def addStatement (r : Registration) (s : StatementEntry String) : Registration :=
  { r with statements := r.statements ++ [s] }

def addHeader (r : Registration) (h : HeaderEntry String) : Registration :=
  { r with headers := r.headers ++ [h] }

/-- The patterns of an element, compiled. -/
def compileAll (types : TypeTable) (name : String) (sources : List String) :
    Except Fault (List Pattern) :=
  if sources.isEmpty then .error (.registration ("'" ++ name ++ "' has no patterns"))
  else sources.mapM fun source =>
    match Pattern.compile types source with
    | .ok p => .ok p
    | .error fault =>
      .error (.registration ("pattern of '" ++ name ++ "' failed to compile: " ++ fault.message))

def closeExpression (types : TypeTable) (e : ExpressionEntry String) :
    Except Fault (ExpressionEntry Pattern) :=
  if (types.get? e.returns).isNone then
    .error (.registration
      ("expression '" ++ e.name ++ "' returns unknown type '" ++ e.returns ++ "'"))
  else (compileAll types e.name e.patterns).map fun patterns => { e with patterns }

def closeStatement (types : TypeTable) (s : StatementEntry String) :
    Except Fault (StatementEntry Pattern) :=
  (compileAll types s.name s.patterns).map fun patterns => { s with patterns }

def closeHeader (types : TypeTable) (h : HeaderEntry String) :
    Except Fault (HeaderEntry Pattern) :=
  if h.kinds.isEmpty then
    .error (.registration ("event '" ++ h.name ++ "' listens to no event class"))
  else (compileAll types h.name h.patterns).map fun patterns => { h with patterns }

/-- The entries by priority; within one priority they stay in order. -/
def byPriority (entries : List (ExpressionEntry Pattern)) : List (ExpressionEntry Pattern) :=
  Priority.inOrder.flatMap fun p => entries.filter (·.priority == p)

/-- Ends the registration. -/
def close (r : Registration) : Except Fault Registry := do
  let conversions := r.conversions.close r.types
  let expressions ← r.expressions.mapM (closeExpression r.types)
  let statements ← r.statements.mapM (closeStatement r.types)
  let headers ← r.headers.mapM (closeHeader r.types)
  pure {
    system := { types := r.types, conversions, comparators := r.comparators },
    expressions := byPriority expressions, statements, headers }

end Registration

namespace Registry

/-- The expressions of one priority in order of registration. -/
def inGroup (r : Registry) (p : Priority) : List (ExpressionEntry Pattern) :=
  r.expressions.filter (·.priority == p)

/-- The size of the registry in words. -/
def summary (r : Registry) : String :=
  "Registry \x7b types: " ++ toString r.system.types.infos.length ++ ", converters: " ++
    toString r.system.conversions.list.length ++ ", expressions: " ++
    toString r.expressions.length ++ ", statements: " ++ toString r.statements.length ++
    ", events: " ++ toString r.headers.length ++ " \x7d"

end Registry

end TriggerScript

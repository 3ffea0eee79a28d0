import TriggerScript.Parsing.Body
import TriggerScript.Diagnostics.Log

/-!
# Reading line by line

* `State` : what a reader of single lines keeps: the log, and what surrounds the next line.
* `State.attempt` : makes an attempt at the next line and logs what it leaves.
-/

namespace TriggerScript.Parsing

/-- What surrounds the next line. -/
structure State where
  registry : Registry
  log : Log
  events : List EventKind
  delay : Ternary
  /-- The enclosing loops, outermost first. -/
  loops : List LoopInfo
  warnMissingAnd : Bool
  deriving Inhabited

namespace State

/-- The state before the first line. -/
def new (registry : Registry) (warnMissingAnd : Bool) : State :=
  ⟨registry, .empty, [], .no, [], warnMissingAnd⟩

/-- The state before the first line of a trigger. -/
def startTrigger (s : State) (events : List EventKind) : State :=
  { s with events, delay := .no, loops := [] }

/-- What is known at the next line. -/
def scope (s : State) : Scope :=
  { system := s.registry.system, events := s.events, loops := s.loops, delay := s.delay,
    location := s.log.location, warnMissingAnd := s.warnMissingAnd }

/-- Makes an attempt at the next line. -/
def attempt {α : Type} (s : State) (f : Registry → Scope → Attempt α) : Option α × State :=
  let a := f s.registry s.scope
  (a.result, { s with log := s.log.addAll a.entries })

/-- Reads the body of a trigger that starts here. -/
def readBody (s : State) (script : String) (nodes : List Node) :
    Body Condition Effect Expression × State :=
  let body := Parsing.readBody (.ofRegistry s.registry)
    { system := s.registry.system, script, events := s.events, loops := s.loops,
      warnMissingAnd := s.warnMissingAnd } s.delay nodes
  (body, { s with log := s.log.addAll body.entries, delay := body.delay })

end State

end TriggerScript.Parsing

import TriggerScript.Agenda.Basic
import TriggerScript.Fault

/-!
# Routines

Jobs given as data: a routine notes its name and then makes requests to the agenda that runs it.

* `Routine`, `Request` : such a job, and what it can ask for.
* `Request.perform` : what a request does; routines that run on its account may make requests too.
-/

namespace TriggerScript

mutual

/-- A job that notes its name and then makes requests. -/
inductive Routine where
  | mk (tag : String) (requests : List Request)

/-- Something that can be asked of an agenda. -/
inductive Request where
  | once (delay : UInt64) (job : Routine)
  | every (delay period : UInt64) (job : Routine)
  | cancel (id : UInt64)
  | ticks (n : Nat)
  | clear
  /-- Runs a job on the main thread, from the main thread itself. -/
  | onMain (job : Routine)
  /-- Hands a job to the main thread from elsewhere; the main thread takes it over or not. -/
  | handOff (job : Routine) (served : Bool)

end

instance : Inhabited Routine := ⟨.mk "" []⟩
instance : Inhabited Request := ⟨.clear⟩

/-- What a request comes to. -/
inductive Answer where
  | nothing
  | task (id : UInt64)
  | done
  | refused (fault : Fault)
  deriving Repr, Inhabited

/-- An agenda of routines, and the names noted so far in reverse. -/
abbrev Rehearsal := Agenda Routine × List String

/-- How long the main thread has to take over an unserved job, in milliseconds. -/
def handoffPatience : Nat := 10

mutual

/-- Performs a request. Routines that run on its account are nested at most `depth` deep. -/
def Request.perform (depth : Nat) (r : Request) (s : Rehearsal) : Answer × Rehearsal :=
  match r with
  | .once delay job =>
    let (id, a) := s.1.once delay job
    (.task id, (a, s.2))
  | .every delay period job =>
    let (id, a) := s.1.every delay period job
    (.task id, (a, s.2))
  | .cancel id => (.nothing, (s.1.cancel id, s.2))
  | .ticks n => (.nothing, Agenda.ticks (fun job s => runRoutine depth job s) n s)
  | .clear => (.nothing, (s.1.clear, s.2))
  | .onMain job => (.done, runRoutine depth job s)
  | .handOff job served =>
    if served then
      (.done, Agenda.serve (fun job s => runRoutine depth job s) (s.1.handOver job, s.2))
    else (.refused (.handoffTimeout handoffPatience), s)
  termination_by (depth, 1, 0)

/-- Runs a routine. -/
def runRoutine (depth : Nat) (job : Routine) (s : Rehearsal) : Rehearsal :=
  match depth, job with
  | 0, .mk tag _ => (s.1, tag :: s.2)
  | depth + 1, .mk tag requests => performAll depth requests (s.1, tag :: s.2)
  termination_by (depth, 0, 0)

/-- Performs requests in order. -/
def performAll (depth : Nat) (requests : List Request) (s : Rehearsal) : Rehearsal :=
  match requests with
  | [] => s
  | r :: rest => performAll depth rest (r.perform depth s).2
  termination_by (depth, 2, requests.length)

end

/-- How deep routines may be nested. -/
def routineDepth : Nat := 1000

/-- Performs a request from outside. -/
def Request.ask (r : Request) (s : Rehearsal) : Answer × Rehearsal :=
  r.perform routineDepth s

end TriggerScript

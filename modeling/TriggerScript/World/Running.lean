import TriggerScript.World.Basic
import TriggerScript.Vocabulary.BuiltIn

/-!
# Running triggers

* `World.runFrom` : walks through a trigger; a suspended walk goes onto the agenda, a failed one is
  reported, and one that does not end is given up.
* `World.execute` : runs a trigger for an event.
* `World.fire` : runs the triggers that listen to an event and accept it.
* `World.tick` : advances by one tick.
-/

namespace TriggerScript

open TriggerScript.Flow

namespace World

/-- Reports a failed run. -/
def reportFailure (w : World) (t : Trigger) (place : Option ItemId) (fault : Fault) : World :=
  let (item, location) := t.placeText place
  let report := "Error while running '" ++ item ++ "' (" ++ location.text ++ "): " ++ fault.message
  w.onRealm fun r => { r with failures := r.failures + 1, reports := report :: r.reports }

/-- Puts the rest of a suspended run onto the agenda. If nothing is left the run is over. -/
def suspend (w : World) (t : Trigger) (run : Run) (loops : RunningLoops) (resume : Option ItemId)
    (ticks : UInt64) : World :=
  match resume with
  | none => w
  | some item =>
    { w with agenda := (w.agenda.once ticks (.resume t { run with delayed := true } loops item)).2 }

/-- Walks through a trigger from an item on. A failure ends this run only. A walk that takes more
steps than it may is given up and counted; what has been done up to then stays. -/
def runFrom (w : World) (t : Trigger) (run : Run) (loops : RunningLoops)
    (start : Option ItemId) : World :=
  let (outcome, s) :=
    walkWithin t.graph scriptBehaviour w.realm.stepLimit start ⟨loops, none, ⟨run, w⟩⟩
  let w := s.world.world
  match outcome with
  | none => w.giveUp
  | some .finished => w
  | some .stopped => w
  | some (.suspended resume ticks) => w.suspend t s.world.run s.loops resume ticks
  | some (.failed fault) => w.reportFailure t s.place fault

/-- Runs a trigger for an event from its first item. -/
def execute (w : World) (t : Trigger) (e : Occurrence) : World :=
  w.runFrom t (.start e) [] t.graph.entry

/-- Runs a trigger for an event that carries nothing. -/
def executePlain (w : World) (t : Trigger) (kind : EventKind) : World :=
  let (id, w) := w.drawEvent
  w.execute t ⟨id, kind, [], false⟩

/-- Whether a trigger is to run for an event. -/
def wants (w : World) (t : Trigger) (e : Occurrence) : Bool :=
  match t.header with
  | .listens listener => w.isActive t && listener.accepts e
  | _ => false

/-- Runs some triggers for an event, as far as they accept it, and counts those that do. -/
def dispatchTo (e : Occurrence) : List Trigger → Nat × World → Nat × World
  | [], s => s
  | t :: rest, (n, w) =>
    if w.wants t e then dispatchTo e rest (n + 1, w.execute t e) else dispatchTo e rest (n, w)

/-- Runs the triggers that listen to an event and accept it, and counts them. -/
def fire (w : World) (e : Occurrence) : Nat × World :=
  dispatchTo e (w.realm.switchboard.listeners e.kind) (0, w)

/-- An event from a thread other than the main thread. If it has to be handed over and the main
thread does not take it over in time, it is dropped. -/
def fireElsewhere (w : World) (e : Occurrence) (served : Bool) : Except Fault Nat × World :=
  if e.asynchronous && e.kind.needsMain && !served then
    (.error (.handoffTimeout w.realm.options.patience), w)
  else
    let (n, w) := w.fire e
    (.ok n, w)

/-- Does a job of the agenda. Nothing is done for a trigger that is out of use. -/
def perform (w : World) : Job → World
  | .resume t run loops item => if w.isActive t then w.runFrom t run loops (some item) else w
  | .periodic t => if w.isActive t then w.executePlain t Vocabulary.periodic else w
  | .setCancelled e cancelled => (w.setCancelled e cancelled).2

/-- Does a job, with the agenda kept apart from everything else. -/
def performJob (job : Job) (s : Agenda Job × Realm) : Agenda Job × Realm :=
  let w := perform ⟨s.1, s.2⟩ job
  (w.agenda, w.realm)

/-- Advances by one tick. -/
def tick (w : World) : World :=
  let (agenda, realm) := Agenda.tick performJob (w.agenda, w.realm)
  ⟨agenda, realm⟩

/-- Advances by several ticks. -/
def ticks : Nat → World → World
  | 0, w => w
  | n + 1, w => ticks n w.tick

/-- Drops everything on the agenda. -/
def shutdown (w : World) : World := { w with agenda := w.agenda.clear }

/-- Cancels the task of a periodic trigger. -/
def stopTimer (w : World) (id : TriggerId) : World :=
  match w.realm.timers.lookup id with
  | none => w
  | some task =>
    { agenda := w.agenda.cancel task
      realm := { w.realm with timers := w.realm.timers.filter (·.1 != id) } }

/-- Starts the task of a periodic trigger. -/
def startTimer (w : World) (t : Trigger) (period : UInt64) : World :=
  let (task, agenda) := w.agenda.every period period (.periodic t)
  let w := stopTimer { w with agenda } t.id
  w.onRealm fun r => { r with timers := (t.id, task) :: r.timers }

/-- Puts a trigger to use: it listens, runs at once, or runs from time to time. -/
def activate (w : World) (t : Trigger) : World :=
  match t.header with
  | .listens _ => w.onRealm fun r => { r with switchboard := r.switchboard.register t }
  | .onLoad => w.executePlain t Vocabulary.scriptLoad
  | .every period => w.startTimer t period

/-- Takes a trigger out of use. -/
def retire (w : World) (t : Trigger) : World :=
  let w := w.onRealm fun r => { r with retired := t.id :: r.retired }
  match t.header with
  | .listens _ => w.onRealm fun r => { r with switchboard := r.switchboard.unregister t.id }
  | .onLoad => w
  | .every _ => w.stopTimer t.id

end World

end TriggerScript

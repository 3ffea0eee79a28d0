/-!
# The agenda

Jobs that are due at some tick. Each tick first runs what other threads have handed over and then
the jobs that are due, in the order in which they were queued; a repeating job is queued again when
it has run.

* `QueuedJob`, `Agenda` : the queued jobs, and what a tick in progress has to remember.
* `Agenda.once`, `Agenda.every` : queue a job.
* `Agenda.cancel` : takes a job off, also one that the tick in progress has in hand.
* `Agenda.handOver`, `Agenda.serve` : leave a job for the main thread; run all that were left.
* `Agenda.tick` : advances by one tick; running jobs may use the agenda themselves.
-/

namespace TriggerScript

/-- A queued job. A repeating job has a period. -/
structure QueuedJob (J : Type) where
  id : UInt64
  due : UInt64
  period : Option UInt64
  job : J
  deriving Repr, Inhabited

/-- The queued jobs. -/
structure Agenda (J : Type) where
  /-- The number of ticks so far. -/
  now : UInt64
  /-- The number of the next task. -/
  nextId : UInt64
  tasks : List (QueuedJob J)
  /-- The tasks that the tick in progress has taken out of the queue. -/
  inHand : List UInt64
  /-- Those of them that have been cancelled since. -/
  cancelled : List UInt64
  /-- The jobs that other threads have left for the main thread. -/
  handedOver : List J
  deriving Repr, Inhabited

/-- The sum, or the largest number if it does not fit. -/
def saturatingAdd (a b : UInt64) : UInt64 :=
  if a ≤ a + b then a + b else .ofNat (UInt64.size - 1)

namespace Agenda

variable {J σ : Type}

/-- An agenda before the first tick. -/
def empty : Agenda J := ⟨0, 1, [], [], [], []⟩

/-- Queues a job some ticks from now and returns its number. -/
def push (a : Agenda J) (delay : UInt64) (period : Option UInt64) (job : J) : UInt64 × Agenda J :=
  (a.nextId, { a with
    nextId := a.nextId + 1
    tasks := a.tasks ++ [⟨a.nextId, saturatingAdd a.now delay, period, job⟩] })

/-- Queues a job to run once, at the next tick at the earliest. -/
def once (a : Agenda J) (delay : UInt64) (job : J) : UInt64 × Agenda J :=
  a.push (max delay 1) none job

/-- Queues a job to run after a delay and then again and again. -/
def every (a : Agenda J) (delay period : UInt64) (job : J) : UInt64 × Agenda J :=
  a.push (max delay 1) (some (max period 1)) job

/-- Takes a task off the agenda. One that is in the hands of the tick in progress is marked, so
that it does not start, or does not start again. Other numbers change nothing. -/
def cancel (a : Agenda J) (id : UInt64) : Agenda J :=
  let tasks := a.tasks.filter (·.id != id)
  if tasks.length == a.tasks.length && a.inHand.contains id then
    { a with tasks, cancelled := id :: a.cancelled }
  else { a with tasks }

/-- The number of queued tasks. -/
def pending (a : Agenda J) : Nat := a.tasks.length

/-- Leaves a job for the main thread. -/
def handOver (a : Agenda J) (job : J) : Agenda J :=
  { a with handedOver := a.handedOver ++ [job] }

/-- Drops every queued task and every job that was handed over. -/
def clear (a : Agenda J) : Agenda J := { a with tasks := [], handedOver := [] }

/-- Forgets the mark of a cancelled task. -/
def forget (a : Agenda J) (id : UInt64) : Agenda J :=
  { a with cancelled := a.cancelled.filter (· != id) }

/-- Queues a repeating task again after it has run in the tick `now`, unless it was cancelled. -/
def requeue (a : Agenda J) (now : UInt64) (task : QueuedJob J) : Agenda J :=
  match task.period with
  | none => a
  | some period =>
    if a.cancelled.contains task.id then a.forget task.id
    else { a with tasks := a.tasks ++ [{ task with due := now + period }] }

/-- Runs a task that is due in the tick `now`, unless it was cancelled before its turn. -/
def runTask (run : J → Agenda J × σ → Agenda J × σ) (now : UInt64) (task : QueuedJob J)
    (s : Agenda J × σ) : Agenda J × σ :=
  if s.1.cancelled.contains task.id then (s.1.forget task.id, s.2)
  else
    let (a, rest) := run task.job s
    (a.requeue now task, rest)

/-- Starts the next tick and takes the tasks that are due out of the queue. -/
def beginTick (a : Agenda J) : List (QueuedJob J) × Agenda J :=
  let now := a.now + 1
  let (due, later) := a.tasks.partition fun task => task.due ≤ now
  (due, { a with now, tasks := later, inHand := a.inHand ++ due.map (·.id) })

/-- Runs the jobs that were handed over. What is handed over meanwhile waits. -/
def serve (run : J → Agenda J × σ → Agenda J × σ) (s : Agenda J × σ) : Agenda J × σ :=
  s.1.handedOver.foldl (fun s job => run job s) ({ s.1 with handedOver := [] }, s.2)

/-- Ends a tick. -/
def endTick (a : Agenda J) : Agenda J :=
  { a with inHand := [], cancelled := [] }

/-- Advances by one tick. `run` does a job; it may change the agenda and other things. What was
handed over runs before the new tick counts. -/
def tick (run : J → Agenda J × σ → Agenda J × σ) (s : Agenda J × σ) : Agenda J × σ :=
  let s := serve run s
  let (due, a) := s.1.beginTick
  let now := a.now
  let s := due.foldl (fun s task => runTask run now task s) (a, s.2)
  (s.1.endTick, s.2)

/-- Advances by several ticks. -/
def ticks (run : J → Agenda J × σ → Agenda J × σ) : Nat → Agenda J × σ → Agenda J × σ
  | 0, s => s
  | n + 1, s => ticks run n (tick run s)

/-- The state of the agenda in words. -/
def summary (a : Agenda J) : String :=
  "TickScheduler \x7b current_tick: " ++ toString a.now.toNat ++ ", pending: " ++
    toString a.pending ++ " \x7d"

end Agenda

end TriggerScript

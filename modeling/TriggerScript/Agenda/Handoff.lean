/-!
# Handing jobs to the main thread

Other threads leave jobs for the main thread and wait for the results. Caller and main thread
agree by a claim on each job: whoever sets it first decides whether the job runs.

* `Ticket`, `Exchange` : a job that was left, and all of them with the main thread's queue.
* `Exchange.Step` : what a caller or the main thread can do next.
-/

namespace TriggerScript.Handoff

/-- How far a caller has come. -/
inductive CallerPhase (R : Type) where
  /-- Waits for the result. -/
  | waiting
  /-- Has stopped waiting without a result and is about to claim the job. -/
  | impatient
  /-- Found the job claimed, so it waits on without limit. -/
  | insisting
  | received (result : R)
  | timedOut
  deriving DecidableEq, Repr

/-- A job that was left for the main thread. -/
structure Ticket (R : Type) where
  caller : CallerPhase R
  /-- Whether the main thread or the caller has claimed the job. -/
  claimed : Bool
  /-- The results of the times that the job has run. -/
  runs : List R
  /-- The result on its way to the caller. -/
  message : Option R
  /-- Whether the main thread may still send a result. -/
  live : Bool
  deriving DecidableEq, Repr

namespace Ticket

variable {R : Type}

/-- A job that has just been left. -/
def fresh : Ticket R := ⟨.waiting, false, [], none, true⟩

/-- A job of the main thread itself, which runs it at once and has the result. -/
def direct (result : R) : Ticket R := ⟨.received result, true, [result], none, false⟩

/-- No result will be sent any more. -/
def close (t : Ticket R) : Ticket R := { t with live := false }

end Ticket

/-- What the main thread is doing with a job that it has taken out of the queue. -/
inductive MainPhase (R : Type) where
  | idle
  /-- Has claimed the job and runs it. -/
  | running (ticket : Nat)
  /-- Has run the job and is about to send the result. -/
  | sending (ticket : Nat) (result : R)
  deriving DecidableEq, Repr

/-- All jobs that were ever left, the queue, and the jobs that the main thread has taken. -/
structure Exchange (R : Type) where
  tickets : List (Ticket R)
  queue : List Nat
  taken : List Nat
  main : MainPhase R
  deriving DecidableEq, Repr

namespace Exchange

variable {R : Type}

/-- Nothing has been left yet. -/
def empty : Exchange R := ⟨[], [], [], .idle⟩

/-- Changes one ticket. -/
def update (x : Exchange R) (i : Nat) (f : Ticket R → Ticket R) : Exchange R :=
  { x with tickets := x.tickets.modify i f }

/-- Drops the jobs in the queue; no result of them will be sent. -/
def dropQueue (x : Exchange R) : Exchange R :=
  { x with
    tickets := x.tickets.mapIdx fun i t => if i ∈ x.queue then t.close else t
    queue := [] }

/-- One step of a caller or of the main thread. What a job gives when it runs is left open. -/
inductive Step : Exchange R → Exchange R → Prop where
  /-- A caller leaves a job. -/
  | leave (x : Exchange R) :
      Step x { x with tickets := x.tickets ++ [.fresh], queue := x.queue ++ [x.tickets.length] }
  /-- A caller that is on the main thread runs its job itself. -/
  | direct (x : Exchange R) (r : R) : Step x { x with tickets := x.tickets ++ [.direct r] }
  /-- The main thread takes the whole queue. -/
  | take (x : Exchange R) (idle : x.main = .idle) (done : x.taken = []) :
      Step x { x with queue := [], taken := x.queue }
  /-- The main thread claims the next job that it took. -/
  | claim (x : Exchange R) (i : Nat) (rest : List Nat) (t : Ticket R) (idle : x.main = .idle)
      (next : x.taken = i :: rest) (found : x.tickets[i]? = some t) (free : t.claimed = false) :
      Step x { x.update i fun t => { t with claimed := true } with
        taken := rest, main := .running i }
  /-- The main thread passes over a job that its caller has given up. -/
  | pass (x : Exchange R) (i : Nat) (rest : List Nat) (t : Ticket R) (idle : x.main = .idle)
      (next : x.taken = i :: rest) (found : x.tickets[i]? = some t) (given : t.claimed = true) :
      Step x { x.update i Ticket.close with taken := rest }
  /-- The main thread runs the job that it claimed. -/
  | run (x : Exchange R) (i : Nat) (r : R) (busy : x.main = .running i) :
      Step x { x.update i fun t => { t with runs := t.runs ++ [r] } with main := .sending i r }
  /-- The main thread sends the result. -/
  | send (x : Exchange R) (i : Nat) (r : R) (busy : x.main = .sending i r) :
      Step x { x.update i fun t => { t with message := some r, live := false } with main := .idle }
  /-- A caller receives the result. -/
  | receive (x : Exchange R) (i : Nat) (t : Ticket R) (r : R) (found : x.tickets[i]? = some t)
      (waits : t.caller = .waiting ∨ t.caller = .insisting) (sent : t.message = some r) :
      Step x (x.update i fun t => { t with caller := .received r, message := none })
  /-- A caller's patience runs out, at any time, or it learns that no result will be sent. -/
  | expire (x : Exchange R) (i : Nat) (t : Ticket R) (found : x.tickets[i]? = some t)
      (waits : t.caller = .waiting) : Step x (x.update i fun t => { t with caller := .impatient })
  /-- A caller claims its own job, which then does not run. -/
  | giveUp (x : Exchange R) (i : Nat) (t : Ticket R) (found : x.tickets[i]? = some t)
      (tired : t.caller = .impatient) (free : t.claimed = false) :
      Step x (x.update i fun t => { t with caller := .timedOut, claimed := true })
  /-- A caller finds that the main thread has claimed the job, and waits on. -/
  | insist (x : Exchange R) (i : Nat) (t : Ticket R) (found : x.tickets[i]? = some t)
      (tired : t.caller = .impatient) (given : t.claimed = true) :
      Step x (x.update i fun t => { t with caller := .insisting })
  /-- A caller that waits without limit learns that no result will be sent. -/
  | despair (x : Exchange R) (i : Nat) (t : Ticket R) (found : x.tickets[i]? = some t)
      (waits : t.caller = .insisting) (unsent : t.message = none) (shut : t.live = false) :
      Step x (x.update i fun t => { t with caller := .timedOut })
  /-- The queue is cleared. -/
  | clear (x : Exchange R) : Step x x.dropQueue

end Exchange

end TriggerScript.Handoff

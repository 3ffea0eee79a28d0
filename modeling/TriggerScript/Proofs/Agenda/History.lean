import TriggerScript.Agenda.Basic
import Mathlib.Data.List.Dedup

/-!
# The history of an agenda

What happens on an agenda while calls are made and ticks pass, one thing after the other. The
states in between are those of the agenda itself.

* `Call`, `Worker`, `Command` : what jobs can do to an agenda, and what can be done to it from
  outside.
* `Happening`, `history` : what has happened, in order.
* `ticksIn`, `bookedIds`, `queuedIds`, `startedIds` : readings of a history.
* `Account`, `account` : what a history says about one task.
* `InRange` : no number of a tick is too large for 64 bits.
-/

namespace TriggerScript.Agenda

variable {J σ : Type}

/-! ### Calls and commands -/

/-- A call that can be made at any time, also by a job. -/
inductive Call (J : Type) where
  | once (delay : UInt64) (job : J)
  | every (delay period : UInt64) (job : J)
  | cancel (id : UInt64)

/-- What a call does to the agenda. -/
def Call.perform (c : Call J) (a : Agenda J) : Agenda J :=
  match c with
  | .once delay job => (a.once delay job).2
  | .every delay period job => (a.every delay period job).2
  | .cancel id => a.cancel id

/-- Makes calls in order. -/
def callAll (calls : List (Call J)) (a : Agenda J) : Agenda J :=
  calls.foldl (fun a c => c.perform a) a

/-- Somebody who does jobs. A job can change other things in any way, but the agenda only by
calls. -/
structure Worker (J σ : Type) where
  run : J → Agenda J × σ → Agenda J × σ
  calls : J → Agenda J × σ → List (Call J)
  run_fst : ∀ job s, (run job s).1 = callAll (calls job s) s.1

/-- What can be done to an agenda from outside. -/
inductive Command (J : Type) where
  | call (c : Call J)
  /-- Another thread leaves a job for the main thread. -/
  | handOver (job : J)
  | tick

/-- What a command does. -/
def Command.perform (w : Worker J σ) (c : Command J) (s : Agenda J × σ) : Agenda J × σ :=
  match c with
  | .call c => (c.perform s.1, s.2)
  | .handOver job => (s.1.handOver job, s.2)
  | .tick => Agenda.tick w.run s

/-- Performs commands in order. -/
def performAll (w : Worker J σ) (commands : List (Command J)) (s : Agenda J × σ) :
    Agenda J × σ :=
  commands.foldl (fun s c => c.perform w s) s

/-! ### What happens -/

/-- Something that happens on an agenda. -/
inductive Happening (J : Type) where
  /-- A call has put a task onto the agenda. -/
  | booked (id delay : UInt64) (period : Option UInt64) (job : J)
  | cancelled (id : UInt64)
  /-- A tick begins. -/
  | begun
  /-- It is the turn of a task, and its job starts. -/
  | started (id : UInt64) (job : J)
  /-- It is the turn of a task, but it has been cancelled. -/
  | passed (id : UInt64)
  /-- A task is queued again, to be due after a period. -/
  | requeued (id period : UInt64)
  deriving DecidableEq, Repr

/-- What a call comes to. -/
def Call.happening (a : Agenda J) : Call J → Happening J
  | .once delay job => .booked a.nextId delay none job
  | .every delay period job => .booked a.nextId delay (some period) job
  | .cancel id => .cancelled id

/-- What happens when calls are made. -/
def callHistory : List (Call J) → Agenda J → List (Happening J)
  | [], _ => []
  | c :: rest, a => c.happening a :: callHistory rest (c.perform a)

/-- What happens when jobs are run that were handed over. -/
def serveHistory (w : Worker J σ) : List J → Agenda J × σ → List (Happening J)
  | [], _ => []
  | job :: rest, s => callHistory (w.calls job s) s.1 ++ serveHistory w rest (w.run job s)

/-- What happens when a task that has run is to be queued again. -/
def requeueHistory (a : Agenda J) (task : QueuedJob J) : List (Happening J) :=
  match task.period with
  | none => []
  | some period => if a.cancelled.contains task.id then [] else [.requeued task.id period]

/-- What happens when it is the turn of a task. -/
def turnHistory (w : Worker J σ) (task : QueuedJob J) (s : Agenda J × σ) : List (Happening J) :=
  if s.1.cancelled.contains task.id then [.passed task.id]
  else .started task.id task.job ::
    (callHistory (w.calls task.job s) s.1 ++ requeueHistory (w.run task.job s).1 task)

/-- What happens when tasks have their turns in the tick `now`. -/
def turnsHistory (w : Worker J σ) (now : UInt64) :
    List (QueuedJob J) → Agenda J × σ → List (Happening J)
  | [], _ => []
  | task :: rest, s => turnHistory w task s ++ turnsHistory w now rest (runTask w.run now task s)

/-- What happens in a tick. -/
def tickHistory (w : Worker J σ) (s : Agenda J × σ) : List (Happening J) :=
  let served := serve w.run s
  let (due, a) := served.1.beginTick
  serveHistory w s.1.handedOver ({ s.1 with handedOver := [] }, s.2) ++
    .begun :: turnsHistory w a.now due (a, served.2)

/-- What happens when a command is performed. -/
def Command.history (w : Worker J σ) (s : Agenda J × σ) : Command J → List (Happening J)
  | .call c => [c.happening s.1]
  | .handOver _ => []
  | .tick => tickHistory w s

/-- What happens when commands are performed. -/
def history (w : Worker J σ) : List (Command J) → Agenda J × σ → List (Happening J)
  | [], _ => []
  | c :: rest, s => c.history w s ++ history w rest (c.perform w s)

/-! ### Readings -/

/-- Whether a tick begins. -/
def Happening.isBegun : Happening J → Bool
  | .begun => true
  | _ => false

/-- How many ticks have begun. -/
def ticksIn (h : List (Happening J)) : Nat := h.countP Happening.isBegun

/-- The task that was booked, if this is what has happened. -/
def Happening.bookedId? : Happening J → Option UInt64
  | .booked id _ _ _ => some id
  | _ => none

/-- The task that was queued, by a call or again after it had run. -/
def Happening.queuedId? : Happening J → Option UInt64
  | .booked id _ _ _ => some id
  | .requeued id _ => some id
  | _ => none

/-- The task that started. -/
def Happening.startedId? : Happening J → Option UInt64
  | .started id _ => some id
  | _ => none

/-- The tasks that were booked, in order. -/
def bookedIds (h : List (Happening J)) : List UInt64 := h.filterMap Happening.bookedId?

/-- The tasks that were queued, in order. -/
def queuedIds (h : List (Happening J)) : List UInt64 := h.filterMap Happening.queuedId?

/-- The tasks that started, in order. -/
def startedIds (h : List (Happening J)) : List UInt64 := h.filterMap Happening.startedId?

/-- A task as it was booked: in which tick, with which delay and period, and for which job. -/
structure Booking (J : Type) where
  tick : Nat
  delay : UInt64
  period : Option UInt64
  job : J
  deriving DecidableEq, Repr

namespace Booking

/-- The first tick in which the task is due. -/
def first (b : Booking J) : Nat := b.tick + (max b.delay 1).toNat

/-- How many ticks lie between two turns of a repeating task. -/
def stride (b : Booking J) : Nat := b.period.elim 0 fun period => (max period 1).toNat

/-- The ticks in which the task is due: the first, and for a repeating task every further one. -/
def IsDue (b : Booking J) (tick : Nat) : Prop :=
  ∃ k, (b.period = none → k = 0) ∧ tick = b.first + k * b.stride

end Booking

/-- What a history says about a task. -/
structure Account (J : Type) where
  /-- How many ticks have begun. -/
  now : Nat
  booking : Option (Booking J)
  /-- The tick in which the task was cancelled. -/
  cancelled : Option Nat
  /-- The ticks in which its job started. -/
  starts : List Nat
  /-- The ticks in which its turn came but it had been cancelled. -/
  passes : List Nat
  deriving DecidableEq, Repr

namespace Account

/-- Before anything has happened. -/
def empty : Account J := ⟨0, none, none, [], []⟩

/-- Takes note of what happens. Of several cancellations the first counts, and none counts before
the task is booked. -/
def note (id : UInt64) (acc : Account J) : Happening J → Account J
  | .booked i delay period job =>
    if i = id then ⟨acc.now, some ⟨acc.now, delay, period, job⟩, none, [], []⟩ else acc
  | .cancelled i =>
    if i = id ∧ acc.booking.isSome then { acc with cancelled := acc.cancelled.or (some acc.now) }
    else acc
  | .begun => { acc with now := acc.now + 1 }
  | .started i _ => if i = id then { acc with starts := acc.starts ++ [acc.now] } else acc
  | .passed i => if i = id then { acc with passes := acc.passes ++ [acc.now] } else acc
  | .requeued _ _ => acc

/-- The ticks in which it was the turn of the task. -/
def turns (acc : Account J) : List Nat := acc.starts ++ acc.passes

end Account

/-- What a history says about the task with a number. -/
def account (id : UInt64) (h : List (Happening J)) : Account J :=
  h.foldl (Account.note id) .empty

/-- A task can be booked for a tick if its number fits in 64 bits, or if no tick gets as far as the
number that stands for all larger ones; `last` is the last tick. -/
def Bookable (last tick : Nat) : Prop :=
  tick < UInt64.size ∨ last + 1 < UInt64.size

instance (last tick : Nat) : Decidable (Bookable last tick) :=
  inferInstanceAs (Decidable (_ ∨ _))

/-- No number of a tick is too large: of those that begin, up to the tick `last`, and of those that
tasks are queued for. Before, `n` ticks have begun. -/
def InRange (last n : Nat) : List (Happening J) → Prop
  | [] => True
  | .booked _ delay _ _ :: rest => Bookable last (n + (max delay 1).toNat) ∧ InRange last n rest
  | .requeued _ period :: rest => n + period.toNat < UInt64.size ∧ InRange last n rest
  | .begun :: rest => n + 1 ≤ last ∧ n + 1 < UInt64.size ∧ InRange last (n + 1) rest
  | .cancelled _ :: rest => InRange last n rest
  | .started _ _ :: rest => InRange last n rest
  | .passed _ :: rest => InRange last n rest

/-- Whether all numbers of ticks are in range can be decided. -/
instance InRange.decidable (last : Nat) : (n : Nat) → (h : List (Happening J)) →
    Decidable (InRange last n h)
  | _, [] => .isTrue trivial
  | n, .booked _ _ _ _ :: rest => @instDecidableAnd _ _ _ (decidable last n rest)
  | n, .requeued _ _ :: rest => @instDecidableAnd _ _ _ (decidable last n rest)
  | n, .begun :: rest =>
    @instDecidableAnd _ _ _ (@instDecidableAnd _ _ _ (decidable last (n + 1) rest))
  | n, .cancelled _ :: rest => decidable last n rest
  | n, .started _ _ :: rest => decidable last n rest
  | n, .passed _ :: rest => decidable last n rest

end TriggerScript.Agenda

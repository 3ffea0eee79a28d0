import TriggerScript.Proofs.World.Failures

/-!
# What runs

Everything that a call of the engine runs, in order: the walks through triggers, each with what it
finds, and the jobs of the agenda that have their turns.

* `Flow.visited` : the items that a walk comes to.
* `Walk` : a walk as it begins; `Walk.items`, `Walk.bookings` : what it executes and books.
* `Walk.ends` : it ends and is not given up.
* `World.dispatchWalks`, `World.jobWalks`, `World.activationWalks` : the walks that are begun.
* `World.tickTurns` : the jobs of a tick.
* `World.dispatchTo_eq_replay`, `World.perform_eq_replay` : nothing else runs.
* `Walk.Counts` : what is counted for each walk, is counted for an event and for a tick.
* `Walk.counts_unended` : the walks that are given up are counted.
* `World.not_retired_of_mem_tickWalks` : no walk goes through a trigger out of use.
-/

namespace TriggerScript

open TriggerScript.Flow

/-- The items that a walk comes to, if it makes at most so many steps. -/
def Flow.visited {C E X V S W : Type} (g : Graph C E X) (b : Behaviour C E X V S W) :
    Nat → Option ItemId → WalkState V S W → List ItemId
  | _, none, _ => []
  | 0, some _, _ => []
  | n + 1, some id, s =>
    match step g b s id with
    | (.go next, s) => id :: visited g b n next s
    | (.halt _, _) => [id]

/-! ### Walks through triggers -/

/-- A walk through a trigger, as it begins. -/
structure Walk where
  world : World
  trigger : Trigger
  run : Run
  loops : RunningLoops
  start : Option ItemId

namespace Walk

/-- What comes of it. -/
def after (x : Walk) : World := x.world.runFrom x.trigger x.run x.loops x.start

/-- The items that it executes. -/
def items (x : Walk) : List ItemId :=
  visited x.trigger.graph scriptBehaviour x.world.realm.stepLimit x.start
    ⟨x.loops, none, ⟨x.run, x.world⟩⟩

/-- Whether it ends within the steps that it may take. -/
def ends (x : Walk) : Bool :=
  (walkWithin x.trigger.graph scriptBehaviour x.world.realm.stepLimit x.start
    ⟨x.loops, none, ⟨x.run, x.world⟩⟩).1.isSome

/-- How many tasks it puts onto the agenda. -/
def bookings (x : Walk) : Nat := x.after.agenda.tasks.length - x.world.agenda.tasks.length

/-- Something that is counted, over some walks. -/
def total (f : Walk → Nat) : List Walk → Nat
  | [] => 0
  | x :: rest => f x + total f rest

theorem total_append (f : Walk → Nat) (walks more : List Walk) :
    total f (walks ++ more) = total f walks + total f more := by
  induction walks with
  | nil => exact (Nat.zero_add _).symm
  | cons x rest ih => rw [List.cons_append, total, ih, total, Nat.add_assoc]

theorem total_singleton (f : Walk → Nat) (x : Walk) : total f [x] = f x := rfl

/-- How many tasks some walks put onto the agenda. -/
def booked (walks : List Walk) : Nat := total bookings walks

/-- The first walk for an event. -/
def ofEvent (w : World) (t : Trigger) (e : Occurrence) : Walk :=
  ⟨w, t, .start e, [], t.graph.entry⟩

/-- The first walk for an event that carries nothing. -/
def ofKind (w : World) (t : Trigger) (kind : EventKind) : Walk :=
  .ofEvent w.drawEvent.2 t ⟨w.drawEvent.1, kind, [], false⟩

end Walk

namespace World

/-- The walks for an event, among some triggers. -/
def dispatchWalks (e : Occurrence) : List Trigger → World → List Walk
  | [], _ => []
  | t :: rest, w =>
    if w.wants t e then .ofEvent w t e :: dispatchWalks e rest (w.execute t e)
    else dispatchWalks e rest w

/-- The walks for an event. -/
def fireWalks (w : World) (e : Occurrence) : List Walk :=
  dispatchWalks e (w.realm.switchboard.listeners e.kind) w

/-- The walk that a job of the agenda makes. -/
def jobWalks (w : World) : Job → List Walk
  | .resume t run loops item => if w.isActive t then [⟨w, t, run, loops, some item⟩] else []
  | .periodic t => if w.isActive t then [.ofKind w t Vocabulary.periodic] else []
  | .setCancelled .. => []

/-- The jobs that have their turns in a tick, each with what it finds. -/
def tickTurns (w : World) : List (Job × World) :=
  (Agenda.performances performJob (w.agenda, w.realm)).map fun note =>
    (note.1, ⟨note.2.1, note.2.2⟩)

/-- The walks of a tick. -/
def tickWalks (w : World) : List Walk := w.tickTurns.flatMap fun turn => turn.2.jobWalks turn.1

/-- The walk that a trigger makes when it is put to use. -/
def activationWalk (w : World) (t : Trigger) : List Walk :=
  match t.header with
  | .onLoad => [.ofKind w t Vocabulary.scriptLoad]
  | _ => []

/-- The walks of triggers that are put to use one after the other. -/
def activationWalks : List Trigger → World → List Walk
  | [], _ => []
  | t :: rest, w => w.activationWalk t ++ activationWalks rest (w.activate t)

end World

/-- The trigger that a job goes on with or runs. -/
def Job.trigger? : Job → Option Trigger
  | .resume t .. => some t
  | .periodic t => some t
  | .setCancelled .. => none

/-! ### Nothing else runs -/

/-- The world after some walks, each beginning where the one before has ended. -/
def Walk.replay (w : World) (walks : List Walk) : World :=
  (walks.getLast?.map Walk.after).getD w

namespace World

/-- **The walks for an event are all that runs for it,** and their number is returned. -/
theorem dispatchTo_eq_replay (e : Occurrence) (ts : List Trigger) (n : Nat) (w : World) :
    dispatchTo e ts (n, w) =
      (n + (dispatchWalks e ts w).length, Walk.replay w (dispatchWalks e ts w)) := by
  induction ts generalizing n w with
  | nil => rfl
  | cons t ts ih =>
    simp only [dispatchTo, dispatchWalks]
    split
    · rw [ih, Walk.replay, Walk.replay, List.getLast?_cons]
      cases (dispatchWalks e ts (w.execute t e)).getLast? with
      | none => simp [Nat.add_assoc, Nat.add_comm 1]; rfl
      | some last => simp [Nat.add_assoc, Nat.add_comm 1]
    · exact ih n w

/-- The walk of a job is all that it does. -/
theorem perform_eq_replay {w : World} {job : Job} (h : job.trigger?.isSome) :
    w.perform job = Walk.replay w (w.jobWalks job) := by
  cases job with
  | resume t run loops item =>
    simp only [perform, jobWalks]
    split <;> rfl
  | periodic t =>
    simp only [perform, jobWalks]
    split <;> rfl
  | setCancelled e cancelled => cases h

/-- Of triggers in use, those that accept an event are walked through for it, each once. -/
theorem map_trigger_dispatchWalks {e : Occurrence} {ts : List Trigger} {w : World}
    (hactive : ∀ t ∈ ts, w.isActive t) :
    (dispatchWalks e ts w).map (·.trigger) = ts.filter (·.accepts e) := by
  induction ts generalizing w with
  | nil => rfl
  | cons t ts ih =>
    obtain ⟨ht, hts⟩ := List.forall_mem_cons.1 hactive
    simp only [dispatchWalks, wants_of_active ht, List.filter_cons]
    split
    · have hlater : ∀ t' ∈ ts, (w.execute t e).isActive t' := fun t' ht' => by
        rw [isActive, (w.evolves_execute t e).retired]
        exact hts t' ht'
      exact congrArg (t :: ·) (ih hlater)
    · exact ih hts

end World

/-! ### What walks are counted for -/

namespace Walk

/-- A count that stands at some number in a world. Each walk adds what `f` says, and nothing else in a
tick adds anything. -/
structure Counts (f : Walk → Nat) (count : World → Nat → Prop) : Prop where
  after : ∀ x n, count x.world n → count x.after (n + f x)
  drawEvent : ∀ w n, count w n → count w.drawEvent.2 n
  setCancelled : ∀ w n e cancelled, count w n → count (w.setCancelled e cancelled).2 n
  agenda : ∀ (a b : Agenda Job) realm n, b.nextId = a.nextId → count ⟨a, realm⟩ n →
    count ⟨b, realm⟩ n

variable {f : Walk → Nat} {count : World → Nat → Prop} {w : World} {n : Nat}

/-- The first walk for an event that carries nothing. -/
theorem Counts.ofKind (hcounts : Counts f count) (h : count w n) (t : Trigger) (kind : EventKind) :
    count (w.executePlain t kind) (n + total f [.ofKind w t kind]) := by
  rw [total_singleton]
  exact hcounts.after (.ofKind w t kind) n (hcounts.drawEvent w n h)

/-- The walks for an event. -/
theorem Counts.dispatch (hcounts : Counts f count) {e : Occurrence} {ts : List Trigger}
    (h : count w n) (ran : Nat) :
    count (World.dispatchTo e ts (ran, w)).2 (n + total f (World.dispatchWalks e ts w)) := by
  induction ts generalizing w n ran with
  | nil => exact h
  | cons t ts ih =>
    simp only [World.dispatchTo, World.dispatchWalks]
    split
    · rw [total, ← Nat.add_assoc]
      exact ih (hcounts.after (.ofEvent w t e) n h) _
    · exact ih h _

/-- The walk of a job. -/
theorem Counts.perform (hcounts : Counts f count) (h : count w n) (job : Job) :
    count (w.perform job) (n + total f (w.jobWalks job)) := by
  cases job with
  | resume t run loops item =>
    simp only [World.perform, World.jobWalks]
    split
    · rw [total_singleton]
      exact hcounts.after ⟨w, t, run, loops, some item⟩ n h
    · exact h
  | periodic t =>
    simp only [World.perform, World.jobWalks]
    split
    · exact hcounts.ofKind h t Vocabulary.periodic
    · exact h
  | setCancelled e cancelled => exact hcounts.setCancelled w n e cancelled h

/-- **What is counted for walks is counted for a tick.** -/
theorem Counts.tick (hcounts : Counts f count) (h : count w n) :
    count w.tick (n + total f w.tickWalks) := by
  let walksOf (notes : List (Job × Agenda Job × Realm)) : List Walk :=
    notes.flatMap fun note => World.jobWalks ⟨note.2.1, note.2.2⟩ note.1
  have hnoting := Agenda.tick_induction (Agenda.noting World.performJob)
    (P := fun s => count ⟨s.1, s.2.1⟩ (n + total f (walksOf s.2.2)))
    (fun a b s hnext h => hcounts.agenda a b s.1 _ hnext h)
    (fun job s h => ?_) (s := (w.agenda, (w.realm, []))) h
  · have htick : w.tick = ⟨(Agenda.tick (Agenda.noting World.performJob) (w.agenda, (w.realm, []))).1,
        (Agenda.tick (Agenda.noting World.performJob) (w.agenda, (w.realm, []))).2.1⟩ := by
      rw [World.tick, ← Agenda.tick_noting World.performJob (w.agenda, w.realm) []]
      rfl
    have hwalks : w.tickWalks = walksOf (Agenda.performances World.performJob (w.agenda, w.realm)) :=
      List.flatMap_map ..
    rw [htick, hwalks]
    exact hnoting
  · have hperform := hcounts.perform h job
    rw [Nat.add_assoc, ← total_append] at hperform
    have happend : walksOf (s.2.2 ++ [(job, s.1, s.2.1)]) =
        walksOf s.2.2 ++ World.jobWalks ⟨s.1, s.2.1⟩ job := by simp [walksOf]
    exact happend ▸ hperform

/-! ### Walks that are given up -/

/-- A walk that is given up counts, and one that ends does not. -/
def givenUp (x : Walk) : Nat := if x.ends then 0 else 1

theorem total_givenUp_eq_zero_iff {walks : List Walk} :
    total givenUp walks = 0 ↔ ∀ x ∈ walks, x.ends := by
  induction walks with
  | nil => simp [total]
  | cons x rest ih => simp [total, ih, givenUp]

theorem unended_after (x : Walk) :
    x.after.realm.unended = x.world.realm.unended + x.givenUp := by
  rw [after, World.runFrom_eq_attempt]
  exact congrArg Prod.snd (World.record_attempt ..)

/-- **The walks that are given up are counted,** and nothing else is. -/
theorem counts_unended : Counts givenUp fun w n => w.realm.unended = n where
  after x _ h := x.unended_after.trans (congrArg (· + x.givenUp) h)
  drawEvent _ _ h := h
  setCancelled w n e cancelled h := by
    unfold World.setCancelled
    split <;> exact h
  agenda _ _ _ _ _ h := h

end Walk

/-! ### Triggers out of use -/

namespace World

variable {w : World} {x : Walk} {t : Trigger}

theorem isActive_iff : w.isActive t ↔ t.id ∉ w.realm.retired := by
  simp [isActive]

/-- An event only runs triggers that are in use. -/
theorem not_retired_of_mem_dispatchWalks {e : Occurrence} {ts : List Trigger}
    (hx : x ∈ dispatchWalks e ts w) : x.trigger.id ∉ w.realm.retired := by
  induction ts generalizing w with
  | nil => cases hx
  | cons t ts ih =>
    simp only [dispatchWalks] at hx
    split at hx
    · next hwants =>
      obtain rfl | hx := List.mem_cons.1 hx
      · unfold wants at hwants
        split at hwants
        · exact isActive_iff.1 (Bool.and_eq_true_iff.1 hwants).1
        · cases hwants
      · exact (w.evolves_execute t e).retired ▸ ih hx
    · exact ih hx

/-- So does a job of the agenda. -/
theorem not_retired_of_mem_jobWalks {job : Job} (hx : x ∈ w.jobWalks job) :
    x.trigger.id ∉ w.realm.retired := by
  cases job with
  | resume t run loops item =>
    simp only [jobWalks] at hx
    split at hx
    · next hactive =>
      obtain rfl := List.mem_singleton.1 hx
      exact isActive_iff.1 hactive
    · cases hx
  | periodic t =>
    simp only [jobWalks] at hx
    split at hx
    · next hactive =>
      obtain rfl := List.mem_singleton.1 hx
      exact isActive_iff.1 hactive
    · cases hx
  | setCancelled e cancelled => cases hx

/-- A job of a trigger makes a walk through this trigger only. -/
theorem trigger_of_mem_jobWalks {job : Job} (hx : x ∈ w.jobWalks job) :
    job.trigger? = some x.trigger := by
  cases job with
  | resume t run loops item =>
    simp only [jobWalks] at hx
    split at hx
    · obtain rfl := List.mem_singleton.1 hx
      rfl
    · cases hx
  | periodic t =>
    simp only [jobWalks] at hx
    split at hx
    · obtain rfl := List.mem_singleton.1 hx
      rfl
    · cases hx
  | setCancelled e cancelled => cases hx

/-- **A job of a trigger out of use does nothing:** it makes no walk. -/
theorem perform_of_retired {job : Job} (htrigger : job.trigger? = some t)
    (hretired : t.id ∈ w.realm.retired) : w.perform job = w := by
  have hwalks : w.jobWalks job = [] := by
    refine List.eq_nil_iff_forall_not_mem.2 fun x hx => not_retired_of_mem_jobWalks hx ?_
    rwa [← Option.some.inj (htrigger.symm.trans (trigger_of_mem_jobWalks hx))]
  rw [perform_eq_replay (htrigger ▸ rfl), hwalks]
  rfl

/-- **No trigger is taken out of use while a tick passes.** -/
theorem retired_of_mem_tickTurns {turn : Job × World} (hturn : turn ∈ w.tickTurns) :
    turn.2.realm.retired = w.realm.retired := by
  have hnotes : ∀ note ∈ Agenda.performances performJob (w.agenda, w.realm),
      note.2.2.retired = w.realm.retired := by
    have hnoting := Agenda.tick_induction (Agenda.noting performJob)
      (P := fun s => s.2.1.retired = w.realm.retired ∧
        ∀ note ∈ s.2.2, note.2.2.retired = w.realm.retired)
      (fun _ _ _ _ h => h) (fun job s h => ⟨?_, ?_⟩)
      (s := (w.agenda, (w.realm, []))) ⟨rfl, List.forall_mem_nil _⟩
    · exact hnoting.2
    · exact (evolves_perform ⟨s.1, s.2.1⟩ job).retired.trans h.1
    · exact List.forall_mem_append.2 ⟨h.2, List.forall_mem_singleton.2 h.1⟩
  obtain ⟨note, hnote, rfl⟩ := List.mem_map.1 hturn
  exact hnotes note hnote

theorem not_retired_of_mem_tickWalks (hx : x ∈ w.tickWalks) :
    x.trigger.id ∉ w.realm.retired := by
  obtain ⟨turn, hturn, hx⟩ := List.mem_flatMap.1 hx
  exact retired_of_mem_tickTurns hturn ▸ not_retired_of_mem_jobWalks hx

/-- Only triggers that are being put to use run meanwhile. -/
theorem mem_of_mem_activationWalks {ts : List Trigger} (hx : x ∈ activationWalks ts w) :
    x.trigger ∈ ts := by
  induction ts generalizing w with
  | nil => cases hx
  | cons t ts ih =>
    obtain hx | hx := List.mem_append.1 hx
    · unfold activationWalk at hx
      split at hx
      · obtain rfl := List.mem_singleton.1 hx
        exact List.mem_cons_self
      · cases hx
    · exact List.mem_cons_of_mem _ (ih hx)

end World

end TriggerScript

import TriggerScript.Proofs.World.Evolution
import TriggerScript.Proofs.World.Listening

/-!
# Triggers in use

Putting a trigger to use and taking it out of use change several things that have to fit: the
switchboard, the timers, the repeating tasks on the agenda, and which triggers are retired.

* `World.TimedBy` : which timers there are, each with its one task on the agenda.
* `World.Serves` : everything fits the triggers in use.
* `World.Serves.evolves`, `World.Serves.tick` : so it does while triggers run and ticks pass.
* `World.Serves.activate`, `World.Serves.retire` : and when triggers are put to use and taken out.
-/

namespace TriggerScript

namespace Trigger

/-- It listens to a kind of events, and decides about each of them. -/
def ListensTo (t : Trigger) (kind : String) : Prop :=
  t.header.drivesItself = false ∧ kind ∈ t.kinds.map (·.name)

/-- Whether it runs from time to time. -/
def isPeriodic (t : Trigger) : Bool :=
  match t.header with
  | .every _ => true
  | _ => false

end Trigger

/-- The timer of a periodic trigger: its period, and the number of its task. -/
structure Timer where
  trigger : Trigger
  period : UInt64
  task : UInt64

namespace Timer

/-- How a timer is found by its trigger. -/
def entry (x : Timer) : TriggerId × UInt64 := (x.trigger.id, x.task)

/-- The task of a timer. -/
def queued (x : Timer) : UInt64 × Option UInt64 × Job :=
  (x.task, some (max x.period 1), .periodic x.trigger)

end Timer

namespace World

/-- Which timers there are: each has one task on the agenda, and nothing else there repeats. -/
structure TimedBy (w : World) (timers : List Timer) : Prop where
  headers : ∀ x ∈ timers, x.trigger.header = .every x.period
  entries : w.realm.timers = timers.map Timer.entry
  tasks : (Agenda.repeating w.agenda.tasks).Perm (timers.map Timer.queued)

/-- Everything fits the triggers in use, and no call is going on. -/
structure Serves (w : World) (inUse : List Trigger) : Prop where
  distinct : (inUse.map (·.id)).Nodup
  active : ∀ t ∈ inUse, t.id ∉ w.realm.retired
  ordered : w.realm.switchboard.Ordered
  listening : ∀ kind t, t ∈ w.realm.switchboard.row kind ↔ t ∈ inUse ∧ t.ListensTo kind
  timed : ∃ timers, w.TimedBy timers ∧
    (timers.map (·.trigger)).Perm (inUse.filter (·.isPeriodic))
  calm : w.agenda.Calm
  inHand : w.agenda.inHand = []

variable {w w' : World} {inUse inUse' : List Trigger} {timers : List Timer} {t : Trigger}

theorem serves_new (registry : Registry) (options : Options) (dice : Nat → Dice)
    (stepLimit : Nat) : (World.new registry options dice stepLimit).Serves [] where
  distinct := List.nodup_nil
  active := List.forall_mem_nil _
  ordered := Switchboard.ordered_empty
  listening kind t := by simp [World.new, Switchboard.row, Switchboard.empty]
  timed := ⟨[], ⟨List.forall_mem_nil _, rfl, .refl _⟩, .refl _⟩
  calm := ⟨rfl, rfl⟩
  inHand := rfl

/-- It does not matter in which order the triggers come. -/
theorem Serves.perm (h : w.Serves inUse) (hperm : inUse.Perm inUse') : w.Serves inUse' where
  distinct := (hperm.map _).nodup_iff.1 h.distinct
  active t ht := h.active t (hperm.mem_iff.2 ht)
  ordered := h.ordered
  listening kind t := (h.listening kind t).trans (and_congr_left' hperm.mem_iff)
  timed := by
    obtain ⟨timers, htimed, hsame⟩ := h.timed
    exact ⟨timers, htimed, hsame.trans (hperm.filter _)⟩
  calm := h.calm
  inHand := h.inHand

/-! ### While triggers run -/

/-- Nothing that repeats is added by tasks that are to be done once. -/
theorem repeating_booking {a : Agenda Job} {tasks : List (QueuedJob Job)}
    (honce : ∀ task ∈ tasks, task.period = none) :
    Agenda.repeating (a.booking tasks).tasks = Agenda.repeating a.tasks := by
  rw [Agenda.booking, Agenda.repeating_append, Agenda.repeating_of_once honce, List.append_nil]

/-- The same triggers are in use, and what has been added to the agenda is to be done once. -/
theorem Serves.of_sameUse (h : w.Serves inUse) (hsame : w.SameUse w')
    (hagenda : ∃ tasks : List (QueuedJob Job), (∀ task ∈ tasks, task.period = none) ∧
      w'.agenda = w.agenda.booking tasks) : w'.Serves inUse := by
  obtain ⟨timers, ⟨hheaders, hentries, htasks⟩, htimers⟩ := h.timed
  obtain ⟨tasks, honce, hagenda⟩ := hagenda
  refine ⟨h.distinct, hsame.retired ▸ h.active, hsame.switchboard ▸ h.ordered,
    hsame.switchboard ▸ h.listening, ⟨timers, ⟨hheaders, hsame.timers.trans hentries, ?_⟩, htimers⟩,
    ?_, ?_⟩
  · rwa [hagenda, repeating_booking honce]
  · rw [hagenda]
    exact ⟨h.calm.cancelled, h.calm.handedOver⟩
  · rw [hagenda]
    exact h.inHand

theorem Serves.evolves (h : w.Serves inUse) (hevolves : w.Evolves w') : w'.Serves inUse :=
  h.of_sameUse hevolves.toSameUse hevolves.agenda

/-- A job does nothing to the agenda but book tasks that are to be done once. -/
theorem books_performJob : Agenda.Books performJob :=
  fun job s => (evolves_perform ⟨s.1, s.2⟩ job).agenda

/-- What is left alone by everything that jobs do is left alone by a tick. -/
theorem tick_frame {α : Type} (f : Realm → α)
    (hf : ∀ w w' : World, w.Evolves w' → f w'.realm = f w.realm) (w : World) :
    f w.tick.realm = f w.realm := by
  refine Agenda.tick_induction performJob (P := fun s => f s.2 = f w.realm)
    (fun _ _ _ _ h => h) (fun job s h => ?_) (s := (w.agenda, w.realm)) rfl
  exact (hf ⟨s.1, s.2⟩ _ (evolves_perform ⟨s.1, s.2⟩ job)).trans h

theorem retired_tick (w : World) : w.tick.realm.retired = w.realm.retired :=
  tick_frame Realm.retired (fun _ _ h => h.retired) w

theorem registry_tick (w : World) : w.tick.realm.registry = w.realm.registry :=
  tick_frame Realm.registry (fun _ _ h => h.registry) w

theorem triggerIds_tick (w : World) : w.tick.realm.triggerIds = w.realm.triggerIds :=
  tick_frame Realm.triggerIds (fun _ _ h => h.triggerIds) w

/-- **Everything still fits when a tick has passed.** -/
theorem Serves.tick (h : w.Serves inUse) : w.tick.Serves inUse := by
  have hswitchboard : w.tick.realm.switchboard = w.realm.switchboard :=
    tick_frame Realm.switchboard (fun _ _ h => h.switchboard) w
  have htimers : w.tick.realm.timers = w.realm.timers :=
    tick_frame Realm.timers (fun _ _ h => h.timers) w
  obtain ⟨hcalm, hinHand, hrepeating⟩ :=
    Agenda.tick_books books_performJob (s := (w.agenda, w.realm)) h.calm
  obtain ⟨timers, htimed, hsame⟩ := h.timed
  exact ⟨h.distinct, w.retired_tick ▸ h.active, hswitchboard ▸ h.ordered,
    hswitchboard ▸ h.listening, ⟨timers, ⟨htimed.headers, htimers.trans htimed.entries,
      hrepeating.trans htimed.tasks⟩, hsame⟩, hcalm, hinHand⟩

/-! ### Putting triggers to use -/

theorem not_listensTo_of_drivesItself (h : t.header.drivesItself = true) (kind : String) :
    ¬t.ListensTo kind := fun hlistens => by
  rw [hlistens.1] at h
  cases h

/-- Which triggers are in a row, if one more is in use that listens to nothing. -/
theorem listening_cons {s : Switchboard}
    (h : ∀ kind u, u ∈ s.row kind ↔ u ∈ inUse ∧ u.ListensTo kind)
    (hdrives : t.header.drivesItself = true) (kind : String) (u : Trigger) :
    u ∈ s.row kind ↔ u ∈ t :: inUse ∧ u.ListensTo kind := by
  rw [h, List.mem_cons]
  refine and_congr_left fun hlistens => (or_iff_right ?_).symm
  rintro rfl
  exact not_listensTo_of_drivesItself hdrives kind hlistens

/-- What has to be shown when one more trigger is in use. -/
theorem Serves.cons (h : w.Serves inUse) (hretired : w'.realm.retired = w.realm.retired)
    (hnew : t.id ∉ inUse.map (·.id)) (hactive : t.id ∉ w.realm.retired)
    (hordered : w'.realm.switchboard.Ordered)
    (hlistening : ∀ kind u, u ∈ w'.realm.switchboard.row kind ↔
      u ∈ t :: inUse ∧ u.ListensTo kind)
    (htimed : ∃ timers, w'.TimedBy timers ∧
      (timers.map (·.trigger)).Perm ((t :: inUse).filter (·.isPeriodic)))
    (hcalm : w'.agenda.Calm) (hinHand : w'.agenda.inHand = []) : w'.Serves (t :: inUse) where
  distinct := List.nodup_cons.2 ⟨hnew, h.distinct⟩
  active := hretired ▸ List.forall_mem_cons.2 ⟨hactive, h.active⟩
  ordered := hordered
  listening := hlistening
  timed := htimed
  calm := hcalm
  inHand := hinHand

theorem Serves.activate_listens (h : w.Serves inUse) (hnew : t.id ∉ inUse.map (·.id))
    (hactive : t.id ∉ w.realm.retired) (hlistens : t.header.drivesItself = false)
    (hperiodic : t.isPeriodic = false) :
    (w.onRealm fun r => { r with switchboard := r.switchboard.register t }).Serves (t :: inUse) := by
  have hrows : ∀ kind, ∀ u ∈ w.realm.switchboard.row kind, u.id ≠ t.id := fun kind u hu heq =>
    hnew (heq ▸ List.mem_map_of_mem ((h.listening kind u).1 hu).1)
  refine h.cons rfl hnew hactive (h.ordered.register t) (fun kind u => ?_) ?_ h.calm h.inHand
  · refine (Switchboard.mem_row_register hrows).trans ?_
    rw [h.listening, List.mem_cons]
    constructor
    · rintro (⟨hu, hlisten⟩ | ⟨rfl, hkind⟩)
      · exact ⟨.inr hu, hlisten⟩
      · exact ⟨.inl rfl, hlistens, hkind⟩
    · rintro ⟨rfl | hu, hlisten⟩
      · exact .inr ⟨rfl, hlisten.2⟩
      · exact .inl ⟨hu, hlisten⟩
  · obtain ⟨timers, ⟨hheaders, hentries, htasks⟩, hsame⟩ := h.timed
    refine ⟨timers, ⟨hheaders, hentries, htasks⟩, ?_⟩
    rwa [List.filter_cons_of_neg (by simp [hperiodic])]

theorem Serves.activate_onLoad (h : w.Serves inUse) (hnew : t.id ∉ inUse.map (·.id))
    (hactive : t.id ∉ w.realm.retired) (hdrives : t.header.drivesItself = true)
    (hperiodic : t.isPeriodic = false) (kind : EventKind) :
    (w.executePlain t kind).Serves (t :: inUse) := by
  have hserves : w.Serves (t :: inUse) := by
    refine h.cons rfl hnew hactive h.ordered (listening_cons h.listening hdrives) ?_ h.calm h.inHand
    obtain ⟨timers, htimed, hsame⟩ := h.timed
    refine ⟨timers, htimed, ?_⟩
    rwa [List.filter_cons_of_neg (by simp [hperiodic])]
  exact hserves.evolves (w.evolves_executePlain t kind)

/-- A trigger that is new has no timer. -/
theorem lookup_eq_none_of_new (hentries : w.realm.timers = timers.map Timer.entry)
    (hsame : (timers.map (·.trigger)).Perm (inUse.filter (·.isPeriodic)))
    (hnew : t.id ∉ inUse.map (·.id)) : w.realm.timers.lookup t.id = none := by
  refine List.lookup_eq_none_iff.2 fun entry hentry => bne_iff_ne.2 fun heq => hnew ?_
  rw [hentries] at hentry
  obtain ⟨x, hx, rfl⟩ := List.mem_map.1 hentry
  have hmem : x.trigger ∈ inUse.filter (·.isPeriodic) :=
    hsame.mem_iff.1 (List.mem_map_of_mem hx)
  exact List.mem_map.2 ⟨x.trigger, List.mem_of_mem_filter hmem, heq.symm⟩

theorem Serves.activate_every (h : w.Serves inUse) (hnew : t.id ∉ inUse.map (·.id))
    (hactive : t.id ∉ w.realm.retired) {period : UInt64} (hheader : t.header = .every period) :
    (w.startTimer t period).Serves (t :: inUse) := by
  obtain ⟨timers, ⟨hheaders, hentries, htasks⟩, hsame⟩ := h.timed
  have hlookup := lookup_eq_none_of_new hentries hsame hnew
  have hstart : w.startTimer t period = { w with
      agenda := (w.agenda.every period period (.periodic t)).2
      realm := { w.realm with timers := (t.id, w.agenda.nextId) :: w.realm.timers } } := by
    simp only [startTimer, stopTimer, hlookup]
    rfl
  have hdrives : t.header.drivesItself = true := by rw [hheader]; rfl
  have hperiodic : t.isPeriodic = true := by rw [Trigger.isPeriodic, hheader]
  rw [hstart]
  refine h.cons rfl hnew hactive h.ordered (listening_cons h.listening hdrives)
    ⟨⟨t, period, w.agenda.nextId⟩ :: timers, ⟨?_, ?_, ?_⟩, ?_⟩
    ⟨h.calm.cancelled, h.calm.handedOver⟩ h.inHand
  · exact List.forall_mem_cons.2 ⟨hheader, hheaders⟩
  · exact congrArg _ hentries
  · have happend : Agenda.repeating (w.agenda.every period period (.periodic t)).2.tasks =
        Agenda.repeating w.agenda.tasks ++
          [(w.agenda.nextId, some (max period 1), Job.periodic t)] := by
      simp [Agenda.every, Agenda.push, Agenda.repeating]
    rw [happend]
    exact (List.perm_append_singleton ..).trans (htasks.cons _)
  · rw [List.filter_cons_of_pos hperiodic]
    exact hsame.cons t

/-- **A new trigger is put to use.** -/
theorem Serves.activate (h : w.Serves inUse) (hnew : t.id ∉ inUse.map (·.id))
    (hactive : t.id ∉ w.realm.retired) : (w.activate t).Serves (t :: inUse) := by
  unfold World.activate
  cases hheader : t.header with
  | listens listener =>
    exact h.activate_listens hnew hactive (by rw [hheader]; rfl)
      (by rw [Trigger.isPeriodic, hheader])
  | onLoad =>
    exact h.activate_onLoad hnew hactive (by rw [hheader]; rfl)
      (by rw [Trigger.isPeriodic, hheader]) _
  | every period => exact h.activate_every hnew hactive hheader

/-! ### Taking triggers out of use -/

/-- Each trigger has one timer at most. -/
theorem nodup_timers (hdistinct : (inUse.map (·.id)).Nodup)
    (hsame : (timers.map (·.trigger)).Perm (inUse.filter (·.isPeriodic))) :
    (timers.map fun x => x.trigger.id).Nodup := by
  have hsub : ((inUse.filter (·.isPeriodic)).map (·.id)).Nodup :=
    hdistinct.sublist (List.filter_sublist.map _)
  have hperm := (hsame.map Trigger.id).nodup_iff.2 hsub
  rwa [List.map_map] at hperm

theorem lookup_entry {x : Timer} (hx : x ∈ timers)
    (hids : (timers.map fun x => x.trigger.id).Nodup) :
    (timers.map Timer.entry).lookup x.trigger.id = some x.task := by
  induction timers with
  | nil => cases hx
  | cons y rest ih =>
    obtain ⟨hnot, hrest⟩ := List.nodup_cons.1 hids
    rw [List.map_cons, Timer.entry, List.lookup_cons]
    obtain rfl | hx := List.mem_cons.1 hx
    · simp
    · have hne : (x.trigger.id == y.trigger.id) = false := by
        refine beq_eq_false_iff_ne.2 fun heq => hnot ?_
        exact List.mem_map.2 ⟨x, hx, heq⟩
      rw [hne]
      exact ih hx hrest

theorem cancel_of_inHand_eq_nil {J : Type} {a : Agenda J} (h : a.inHand = []) (id : UInt64) :
    a.cancel id = { a with tasks := a.tasks.filter (·.id != id) } := by
  simp [Agenda.cancel, h]

theorem repeating_filter {J : Type} (tasks : List (QueuedJob J)) (id : UInt64) :
    Agenda.repeating (tasks.filter (·.id != id)) =
      (Agenda.repeating tasks).filter (·.1 != id) := by
  simp only [Agenda.repeating, List.filter_map, List.filter_filter, Function.comp_def]
  congr 1
  exact List.filter_congr fun task _ => Bool.and_comm ..

/-- Of timers with distinct tasks, the task of one belongs to no other. -/
theorem filter_timers {x : Timer} (hx : x ∈ timers)
    (hids : (timers.map fun x => x.trigger.id).Nodup)
    (hnumbers : (timers.map (·.task)).Nodup) :
    timers.filter (·.task != x.task) = timers.filter (·.trigger.id != x.trigger.id) := by
  refine List.filter_congr fun y hy => ?_
  have hiff : y.task = x.task ↔ y.trigger.id = x.trigger.id := by
    constructor
    · intro heq
      rw [List.inj_on_of_nodup_map hnumbers hy hx heq]
    · intro heq
      rw [List.inj_on_of_nodup_map hids hy hx heq]
  simp [bne, hiff]

/-- The timer of a trigger is stopped, and its task is taken off the agenda. -/
theorem TimedBy.stopTimer (htimed : w.TimedBy timers)
    (hsame : (timers.map (·.trigger)).Perm ((t :: inUse).filter (·.isPeriodic)))
    (hdistinct : ((t :: inUse).map (·.id)).Nodup) (hperiodic : t.isPeriodic = true)
    (hnumbers : (w.realm.timers.map (·.2)).Nodup) (hcalm : w.agenda.Calm)
    (hinHand : w.agenda.inHand = []) :
    (∃ timers, (w.stopTimer t.id).TimedBy timers ∧
      (timers.map (·.trigger)).Perm (inUse.filter (·.isPeriodic))) ∧
    (w.stopTimer t.id).agenda.Calm ∧ (w.stopTimer t.id).agenda.inHand = [] ∧
    (w.stopTimer t.id).realm.switchboard = w.realm.switchboard ∧
    (w.stopTimer t.id).realm.retired = w.realm.retired := by
  obtain ⟨hheaders, hentries, htasks⟩ := htimed
  have hids := nodup_timers hdistinct hsame
  rw [List.filter_cons_of_pos hperiodic] at hsame
  obtain ⟨x, hx, hxt⟩ : ∃ x ∈ timers, x.trigger = t :=
    List.mem_map.1 (hsame.mem_iff.2 List.mem_cons_self)
  have hlookup : w.realm.timers.lookup t.id = some x.task := by
    rw [hentries, ← hxt]
    exact lookup_entry hx hids
  have hstop : w.stopTimer t.id = { w with
      agenda := { w.agenda with tasks := w.agenda.tasks.filter (·.id != x.task) }
      realm := { w.realm with timers := w.realm.timers.filter (·.1 != t.id) } } := by
    simp only [World.stopTimer, hlookup, cancel_of_inHand_eq_nil hinHand]
  have htasksOf : timers.filter (·.task != x.task) = timers.filter (·.trigger.id != t.id) := by
    rw [filter_timers hx hids ?_, hxt]
    rw [hentries, List.map_map] at hnumbers
    exact hnumbers
  rw [hstop]
  refine ⟨⟨timers.filter (·.trigger.id != t.id), ⟨?_, ?_, ?_⟩, ?_⟩,
    ⟨hcalm.cancelled, hcalm.handedOver⟩, hinHand, rfl, rfl⟩
  · exact fun y hy => hheaders y (List.mem_of_mem_filter hy)
  · rw [hentries, List.filter_map]
    rfl
  · rw [← htasksOf]
    have hfiltered := htasks.filter (·.1 != x.task)
    rw [← repeating_filter, List.filter_map] at hfiltered
    exact hfiltered
  · have hfiltered := hsame.filter (·.id != t.id)
    have hothers : (inUse.filter (·.isPeriodic)).filter (·.id != t.id) =
        inUse.filter (·.isPeriodic) := by
      refine List.filter_eq_self.2 fun u hu => bne_iff_ne.2 fun heq => ?_
      exact (List.nodup_cons.1 hdistinct).1 (List.mem_map.2 ⟨u, List.mem_of_mem_filter hu, heq⟩)
    rw [List.filter_cons_of_neg (by simp), hothers, List.filter_map] at hfiltered
    exact hfiltered

/-- **A trigger is taken out of use.** -/
theorem Serves.retire (h : w.Serves (t :: inUse))
    (hnumbers : (w.realm.timers.map (·.2)).Nodup) : (w.retire t).Serves inUse := by
  obtain ⟨hnew, hdistinct⟩ := List.nodup_cons.1 h.distinct
  obtain ⟨timers, htimed, hsame⟩ := h.timed
  have hne {u : Trigger} (hu : u ∈ inUse) : u.id ≠ t.id := fun heq =>
    hnew (List.mem_map.2 ⟨u, hu, heq⟩)
  have hactive : ∀ u ∈ inUse, u.id ∉ t.id :: w.realm.retired := fun u hu hmem =>
    (List.mem_cons.1 hmem).elim (hne hu) (h.active u (List.mem_cons_of_mem _ hu))
  have hothers (kind : String) (u : Trigger) (hnot : ¬t.ListensTo kind) :
      u ∈ w.realm.switchboard.row kind ↔ u ∈ inUse ∧ u.ListensTo kind := by
    rw [h.listening, List.mem_cons]
    refine and_congr_left fun hlistens => or_iff_right ?_
    rintro rfl
    exact hnot hlistens
  unfold World.retire
  cases hheader : t.header with
  | listens listener =>
    have hperiodic : ¬t.isPeriodic = true := by simp [Trigger.isPeriodic, hheader]
    rw [List.filter_cons_of_neg hperiodic] at hsame
    refine ⟨hdistinct, hactive, h.ordered.unregister t.id, fun kind u => ?_,
      ⟨timers, ⟨htimed.headers, htimed.entries, htimed.tasks⟩, hsame⟩, h.calm, h.inHand⟩
    refine (Switchboard.mem_row_unregister h.ordered).trans ?_
    rw [h.listening, List.mem_cons]
    constructor
    · rintro ⟨⟨rfl | hu, hlistens⟩, hid⟩
      · exact absurd rfl hid
      · exact ⟨hu, hlistens⟩
    · rintro ⟨hu, hlistens⟩
      exact ⟨⟨.inr hu, hlistens⟩, hne hu⟩
  | onLoad =>
    have hdrives : t.header.drivesItself = true := by rw [hheader]; rfl
    have hperiodic : ¬t.isPeriodic = true := by simp [Trigger.isPeriodic, hheader]
    rw [List.filter_cons_of_neg hperiodic] at hsame
    exact ⟨hdistinct, hactive, h.ordered,
      fun kind u => hothers kind u (not_listensTo_of_drivesItself hdrives kind),
      ⟨timers, ⟨htimed.headers, htimed.entries, htimed.tasks⟩, hsame⟩, h.calm, h.inHand⟩
  | every period =>
    have hdrives : t.header.drivesItself = true := by rw [hheader]; rfl
    have hperiodic : t.isPeriodic = true := by rw [Trigger.isPeriodic, hheader]
    have htimed' : (w.onRealm fun r => { r with retired := t.id :: r.retired }).TimedBy timers :=
      ⟨htimed.headers, htimed.entries, htimed.tasks⟩
    obtain ⟨hstopped, hcalm, hinHand, hswitchboard, hretired⟩ :=
      htimed'.stopTimer hsame h.distinct hperiodic hnumbers h.calm h.inHand
    exact ⟨hdistinct, hretired ▸ hactive, hswitchboard ▸ h.ordered,
      hswitchboard ▸ fun kind u => hothers kind u (not_listensTo_of_drivesItself hdrives kind),
      hstopped, hcalm, hinHand⟩

end World

end TriggerScript

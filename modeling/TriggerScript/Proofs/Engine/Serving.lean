import TriggerScript.Proofs.Engine.LoadOrder
import TriggerScript.Proofs.Engine.Unloading
import TriggerScript.Proofs.World.Failures
import TriggerScript.Proofs.World.Numbering

/-!
# The engine and what serves it

The switchboard, the agenda and the loaded scripts agree, whatever is called. So events reach
exactly the triggers of loaded scripts that are there for them.

* `World.Serves.retireAll`, `World.Serves.activateAll` : whole scripts are taken out of use and put to
  use.
* `World.Serves.fire`, `World.Serves.repeating` : which triggers an event runs, and what repeats.
* `Engine.Fits` : everything fits the loaded scripts.
* `Engine.Fits.call`, `Engine.Fits.calls` : so it does after each call.
* `Engine.serves_loaded` : who is on the switchboard, what repeats, and what an event runs.
-/

namespace TriggerScript

open TriggerScript.Agenda

/-! ### Several triggers -/

namespace World

variable {w : World} {inUse ts : List Trigger} {n : Nat}

/-- Triggers are taken out of use one after the other. -/
theorem Serves.retireAll (h : w.Serves (ts ++ inUse)) (hnumbered : w.Numbered n)
    (hcount : n ≤ UInt64.size) :
    (ts.foldl World.retire w).Serves inUse ∧ (ts.foldl World.retire w).Numbered n := by
  induction ts generalizing w with
  | nil => exact ⟨h, hnumbered⟩
  | cons t ts ih => exact ih (h.retire (hnumbered.nodup hcount)) (hnumbered.retire t)

/-- New triggers are put to use one after the other. -/
theorem Serves.activateAll (h : w.Serves inUse) (hids : ((ts ++ inUse).map (·.id)).Nodup)
    (hactive : ∀ t ∈ ts, t.id ∉ w.realm.retired) :
    (ts.foldl World.activate w).Serves (ts ++ inUse) := by
  induction ts generalizing w inUse with
  | nil => exact h
  | cons t ts ih =>
    obtain ⟨hnew, hrest⟩ := List.nodup_cons.1 hids
    obtain ⟨ht, hts⟩ := List.forall_mem_cons.1 hactive
    have hmiddle : (ts ++ t :: inUse).Perm (t :: ts ++ inUse) := List.perm_middle
    have hserves := h.activate (fun hmem => hnew (by simp [List.map_append, hmem])) ht
    refine (ih hserves ((hmiddle.map _).nodup_iff.2 hids) ?_).perm hmiddle
    rwa [(w.activate_frame t).1]

/-- Triggers on the switchboard can be told apart by their numbers. -/
theorem Serves.eq_of_id (h : w.Serves inUse) (kind kind' : String) (t u : Trigger)
    (ht : t ∈ w.realm.switchboard.row kind) (hu : u ∈ w.realm.switchboard.row kind')
    (heq : t.id = u.id) : t = u :=
  List.inj_on_of_nodup_map h.distinct ((h.listening kind t).1 ht).1
    ((h.listening kind' u).1 hu).1 heq

/-- **An event runs the triggers in use that listen to it and accept it,** in order. -/
theorem Serves.fire (h : w.Serves inUse) (event : Occurrence) :
    ∃ hearers : List Trigger, hearers.Pairwise Trigger.Before ∧
      (∀ t, t ∈ hearers ↔
        t ∈ inUse ∧ (∃ kind ∈ event.kind.lineage, t.ListensTo kind) ∧ t.accepts event) ∧
      (w.fireWalks event).map (·.trigger) = hearers ∧
      (w.fire event).2 = hearers.foldl (fun w t => w.execute t event) w := by
  have hmem (t : Trigger) : t ∈ w.realm.switchboard.listeners event.kind ↔
      t ∈ inUse ∧ ∃ kind ∈ event.kind.lineage, t.ListensTo kind := by
    rw [Switchboard.mem_listeners h.eq_of_id]
    simp only [h.listening]
    constructor
    · rintro ⟨kind, hkind, ht, hlistens⟩
      exact ⟨ht, kind, hkind, hlistens⟩
    · rintro ⟨ht, kind, hkind, hlistens⟩
      exact ⟨kind, hkind, ht, hlistens⟩
  have hactive : ∀ t ∈ w.realm.switchboard.listeners event.kind, w.isActive t := fun t ht =>
    isActive_iff.2 (h.active t ((hmem t).1 ht).1)
  exact ⟨(w.realm.switchboard.listeners event.kind).filter (·.accepts event),
    (Switchboard.pairwise_listeners h.eq_of_id event.kind).filter _,
    fun t => by rw [List.mem_filter, hmem, and_assoc], map_trigger_dispatchWalks hactive,
    congrArg Prod.snd (dispatchTo_eq hactive 0)⟩

end World

/-- What repeats on the agenda for a trigger in use: its period and its job. -/
def Trigger.repeats (t : Trigger) : Option (Option UInt64 × Job) :=
  match t.header with
  | .every period => some (some (max period 1), .periodic t)
  | _ => none

namespace World

variable {w : World} {inUse : List Trigger}

/-- **What repeats on the agenda is one task for each periodic trigger in use.** -/
theorem Serves.repeating (h : w.Serves inUse) :
    ((repeating w.agenda.tasks).map (·.2)).Perm (inUse.filterMap Trigger.repeats) := by
  obtain ⟨timers, ⟨hheaders, -, htasks⟩, hsame⟩ := h.timed
  have hjobs : (timers.map Timer.queued).map (·.2) =
      (timers.map (·.trigger)).filterMap Trigger.repeats := by
    rw [List.map_map, List.filterMap_map, ← List.filterMap_eq_map]
    refine List.filterMap_congr fun x hx => ?_
    simp only [Function.comp, Trigger.repeats, hheaders x hx, Timer.queued]
  have hperiodic : (inUse.filter (·.isPeriodic)).filterMap Trigger.repeats =
      inUse.filterMap Trigger.repeats := by
    rw [List.filterMap_filter]
    refine List.filterMap_congr fun t _ => ?_
    unfold Trigger.isPeriodic Trigger.repeats
    cases t.header <;> rfl
  have hperm := (htasks.map (·.2)).trans (hjobs ▸ hsame.filterMap _)
  rwa [hperiodic] at hperm

end World

namespace Engine

variable {e : Engine} {read gone : List Trigger} {n : Nat} {c : Call} {cs : List Call}

/-- Everything fits the loaded scripts, and so many tasks have been booked. -/
structure Fits (e : Engine) (read gone : List Trigger) (n : Nat) : Prop where
  accounts : e.Accounts read gone
  serves : e.world.Serves e.loaded
  numbered : e.world.Numbered n

theorem fits_new (registry : Registry) (options : Options) (dice : Nat → Dice) (stepLimit : Nat) :
    (Engine.new registry options dice stepLimit).Fits [] [] 0 :=
  ⟨accounts_new registry options dice stepLimit, World.serves_new registry options dice stepLimit,
    World.numbered_new registry options dice stepLimit⟩

/-- What only lets the world evolve changes nothing about which triggers are in use. -/
theorem Fits.onWorld {m : Nat} (h : e.Fits read gone n) {w : World}
    (hretired : w.realm.retired = e.world.realm.retired) (hserves : w.Serves e.loaded)
    (hnumbered : w.Numbered m) : Fits { e with world := w } read gone m :=
  ⟨h.accounts.onWorld hretired, hserves, hnumbered⟩

/-- A text is read. -/
theorem Fits.afterReading (h : e.Fits read gone n) (name source : String) :
    (e.afterReading name source).Fits read gone n := by
  obtain ⟨hsame, hagenda, -, -⟩ := goes_readScript e.world name source
  exact h.onWorld hsame.retired (h.serves.of_sameUse hsame (World.exists_booking_of_eq hagenda))
    (h.numbered.of_agenda_eq hagenda hsame.timers)

/-- A script is taken out of use. -/
theorem Fits.withdraw (h : e.Fits read gone n) (name : String) (hcount : n ≤ UInt64.size) :
    (e.withdraw name).Fits read (e.triggersOf name ++ gone) n := by
  obtain ⟨hserves, hnumbered⟩ :=
    (h.serves.perm (perm_loaded h.accounts.names name)).retireAll h.numbered hcount
  exact ⟨h.accounts.withdraw name, hserves, hnumbered⟩

/-- All scripts are taken out of use. -/
theorem Fits.withdrawAll (h : e.Fits read gone n) (hcount : n ≤ UInt64.size) :
    (e.call .unloadAll).Fits read (e.loaded ++ gone) n := by
  rw [call_unloadAll]
  have hall : e.world.Serves (e.loaded ++ []) := by
    rw [List.append_nil]
    exact h.serves
  obtain ⟨hserves, hnumbered⟩ := hall.retireAll h.numbered hcount
  exact ⟨h.accounts.withdrawAll, hserves, hnumbered⟩

/-- A script is put to use. -/
theorem Fits.put (h : e.Fits read gone n) {s : LoadedScript}
    (hname : s.name ∉ e.scripts.map (·.name))
    (hids : ((read ++ s.triggers).map (·.id)).Nodup) :
    (e.put s).Fits (read ++ s.triggers) gone
      (n + (Walk.booked (World.activationWalks s.triggers e.world) +
        (s.triggers.filter (·.isPeriodic)).length)) := by
  have hperm : (s.triggers ++ (e.loaded ++ gone)).Perm (read ++ s.triggers) :=
    List.perm_append_comm.trans (h.accounts.triggers.append_right _)
  have hall := (hperm.map (·.id)).nodup_iff.2 hids
  have hserves : (e.put s).world.Serves (s.triggers ++ e.loaded) := by
    refine h.serves.activateAll (hall.sublist ?_) fun t ht hretired => ?_
    · exact ((List.sublist_append_left e.loaded gone).append_left s.triggers).map _
    · obtain ⟨u, hu, heq⟩ := List.mem_map.1 (h.accounts.mem_retired_iff.1 hretired)
      rw [List.map_append, List.nodup_append] at hall
      refine hall.2.2 t.id (List.mem_map_of_mem ht) t.id ?_ rfl
      exact List.mem_map.2 ⟨u, List.mem_append_right _ hu, heq⟩
  exact ⟨h.accounts.put hname, hserves.perm (perm_insertScript.flatMap_right _).symm,
    h.numbered.activateAll⟩

/-- How many tasks a call puts onto the agenda. -/
def bookings (e : Engine) (c : Call) : Nat :=
  Walk.booked (e.walks c) + ((e.reads c).filter (·.isPeriodic)).length

theorem bookedIn_cons : e.bookedIn (c :: cs) = e.bookings c + (e.call c).bookedIn cs := by
  simp only [bookedIn, walksIn, readIn, gather, bookings, Walk.booked, Walk.total_append,
    List.filter_append, List.length_append]
  exact Nat.add_add_add_comm ..

/-- **Everything still fits after a call.** -/
theorem Fits.call (h : e.Fits read gone n) (hids : ((read ++ e.reads c).map (·.id)).Nodup)
    (hcount : n ≤ UInt64.size) :
    ∃ more, (e.call c).Fits (read ++ e.reads c) (more ++ gone) (n + e.bookings c) := by
  cases c with
  | load name source =>
    rw [call_load]
    have hwithdrawn := (h.afterReading name source).withdraw name hcount
    exact ⟨_, hwithdrawn.put (name_notMem_withdraw _ name) hids⟩
  | unload name =>
    refine ⟨e.triggersOf name, ?_⟩
    rw [Engine.call, unload_eq_withdraw, reads, List.append_nil]
    exact h.withdraw name hcount
  | unloadAll =>
    refine ⟨e.loaded, ?_⟩
    rw [reads, List.append_nil]
    exact h.withdrawAll hcount
  | fire event =>
    refine ⟨[], ?_⟩
    rw [reads, List.append_nil]
    have hevolves := e.world.evolves_fire event
    exact h.onWorld hevolves.retired (h.serves.evolves hevolves)
      (World.counts_numbered.dispatch h.numbered 0)
  | tick =>
    refine ⟨[], ?_⟩
    rw [reads, List.append_nil]
    exact h.onWorld e.world.retired_tick h.serves.tick (World.counts_numbered.tick h.numbered)

/-- **Everything fits after all calls.** -/
theorem Fits.calls (h : e.Fits read gone n) (hids : ((read ++ e.readIn cs).map (·.id)).Nodup)
    (hcount : n + e.bookedIn cs ≤ UInt64.size) :
    ∃ gone', (e.calls cs).Fits (read ++ e.readIn cs) gone' (n + e.bookedIn cs) := by
  induction cs generalizing e read gone n with
  | nil => exact ⟨gone, by rwa [readIn, gather, List.append_nil]⟩
  | cons c cs ih =>
    have hread : read ++ e.readIn (c :: cs) = read ++ e.reads c ++ (e.call c).readIn cs :=
      (List.append_assoc ..).symm
    rw [hread] at hids ⊢
    rw [bookedIn_cons, ← Nat.add_assoc] at hcount ⊢
    have hfirst : ((read ++ e.reads c).map (·.id)).Nodup :=
      hids.sublist ((List.sublist_append_left ..).map _)
    obtain ⟨more, hcall⟩ := h.call hfirst (by omega)
    exact ih hcall hids hcount

/-! ### What is registered -/

/-- No call registers anything. -/
theorem registry_calls (e : Engine) (cs : List Call) :
    (e.calls cs).world.realm.registry = e.world.realm.registry := by
  refine List.foldlRecOn (motive := fun e' => e'.world.realm.registry = e.world.realm.registry) cs
    Engine.call rfl fun e' h c _ => ?_
  rw [(e'.sameStock_call c).registry, ← h]
  cases c with
  | load name source =>
    rw [whenRead]
    exact (goes_readScript e'.world name source).1.registry
  | unload name => rfl
  | unloadAll => rfl
  | fire event => rfl
  | tick => rfl

/-- Each trigger that is read is about some kind of events. -/
theorem kinds_of_mem_readIn {r : Registration} {registry : Registry}
    (hclose : r.close = .ok registry) {options : Options} {dice : Nat → Dice} {stepLimit : Nat}
    {t : Trigger} (ht : t ∈ (Engine.new registry options dice stepLimit).readIn cs) :
    t.kinds ≠ [] := by
  obtain ⟨before, c, after, -, hreads⟩ := mem_gather.1 ht
  obtain ⟨entries, hclosed⟩ := Registration.closed_of_close hclose
  cases c with
  | load name source =>
    obtain ⟨entry, hentry, hkinds⟩ := (goes_readScript _ name source).2.2.2 t hreads
    rw [registry_calls] at hentry
    exact hkinds ▸ Registration.kinds_of_closed hclosed hentry
  | unload name => cases hreads
  | unloadAll => cases hreads
  | fire event => cases hreads
  | tick => cases hreads

/-! ### Whole runs -/

/-- **The switchboard, the agenda and the loaded scripts agree.** Whatever the dice show and whatever
is called, as long as the calls return, the numbers of triggers differ and there are numbers for all
tasks:

* a further call returns exactly if each walk that it begins ends;
* the loaded scripts are those that were read last under their names and not unloaded since;
* triggers that are read later have higher numbers, unless the counter has run over;
* on the switchboard are the triggers of loaded scripts that decide about each event, for each of
  their kinds of events;
* what repeats on the agenda is one task for each periodic trigger of a loaded script;
* an event runs the triggers of loaded scripts that listen to its kind or to one it derives from and
  that accept it, each once and in order, and nothing else; their number is returned exactly if each of
  these runs ends;
* each of these runs that fails adds one to the failures, and changes nothing for the others: they
  are as if nothing had been recorded. -/
theorem serves_loaded {r : Registration} {registry : Registry} (hclose : r.close = .ok registry)
    (options : Options) (dice : Nat → Dice) (stepLimit : Nat) (cs : List Call) {e : Engine}
    (hcalls : (Engine.new registry options dice stepLimit).calls? cs = some e)
    (hids : (((Engine.new registry options dice stepLimit).readIn cs).map (·.id)).Nodup)
    (hcount : (Engine.new registry options dice stepLimit).bookedIn cs ≤ UInt64.size) :
    (∀ c, (e.call? c).isSome ↔ ∀ x ∈ e.walks c, x.ends) ∧
    (∀ t, t ∈ e.loaded ↔ ∃ name s, e.script? name = some s ∧ t ∈ s.triggers) ∧
    (∀ name c, (e.call c).script? name = e.scriptAfter name c) ∧
    (1 + ((Engine.new registry options dice stepLimit).topsIn cs).length < UInt64.size →
      ((Engine.new registry options dice stepLimit).readIn cs).Pairwise Trigger.Before) ∧
    (∀ t, (∃ kind, t ∈ e.world.realm.switchboard.row kind) ↔
      t ∈ e.loaded ∧ t.header.drivesItself = false) ∧
    (∀ kind t, t ∈ e.world.realm.switchboard.row kind ↔ t ∈ e.loaded ∧ t.ListensTo kind) ∧
    ((Agenda.repeating e.world.agenda.tasks).map (·.2)).Perm (e.loaded.filterMap Trigger.repeats) ∧
    ∀ event, ∃ hearers : List Trigger, hearers.Pairwise Trigger.Before ∧
      (∀ t, t ∈ hearers ↔
        t ∈ e.loaded ∧ (∃ kind ∈ event.kind.lineage, t.ListensTo kind) ∧ t.accepts event) ∧
      (e.walks (.fire event)).map (·.trigger) = hearers ∧
      (e.fire event).2.world = Walk.replay e.world (e.walks (.fire event)) ∧
      e.fire? event = (if (e.walks (.fire event)).all (·.ends) then
        some (hearers.length, e.onWorld fun w => hearers.foldl (fun w t => w.execute t event) w)
        else none) ∧
      (e.fire event).2.world = (World.attemptAll event hearers e.world).2.blame
        (World.attemptAll event hearers e.world).1 ∧
      (e.fire event).2.world.realm.failures =
        e.world.realm.failures + (World.attemptAll event hearers e.world).1.length := by
  obtain rfl := eq_calls_of_calls? hcalls
  set e := (Engine.new registry options dice stepLimit).calls cs
  have hstart := fits_new registry options dice stepLimit
  obtain ⟨gone, hfits⟩ := hstart.calls hids (Nat.zero_add _ ▸ hcount)
  refine ⟨fun c => isSome_call?_iff, fun t => mem_loaded_iff hfits.accounts.names,
    fun name c => e.script?_call c name,
    fun hroom => (draws_calls (.new registry options dice stepLimit) cs hroom).order,
    fun t => ⟨?_, ?_⟩, hfits.serves.listening, hfits.serves.repeating, fun event => ?_⟩
  · rintro ⟨kind, ht⟩
    obtain ⟨hloaded, hlistens⟩ := (hfits.serves.listening kind t).1 ht
    exact ⟨hloaded, hlistens.1⟩
  · rintro ⟨hloaded, hlistens⟩
    have hread : t ∈ (Engine.new registry options dice stepLimit).readIn cs :=
      hfits.accounts.triggers.mem_iff.1 (List.mem_append_left gone hloaded)
    obtain ⟨kind, hkind⟩ := List.exists_mem_of_ne_nil _ (kinds_of_mem_readIn hclose hread)
    exact ⟨kind.name, (hfits.serves.listening _ t).2
      ⟨hloaded, hlistens, List.mem_map_of_mem hkind⟩⟩
  · obtain ⟨hearers, horder, hmem, hwalks, hworld⟩ := hfits.serves.fire event
    have hreplay : e.fire event = ((e.walks (.fire event)).length,
        e.onWorld fun w => Walk.replay w (e.walks (.fire event))) := e.fire_eq_replay event
    have hran : (e.fire event).1 = hearers.length := by
      rw [hreplay, ← hwalks, List.length_map]
      rfl
    have hfire : e.call (.fire event) =
        e.onWorld fun w => hearers.foldl (fun w t => w.execute t event) w :=
      congrArg (Engine.mk · e.scripts) hworld
    refine ⟨hearers, horder, hmem, hwalks, congrArg (·.2.world) hreplay, ?_,
      hworld.trans (World.foldl_execute ..), ?_⟩
    · rw [fire?, call?_eq, hran, hfire, apply_ite (Option.map _)]
      rfl
    · have hblame := hworld.trans (World.foldl_execute ..)
      exact (congrArg (·.realm.failures) hblame).trans
        (congrArg (· + _) (World.failures_attemptAll ..))

/-- Two triggers, one of each kind. The one for calls fails. -/
def clumsySource : String :=
  "on each tick:\n\tgreet\non call:\n\tstumble\n\tgreet\n"

/-- A script is replaced by one with the same text, and another one is loaded. -/
def longVisit : List Call :=
  [.load "polite" politeSource, .fire someone, .tick, .load "polite" politeSource,
    .load "clumsy" clumsySource, .tick]

/-- In the end there are two triggers for calls. The next call runs both, and one of them fails. -/
theorem serves_loaded_longVisit :
    ∃ registry e, parlour.close = .ok registry ∧ (opened registry).calls? longVisit = some e ∧
      (((opened registry).readIn longVisit).map (·.id)).Nodup ∧
      (opened registry).bookedIn longVisit ≤ UInt64.size ∧
      ((opened registry).readIn longVisit).Pairwise Trigger.Before ∧
      ∃ hearers, hearers.length = 2 ∧ hearers.Pairwise Trigger.Before ∧
        (e.fire? someone).map (·.1) = some 2 ∧
        (World.attemptAll someone hearers e.world).1.length = 1 := by
  have hfacts : (parlour.close.toOption.map fun registry =>
      let e := (opened registry).calls longVisit
      let rows := someone.kind.lineage.flatMap e.world.realm.switchboard.row
      let fired := World.dispatchTo someone (Switchboard.dropRepeats rows) (0, e.world)
      (decide (((opened registry).readIn longVisit).map (·.id)).Nodup,
        ((opened registry).calls? longVisit).isSome, rows.map (·.id.number),
        [(opened registry).bookedIn longVisit, ((opened registry).topsIn longVisit).length,
          e.world.realm.unended, e.world.realm.failures, fired.1, fired.2.realm.unended,
          fired.2.realm.failures])) =
            some (true, true, [4, 6], [6, 6, 0, 0, 2, 0, 1]) := by
    decide +kernel
  cases hclose : parlour.close with
  | error fault =>
    rw [hclose] at hfacts
    cases hfacts
  | ok registry =>
    rw [hclose] at hfacts
    obtain ⟨hids, hreturn, hrows, hbooked, htops, hcalm, hbefore, hran, hended, hafter⟩ :
        _ ∧ _ ∧ _ ∧ _ ∧ _ ∧ _ ∧ _ ∧ _ ∧ _ ∧ _ := by
      simpa only [Prod.mk.injEq, List.cons.injEq, and_true] using Option.some.inj hfacts
    have hids := of_decide_eq_true hids
    have hcount : (opened registry).bookedIn longVisit ≤ UInt64.size := hbooked ▸ by decide
    obtain ⟨e, hcalls⟩ := Option.isSome_iff_exists.1 hreturn
    obtain ⟨-, -, -, horders, -, -, -, hevents⟩ :=
      serves_loaded hclose .standard risingDice 100 longVisit hcalls hids hcount
    obtain ⟨hearers, horder, -, hwalks, -, -, -, hfailures⟩ := hevents someone
    obtain rfl := eq_calls_of_calls? hcalls
    -- The two triggers stand in one row, so the row need not be sorted.
    have hlisteners := Switchboard.listeners_of_pairwise (k := someone.kind)
      (s := ((opened registry).calls longVisit).world.realm.switchboard)
      (List.pairwise_map.1 (hrows ▸ by decide))
    have hfired : ((opened registry).calls longVisit).world.fire someone = _ :=
      congrArg (World.dispatchTo someone · (0, _)) hlisteners
    have htwo : (((opened registry).calls longVisit).fire someone).1 = 2 :=
      (congrArg Prod.fst hfired).trans hran
    have hone :
        (((opened registry).calls longVisit).fire someone).2.world.realm.failures = 1 :=
      (congrArg (·.2.realm.failures) hfired).trans hafter
    have hquiet : (((opened registry).calls longVisit).call (.fire someone)).world.realm.unended =
        ((opened registry).calls longVisit).world.realm.unended :=
      ((congrArg (·.2.realm.unended) hfired).trans hended).trans hcalm.symm
    refine ⟨registry, _, rfl, hcalls, hids, hcount, horders (htops ▸ by decide), hearers, ?_, horder,
      ?_, ?_⟩
    · rw [← hwalks, List.length_map, ← htwo, fire_eq_replay]
    · rw [fire?, call?, if_pos hquiet, htwo]
      rfl
    · rw [hfailures, hbefore] at hone
      omega

end Engine

end TriggerScript

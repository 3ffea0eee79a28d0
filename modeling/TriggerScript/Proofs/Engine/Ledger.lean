import TriggerScript.Proofs.Engine.Calls

/-!
# Which triggers are in use

Each trigger that has been read belongs to a loaded script or has been taken out of use, and what is
out of use stays so.

* `Engine.Accounts` : the triggers read so far, and those of them that are out of use.
* `Engine.Accounts.call`, `Engine.Accounts.calls` : calls only add to both.
* `Engine.sameStock_call` : nothing but reading registers anything or counts triggers.
* `Engine.script?_call` : which scripts are loaded after a call.
-/

namespace TriggerScript

namespace World

variable {w : World} {t : Trigger}

/-- What a trigger that is put to use or taken out of use leaves alone: what is registered, and the
counter for triggers. -/
structure SameStock (w w' : World) : Prop where
  registry : w'.realm.registry = w.realm.registry
  triggerIds : w'.realm.triggerIds = w.realm.triggerIds

theorem SameStock.trans {w' w'' : World} (h : w.SameStock w') (h' : w'.SameStock w'') :
    w.SameStock w'' :=
  ⟨h'.registry.trans h.registry, h'.triggerIds.trans h.triggerIds⟩

theorem Evolves.sameStock {w' : World} (h : w.Evolves w') : w.SameStock w' :=
  ⟨h.registry, h.triggerIds⟩

theorem stopTimer_frame (w : World) (id : TriggerId) :
    (w.stopTimer id).realm.retired = w.realm.retired ∧ w.SameStock (w.stopTimer id) := by
  unfold stopTimer
  split <;> exact ⟨rfl, rfl, rfl⟩

theorem retire_frame (w : World) (t : Trigger) :
    (w.retire t).realm.retired = t.id :: w.realm.retired ∧ w.SameStock (w.retire t) := by
  let out : World := w.onRealm fun r => { r with retired := t.id :: r.retired }
  unfold retire
  cases t.header with
  | listens listener => exact ⟨rfl, rfl, rfl⟩
  | onLoad => exact ⟨rfl, rfl, rfl⟩
  | every period =>
    obtain ⟨hretired, hregistry, htriggerIds⟩ := out.stopTimer_frame t.id
    exact ⟨hretired, hregistry, htriggerIds⟩

/-- Putting a trigger to use takes none out of use. -/
theorem activate_frame (w : World) (t : Trigger) :
    (w.activate t).realm.retired = w.realm.retired ∧ w.SameStock (w.activate t) := by
  unfold activate
  cases t.header with
  | listens listener => exact ⟨rfl, rfl, rfl⟩
  | onLoad =>
    have hevolves := w.evolves_executePlain t Vocabulary.scriptLoad
    exact ⟨hevolves.retired, hevolves.sameStock⟩
  | every period =>
    let booked : World := { w with agenda := (w.agenda.every period period (.periodic t)).2 }
    obtain ⟨hretired, hregistry, htriggerIds⟩ := booked.stopTimer_frame t.id
    exact ⟨hretired, hregistry, htriggerIds⟩

theorem activateAll_frame (w : World) (ts : List Trigger) :
    (ts.foldl activate w).realm.retired = w.realm.retired ∧ w.SameStock (ts.foldl activate w) := by
  induction ts generalizing w with
  | nil => exact ⟨rfl, rfl, rfl⟩
  | cons t ts ih =>
    obtain ⟨hretired, hstock⟩ := w.activate_frame t
    obtain ⟨hretireds, hstocks⟩ := ih (w.activate t)
    exact ⟨hretireds.trans hretired, hstock.trans hstocks⟩

theorem retireAll_frame (w : World) (ts : List Trigger) :
    (ts.foldl retire w).realm.retired.Perm (ts.map (·.id) ++ w.realm.retired) ∧
      w.SameStock (ts.foldl retire w) := by
  induction ts generalizing w with
  | nil => exact ⟨.refl _, rfl, rfl⟩
  | cons t ts ih =>
    obtain ⟨hretired, hstock⟩ := w.retire_frame t
    obtain ⟨hretireds, hstocks⟩ := ih (w.retire t)
    rw [hretired] at hretireds
    exact ⟨hretireds.trans List.perm_middle, hstock.trans hstocks⟩

theorem evolves_fire (w : World) (e : Occurrence) : w.Evolves (w.fire e).2 := by
  have hdispatch (ts : List Trigger) (n : Nat) (w' : World) (h : w.Evolves w') :
      w.Evolves (dispatchTo e ts (n, w')).2 := by
    induction ts generalizing n w' with
    | nil => exact h
    | cons t ts ih =>
      simp only [dispatchTo]
      split
      · exact ih _ _ (h.trans (w'.evolves_execute t e))
      · exact ih _ _ h
  exact hdispatch _ _ _ (.refl w)

end World

namespace Engine

variable {e : Engine} {read gone : List Trigger} {name : String}

/-- The triggers that have been read are those of loaded scripts and those that are out of use. -/
structure Accounts (e : Engine) (read gone : List Trigger) : Prop where
  names : (e.scripts.map (·.name)).Nodup
  triggers : (e.loaded ++ gone).Perm read
  retired : e.world.realm.retired.Perm (gone.map (·.id))

theorem accounts_new (registry : Registry) (options : Options) (dice : Nat → Dice)
    (stepLimit : Nat) : (Engine.new registry options dice stepLimit).Accounts [] [] where
  names := List.nodup_nil
  triggers := .refl _
  retired := .refl _

theorem Accounts.mem_retired_iff (h : e.Accounts read gone) {id : TriggerId} :
    id ∈ e.world.realm.retired ↔ id ∈ gone.map (·.id) :=
  h.retired.mem_iff

/-- A call that changes neither scripts nor which triggers are out of use. -/
theorem Accounts.onWorld (h : e.Accounts read gone) {w : World}
    (hretired : w.realm.retired = e.world.realm.retired) :
    Accounts { e with world := w } read gone where
  names := h.names
  triggers := h.triggers
  retired := hretired ▸ h.retired

/-- The triggers of the script with a name, and those of the others. -/
theorem perm_loaded (hnames : (e.scripts.map (·.name)).Nodup) (name : String) :
    e.loaded.Perm
      (e.triggersOf name ++ (e.scripts.filter (·.name != name)).flatMap (·.triggers)) := by
  obtain ⟨w, scripts⟩ := e
  simp only [loaded, triggersOf, script?]
  induction scripts with
  | nil => exact .refl _
  | cons s rest ih =>
    obtain ⟨hnot, hrest⟩ := List.nodup_cons.1 hnames
    by_cases hname : s.name = name
    · have hothers : rest.filter (·.name != name) = rest :=
        List.filter_eq_self.2 fun s' hs' => bne_iff_ne.2 fun heq =>
          hnot (List.mem_map.2 ⟨s', hs', heq.trans hname.symm⟩)
      simp [hname, hothers]
    · have hfind : (s.name == name) = false := beq_eq_false_iff_ne.2 hname
      simp only [List.find?_cons, hfind, List.flatMap_cons, List.filter_cons, bne, Bool.not_false,
        if_true]
      refine ((ih hrest).append_left s.triggers).trans ?_
      rw [← List.append_assoc, ← List.append_assoc]
      exact List.perm_append_comm.append_right _

/-- The triggers of a script that is taken out of use are out of use. -/
theorem Accounts.withdraw (h : e.Accounts read gone) (name : String) :
    (e.withdraw name).Accounts read (e.triggersOf name ++ gone) where
  names := h.names.sublist (List.filter_sublist.map _)
  triggers := by
    refine List.Perm.trans ?_ h.triggers
    refine .trans ?_ ((perm_loaded h.names name).append_right gone).symm
    rw [← List.append_assoc]
    exact List.perm_append_comm.append_right gone
  retired := by
    rw [List.map_append]
    exact (World.retireAll_frame ..).1.trans (h.retired.append_left _)

theorem perm_insertScript {s : LoadedScript} {scripts : List LoadedScript} :
    (insertScript s scripts).Perm (s :: scripts) := by
  induction scripts with
  | nil => exact .refl _
  | cons first rest ih =>
    simp only [insertScript]
    split
    · exact (ih.cons first).trans (.swap ..)
    · exact .refl _

/-- The triggers of a script that is put to use are in use. -/
theorem Accounts.put (h : e.Accounts read gone) {s : LoadedScript}
    (hnew : s.name ∉ e.scripts.map (·.name)) : (e.put s).Accounts (read ++ s.triggers) gone where
  names := ((perm_insertScript.map _).nodup_iff).2 (List.nodup_cons.2 ⟨hnew, h.names⟩)
  triggers := by
    have hloaded : (e.put s).loaded.Perm (s.triggers ++ e.loaded) :=
      perm_insertScript.flatMap_right _
    refine (hloaded.append_right gone).trans ?_
    rw [List.append_assoc]
    exact List.perm_append_comm.trans (h.triggers.append_right _)
  retired := (e.world.activateAll_frame s.triggers).1 ▸ h.retired

/-- All triggers are taken out of use. -/
theorem Accounts.withdrawAll (h : e.Accounts read gone) :
    Accounts ⟨e.loaded.foldl World.retire e.world, []⟩ read (e.loaded ++ gone) where
  names := List.nodup_nil
  triggers := h.triggers
  retired := by
    rw [List.map_append]
    exact (World.retireAll_frame ..).1.trans (h.retired.append_left _)

theorem name_notMem_withdraw (e : Engine) (name : String) :
    name ∉ (e.withdraw name).scripts.map (·.name) := by
  intro hmem
  obtain ⟨s, hs, hname⟩ := List.mem_map.1 hmem
  exact bne_iff_ne.1 (List.mem_filter.1 hs).2 hname

/-- Reading a script. -/
theorem Accounts.afterReading (h : e.Accounts read gone) (name source : String) :
    (e.afterReading name source).Accounts read gone :=
  h.onWorld (goes_readScript e.world name source).1.retired

/-- **A call only adds to the triggers that have been read and to those out of use.** -/
theorem Accounts.call (h : e.Accounts read gone) (c : Call) :
    ∃ more, (e.call c).Accounts (read ++ e.reads c) (more ++ gone) := by
  have hplain : e.reads c = [] → (e.call c).Accounts read gone →
      ∃ more, (e.call c).Accounts (read ++ e.reads c) (more ++ gone) := fun hreads h =>
    ⟨[], by rwa [hreads, List.append_nil]⟩
  cases c with
  | load name source =>
    rw [call_load]
    exact ⟨_, ((h.afterReading name source).withdraw name).put (name_notMem_withdraw _ name)⟩
  | unload name =>
    refine ⟨e.triggersOf name, ?_⟩
    rw [Engine.call, unload_eq_withdraw, reads, List.append_nil]
    exact h.withdraw name
  | unloadAll =>
    refine ⟨e.loaded, ?_⟩
    rw [call_unloadAll, reads, List.append_nil]
    exact h.withdrawAll
  | fire event => exact hplain rfl (h.onWorld (e.world.evolves_fire event).retired)
  | tick => exact hplain rfl (h.onWorld e.world.retired_tick)

/-- **So do calls one after the other.** -/
theorem Accounts.calls (h : e.Accounts read gone) (cs : List Call) :
    ∃ more, (e.calls cs).Accounts (read ++ e.readIn cs) (more ++ gone) := by
  induction cs generalizing e read gone with
  | nil => exact ⟨[], by rwa [readIn, gather, List.append_nil]⟩
  | cons c cs ih =>
    obtain ⟨more, hcall⟩ := h.call c
    obtain ⟨further, hcalls⟩ := ih hcall
    rw [List.append_assoc, ← List.append_assoc further] at hcalls
    exact ⟨further ++ more, hcalls⟩

/-! ### What is registered, and the counter for triggers -/

/-- The world when a call has read what it reads. -/
def whenRead (e : Engine) : Call → World
  | .load name source => (readScript e.world name source).2.2
  | .unload _ => e.world
  | .unloadAll => e.world
  | .fire _ => e.world
  | .tick => e.world

theorem sameStock_put (e : Engine) (s : LoadedScript) : e.world.SameStock (e.put s).world :=
  (e.world.activateAll_frame s.triggers).2

theorem sameStock_withdraw (e : Engine) (name : String) :
    e.world.SameStock (e.withdraw name).world :=
  (e.world.retireAll_frame (e.triggersOf name)).2

/-- **Nothing but reading registers anything or counts triggers.** -/
theorem sameStock_call (e : Engine) (c : Call) : (e.whenRead c).SameStock (e.call c).world := by
  cases c with
  | load name source =>
    rw [call_load, whenRead, ← world_afterReading]
    exact (sameStock_withdraw ..).trans (sameStock_put ..)
  | unload name =>
    rw [Engine.call, unload_eq_withdraw]
    exact e.sameStock_withdraw name
  | unloadAll =>
    rw [call_unloadAll]
    exact (e.world.retireAll_frame e.loaded).2
  | fire event => exact (e.world.evolves_fire event).sameStock
  | tick => exact ⟨e.world.registry_tick, e.world.triggerIds_tick⟩

/-! ### Which scripts are loaded -/

theorem of_script? {s : LoadedScript} (h : e.script? name = some s) :
    s ∈ e.scripts ∧ s.name = name := by
  refine ⟨List.mem_of_find?_eq_some h, ?_⟩
  have hfound := List.find?_some h
  exact beq_iff_eq.1 hfound

/-- A trigger of a loaded script is one of the script that is loaded under some name. -/
theorem mem_loaded_iff (hnames : (e.scripts.map (·.name)).Nodup) {t : Trigger} :
    t ∈ e.loaded ↔ ∃ name s, e.script? name = some s ∧ t ∈ s.triggers := by
  rw [loaded, List.mem_flatMap]
  constructor
  · rintro ⟨s, hs, ht⟩
    obtain ⟨s', hs'⟩ := Option.isSome_iff_exists.1
      (List.find?_isSome.2 ⟨s, hs, beq_iff_eq.2 rfl⟩ : (e.script? s.name).isSome)
    obtain ⟨hmem, hname⟩ := of_script? hs'
    obtain rfl := List.inj_on_of_nodup_map hnames hmem hs hname
    exact ⟨_, _, hs', ht⟩
  · rintro ⟨name, s, hs, ht⟩
    exact ⟨s, (of_script? hs).1, ht⟩

/-- The script with a name that should be loaded after a call. -/
def scriptAfter (e : Engine) (name : String) : Call → Option LoadedScript
  | .load other source => if other = name then some (e.reading other source) else e.script? name
  | .unload other => if other = name then none else e.script? name
  | .unloadAll => none
  | .fire _ => e.script? name
  | .tick => e.script? name

theorem script?_withdraw (e : Engine) (other name : String) :
    (e.withdraw other).script? name = if other = name then none else e.script? name := by
  simp only [script?, withdraw, List.find?_filter]
  split
  · next h =>
    refine List.find?_eq_none.2 fun s _ => ?_
    simp [h]
  · next h =>
    refine List.find?_congr fun s _ => ?_
    by_cases hname : s.name = name <;> simp [hname, Ne.symm h]

theorem find?_insertScript {s : LoadedScript} {scripts : List LoadedScript}
    (hnew : s.name ∉ scripts.map (·.name)) (name : String) :
    (insertScript s scripts).find? (·.name == name) =
      if s.name = name then some s else scripts.find? (·.name == name) := by
  induction scripts with
  | nil => by_cases h : s.name = name <;> simp [insertScript, h]
  | cons first rest ih =>
    obtain ⟨hfirst, hrest⟩ := not_or.1 (List.mem_cons.not.1 hnew)
    simp only [insertScript]
    split
    · rw [List.find?_cons, List.find?_cons, ih hrest]
      by_cases h : s.name = name
      · have hne : (first.name == name) = false := beq_eq_false_iff_ne.2 (h ▸ Ne.symm hfirst)
        simp [h, hne]
      · simp [h]
    · by_cases h : s.name = name <;> simp [h]

theorem script?_afterReading (e : Engine) (other source name : String) :
    (e.afterReading other source).script? name = e.script? name := by
  rw [script?, script?, afterReading]

/-- **A call changes only the script with its name,** except that all can be unloaded. -/
theorem script?_call (e : Engine) (c : Call) (name : String) :
    (e.call c).script? name = e.scriptAfter name c := by
  cases c with
  | load other source =>
    rw [call_load]
    refine (find?_insertScript (name_notMem_withdraw _ other) name).trans ?_
    rw [scriptAfter, name_reading]
    split
    · rfl
    · next h =>
      exact ((script?_withdraw ..).trans (if_neg h)).trans (script?_afterReading ..)
  | unload other =>
    rw [Engine.call, unload_eq_withdraw, script?_withdraw]
    rfl
  | unloadAll => rfl
  | fire event => rfl
  | tick => rfl

end Engine

end TriggerScript

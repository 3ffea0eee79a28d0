import TriggerScript.Engine.Loading
import TriggerScript.Proofs.Parsing.Takes
import TriggerScript.Proofs.Registry.Closing
import TriggerScript.Proofs.World.Evolution
import TriggerScript.Engine.Basic
import TriggerScript.Proofs.World.InUse
import TriggerScript.Proofs.World.Walks

/-!
# Calls of the engine

A host calls the engine again and again: it loads scripts, takes them out of use, passes on events
and lets ticks pass. Each call ends before the next one begins. Reading a script gives variables
their default values and takes numbers for triggers. The triggers that are read are not in use
before the script is put to use.

* `Registration.kinds_of_closed` : each header is about some kind of events.
* `Parsing.exists_of_parseHeader` : a header that is read is a registered one.
* `goes_readScript` : reading leaves the triggers in use alone, and the agenda.
* `Engine.Call`, `Engine.calls` : calls, one after the other.
* `Engine.loaded` : the triggers of the loaded scripts.
* `Engine.reads`, `Engine.walks`, `Engine.turns` : the triggers that a call reads, the walks that it
  begins, and the jobs of the agenda that have their turns in it.
* `Engine.gather` : all of these over several calls.
* `Engine.withdraw`, `Engine.put` : what loading and unloading a script is made of.
* `Engine.call?`, `Engine.calls?`, `Engine.fire?` : what comes of calls that return.
* `Engine.isSome_call?_iff` : a call returns exactly if each walk that it begins ends.
-/

namespace TriggerScript

/-! ### Reading scripts -/

/-- Each header of a closed registration is about some kind of events. -/
theorem Registration.kinds_of_closed {r : Registration} {registry : Registry}
    {entries : List (ExpressionEntry Pattern)} (h : r.Closed registry entries)
    {entry : HeaderEntry Pattern} (hentry : entry ∈ registry.headers) : entry.kinds ≠ [] := by
  obtain ⟨header, -, hclose⟩ := exists_of_mem_right h.headers hentry
  unfold closeHeader at hclose
  split at hclose
  · cases hclose
  · next hkinds =>
    cases hpatterns : compileAll r.types header.name header.patterns with
    | error fault =>
      rw [hpatterns] at hclose
      cases hclose
    | ok patterns =>
      rw [hpatterns] at hclose
      cases hclose
      simpa using hkinds

/-- A header that is read is about the kinds of events of a registered one. -/
theorem Parsing.exists_of_parseHeader {registry : Registry} {scope : Scope} {text : String}
    {header : ParsedHeader} (h : (parseHeader registry scope text).result = some header) :
    ∃ entry ∈ registry.headers, header.kinds = entry.kinds := by
  simp only [parseHeader, Attempt.result_framed, result_firstOf] at h
  obtain ⟨entry, hentry, h⟩ := List.exists_of_findSome?_eq_some h
  simp only [tryHeader, Attempt.result_map] at h
  obtain ⟨_, -, rfl⟩ := Option.map_eq_some_iff.1 h
  exact ⟨entry, hentry, rfl⟩

namespace Loading

open TriggerScript.Parsing

/-- What reading keeps: the same triggers are in use, nothing is put onto the agenda, no walk is given
up, and each trigger that has been read is about the kinds of events of a registered header. -/
structure Goes (w : World) (s : Loading) : Prop where
  world : w.SameUse s.world
  agenda : s.world.agenda = w.agenda
  unended : s.world.realm.unended = w.realm.unended
  kinds : ∀ t ∈ s.triggers, ∃ entry ∈ w.realm.registry.headers, t.kinds = entry.kinds

variable {w : World} {s : Loading}

theorem Goes.note (h : s.Goes w) (entries : List Entry) : (s.note entries).Goes w :=
  ⟨h.world, h.agenda, h.unended, h.kinds⟩

theorem Goes.readDefault (h : s.Goes w) (node : Node) : (s.readDefault node).Goes w := by
  unfold Loading.readDefault
  split
  · exact h.note _
  · simp only
    split
    · exact h.note _
    · split
      · exact h.note _
      · split
        · exact ⟨h.world.trans ⟨rfl, rfl, rfl, rfl⟩, h.agenda, h.unended, h.kinds⟩
        · exact (h.note _).note _

theorem Goes.readTrigger (h : s.Goes w) (line : Nat) (key : String) (children : List Node) :
    (s.readTrigger line key children).Goes w := by
  unfold Loading.readTrigger
  simp only
  split
  · exact h.note _
  · next header hheader =>
    split
    · exact (h.note _).note _
    · have hworld : w.SameUse (s.world.onRealm fun r =>
          { r with triggerIds := (s.world.realm.triggerIds.draw TriggerId.limit).2 }) :=
        h.world.trans ⟨rfl, rfl, rfl, rfl⟩
      split
      · exact ⟨hworld, h.agenda, h.unended, h.kinds⟩
      · have hkinds := exists_of_parseHeader hheader
        rw [h.world.registry] at hkinds
        exact ⟨hworld, h.agenda, h.unended,
          List.forall_mem_append.2 ⟨h.kinds, List.forall_mem_singleton.2 hkinds⟩⟩

theorem Goes.readTop (h : s.Goes w) (node : Node) : (s.readTop node).Goes w := by
  unfold Loading.readTop
  split
  · exact h.note _
  · split
    · next children _ =>
      exact List.foldlRecOn (motive := Goes w) children Loading.readDefault h
        fun s h node _ => h.readDefault node
    · exact h.readTrigger ..

end Loading

theorem length_substituteNodes (table : OptionTable) (script : String) (nodes : List Node) :
    (substituteNodes table script nodes).1.length = nodes.length := by
  induction nodes with
  | nil => rfl
  | cons node rest ih =>
    rw [substituteNodes]
    exact congrArg (· + 1) ih

/-- A script is read one line at its top after the other, of those that its text has. -/
theorem exists_readScript (w : World) (name source : String) :
    ∃ (nodes : List Node) (entries : List Entry), nodes.length ≤ (readOutline source).1.length ∧
    let s := nodes.foldl Loading.readTop ⟨name, w, [], .no, [], entries⟩
    readScript w name source =
      (⟨name, none, s.triggers⟩, .ofEntries name s.triggers.length s.entries, s.world) := by
  unfold readScript
  obtain ⟨nodes, errors⟩ := readOutline source
  dsimp only
  obtain ⟨table, optionEntries⟩ := collectOptions name nodes
  dsimp only
  have hlength := length_substituteNodes table name
    (nodes.filter fun node => !isSection "options" node)
  generalize substituteNodes table name (nodes.filter fun node => !isSection "options" node) =
    written at hlength
  exact ⟨written.1, _, hlength.trans_le (List.length_filter_le ..), rfl⟩

/-- **Reading a script leaves the triggers in use alone,** and the agenda. -/
theorem goes_readScript (w : World) (name source : String) :
    w.SameUse (readScript w name source).2.2 ∧
      (readScript w name source).2.2.agenda = w.agenda ∧
      (readScript w name source).2.2.realm.unended = w.realm.unended ∧
      ∀ t ∈ (readScript w name source).1.triggers,
        ∃ entry ∈ w.realm.registry.headers, t.kinds = entry.kinds := by
  obtain ⟨nodes, entries, -, hread⟩ := exists_readScript w name source
  have hstart : Loading.Goes w ⟨name, w, [], .no, [], entries⟩ :=
    ⟨.refl w, rfl, rfl, List.forall_mem_nil _⟩
  have hgoes := List.foldlRecOn (motive := Loading.Goes w) nodes Loading.readTop hstart
    fun s h node _ => h.readTop node
  rw [hread]
  exact ⟨hgoes.world, hgoes.agenda, hgoes.unended, hgoes.kinds⟩

/-! ### Walks that are given up -/

namespace World

theorem unended_stopTimer (w : World) (id : TriggerId) :
    (w.stopTimer id).realm.unended = w.realm.unended := by
  unfold stopTimer
  split <;> rfl

/-- Triggers that are taken out of use do not run. -/
theorem unended_retireAll (w : World) (ts : List Trigger) :
    (ts.foldl retire w).realm.unended = w.realm.unended := by
  refine List.foldlRecOn (motive := fun w' => w'.realm.unended = w.realm.unended) ts retire rfl
    fun w' h t _ => Eq.trans ?_ h
  unfold retire
  cases t.header with
  | listens listener => rfl
  | onLoad => rfl
  | every period => exact unended_stopTimer ..

/-- Of triggers that are put to use, the walks that are given up are counted. -/
theorem unended_activateAll (w : World) (ts : List Trigger) :
    (ts.foldl activate w).realm.unended =
      w.realm.unended + Walk.total Walk.givenUp (activationWalks ts w) := by
  induction ts generalizing w with
  | nil => rfl
  | cons t ts ih =>
    have hfirst : (w.activate t).realm.unended =
        w.realm.unended + Walk.total Walk.givenUp (w.activationWalk t) := by
      unfold activate activationWalk
      cases t.header with
      | listens listener => rfl
      | onLoad => exact Walk.counts_unended.ofKind rfl t _
      | every period => exact unended_stopTimer ..
    rw [List.foldl_cons, ih, hfirst, activationWalks, Walk.total_append, Nat.add_assoc]

end World

/-! ### Calls -/

namespace Engine

/-- A call of the engine. -/
inductive Call where
  | load (name source : String)
  | unload (name : String)
  | unloadAll
  | fire (event : Occurrence)
  | tick

/-- What comes of a call. -/
def call (e : Engine) : Call → Engine
  | .load name source => (e.loadSource name source).2
  | .unload name => (e.unload name).2
  | .unloadAll => e.unloadAll
  | .fire event => (e.fire event).2
  | .tick => e.tick

/-- What comes of calls one after the other. -/
def calls (e : Engine) (cs : List Call) : Engine := cs.foldl call e

/-- The triggers of the loaded scripts. -/
def loaded (e : Engine) : List Trigger := e.scripts.flatMap (·.triggers)

/-! ### Taking scripts out of use and putting them to use -/

/-- The triggers of the script with a name. -/
def triggersOf (e : Engine) (name : String) : List Trigger :=
  ((e.script? name).map (·.triggers)).getD []

/-- Takes the script with a name out of use, if there is one. -/
def withdraw (e : Engine) (name : String) : Engine :=
  ⟨(e.triggersOf name).foldl World.retire e.world, e.scripts.filter (·.name != name)⟩

/-- Puts a script to use. -/
def put (e : Engine) (s : LoadedScript) : Engine :=
  ⟨s.triggers.foldl World.activate e.world, insertScript s e.scripts⟩

/-- The script that a text is read as. -/
def reading (e : Engine) (name source : String) : LoadedScript :=
  (readScript e.world name source).1

/-- The engine when a text has been read. -/
def afterReading (e : Engine) (name source : String) : Engine :=
  { e with world := (readScript e.world name source).2.2 }

theorem world_afterReading (e : Engine) (name source : String) :
    (e.afterReading name source).world = (readScript e.world name source).2.2 := by
  rw [afterReading]

variable {e : Engine} {name source : String} {t : Trigger} {c : Call} {cs : List Call}

theorem script?_eq_none (h : e.script? name = none) :
    e.scripts.filter (·.name != name) = e.scripts := by
  refine List.filter_eq_self.2 fun s hs => bne_iff_ne.2 fun heq => ?_
  exact List.find?_eq_none.1 h s hs (beq_iff_eq.2 heq)

theorem unload_eq_withdraw (e : Engine) (name : String) : (e.unload name).2 = e.withdraw name := by
  unfold unload withdraw triggersOf
  cases h : e.script? name with
  | none => rw [script?_eq_none h]; rfl
  | some script => rfl

theorem install_eq_put (e : Engine) (s : LoadedScript) :
    e.install s = (e.withdraw s.name).put s := by
  unfold install withdraw put triggersOf
  cases e.script? s.name <;> rfl

theorem name_reading (e : Engine) (name source : String) :
    (e.reading name source).name = name := by
  obtain ⟨nodes, entries, -, hread⟩ := exists_readScript e.world name source
  rw [reading, hread]

/-- **Loading a script is reading it, taking the one of this name out of use and putting it to
use.** -/
theorem call_load (e : Engine) (name source : String) : e.call (.load name source) =
    ((e.afterReading name source).withdraw name).put (e.reading name source) := by
  obtain ⟨nodes, entries, -, hread⟩ := exists_readScript e.world name source
  rw [call, loadSource, load, reading, afterReading, hread]
  exact install_eq_put ..

theorem call_unloadAll (e : Engine) :
    e.call .unloadAll = ⟨e.loaded.foldl World.retire e.world, []⟩ := by
  rw [call, unloadAll, loaded, List.foldl_flatMap]
  rfl

/-! ### What happens in calls -/

/-- The triggers that a call reads. -/
def reads (e : Engine) : Call → List Trigger
  | .load name source => (e.reading name source).triggers
  | .unload _ => []
  | .unloadAll => []
  | .fire _ => []
  | .tick => []

/-- The walks that a call begins. -/
def walks (e : Engine) : Call → List Walk
  | .load name source => World.activationWalks (e.reading name source).triggers
      ((e.afterReading name source).withdraw name).world
  | .unload _ => []
  | .unloadAll => []
  | .fire event => e.world.fireWalks event
  | .tick => e.world.tickWalks

/-- The jobs that have their turns in a call, each with what it finds. -/
def turns (e : Engine) : Call → List (Job × World)
  | .load _ _ => []
  | .unload _ => []
  | .unloadAll => []
  | .fire _ => []
  | .tick => e.world.tickTurns

/-- Gathers something over calls. -/
def gather {α : Type} (f : Engine → Call → List α) : Engine → List Call → List α
  | _, [] => []
  | e, c :: cs => f e c ++ gather f (e.call c) cs

/-- The triggers that calls read, in order. -/
def readIn (e : Engine) (cs : List Call) : List Trigger := gather reads e cs

/-- The walks that calls begin, in order. -/
def walksIn (e : Engine) (cs : List Call) : List Walk := gather walks e cs

/-- The jobs that have their turns in calls, in order. -/
def turnsIn (e : Engine) (cs : List Call) : List (Job × World) := gather turns e cs

/-- The items that calls execute, each with its trigger. -/
def itemsIn (e : Engine) (cs : List Call) : List (TriggerId × ItemId) :=
  (e.walksIn cs).flatMap fun x => x.items.map fun item => (x.trigger.id, item)

/-- How many tasks calls put onto the agenda: those that walks book, and those of timers. -/
def bookedIn (e : Engine) (cs : List Call) : Nat :=
  Walk.booked (e.walksIn cs) + ((e.readIn cs).filter (·.isPeriodic)).length

/-! ### Calls that return -/

/-- What comes of a call that returns. One in which a walk is given up does not: the walk might go on
for ever. -/
def call? (e : Engine) (c : Call) : Option Engine :=
  if (e.call c).world.realm.unended = e.world.realm.unended then some (e.call c) else none

/-- What comes of calls one after the other, if each of them returns. -/
def calls? (e : Engine) (cs : List Call) : Option Engine := cs.foldlM call? e

/-- How many triggers run for an event and what comes of it, if it returns. -/
def fire? (e : Engine) (event : Occurrence) : Option (Nat × Engine) :=
  (e.call? (.fire event)).map fun e' => ((e.fire event).1, e')

theorem eq_calls_of_calls? {e' : Engine} (h : e.calls? cs = some e') : e' = e.calls cs := by
  induction cs generalizing e with
  | nil => exact (Option.some.inj h).symm
  | cons c cs ih =>
    obtain ⟨middle, hcall, hcalls⟩ := Option.bind_eq_some_iff.1 h
    obtain ⟨-, heq⟩ := Option.ite_none_right_eq_some.1 hcall
    obtain rfl := Option.some.inj heq
    exact ih hcalls

theorem unended_put (e : Engine) (s : LoadedScript) : (e.put s).world.realm.unended =
    e.world.realm.unended + Walk.total Walk.givenUp (World.activationWalks s.triggers e.world) :=
  World.unended_activateAll ..

theorem unended_withdraw (e : Engine) (name : String) :
    (e.withdraw name).world.realm.unended = e.world.realm.unended :=
  World.unended_retireAll ..

/-- **The walks of a call that are given up are counted.** -/
theorem unended_call (e : Engine) (c : Call) : (e.call c).world.realm.unended =
    e.world.realm.unended + Walk.total Walk.givenUp (e.walks c) := by
  cases c with
  | load name source =>
    rw [call_load, unended_put, unended_withdraw, world_afterReading,
      (goes_readScript e.world name source).2.2.1, walks]
  | unload name =>
    rw [call, unload_eq_withdraw]
    exact e.unended_withdraw name
  | unloadAll =>
    rw [call_unloadAll]
    exact World.unended_retireAll ..
  | fire event => exact Walk.counts_unended.dispatch rfl 0
  | tick => exact Walk.counts_unended.tick rfl

/-- The walks for an event are all that a call does with it, and their number is returned. -/
theorem fire_eq_replay (e : Engine) (event : Occurrence) :
    e.fire event = ((e.walks (.fire event)).length,
      e.onWorld fun w => Walk.replay w (e.walks (.fire event))) := by
  have hfire := World.dispatchTo_eq_replay event
    (e.world.realm.switchboard.listeners event.kind) 0 e.world
  rw [Nat.zero_add] at hfire
  exact congrArg (fun s => (s.1, Engine.mk s.2 e.scripts)) hfire

theorem call?_eq (e : Engine) (c : Call) :
    e.call? c = if (e.walks c).all (·.ends) then some (e.call c) else none := by
  refine if_congr ?_ rfl rfl
  rw [unended_call, List.all_eq_true, ← Walk.total_givenUp_eq_zero_iff]
  omega

/-- **A call returns exactly if each walk that it begins ends.** -/
theorem isSome_call?_iff : (e.call? c).isSome ↔ ∀ x ∈ e.walks c, x.ends := by
  rw [call?_eq, ← List.all_eq_true]
  split <;> simp [*]

end Engine

end TriggerScript

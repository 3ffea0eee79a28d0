import TriggerScript.Proofs.Engine.Ledger

/-!
# Later triggers have higher numbers

Triggers take their numbers from one counter as they are read. As long as the counter does not run
over, the order of the numbers is the order in which triggers are read.

* `World.Draws` : which numbers have been given out from some moment on.
* `draws_readScript` : a script takes one number at most for each node at its top.
* `Engine.topsIn` : the nodes at the tops of the texts that are loaded.
* `Engine.draws_calls` : so the triggers that calls read come in order of their numbers.
-/

namespace TriggerScript

namespace World

/-- The number that the next trigger gets. -/
def nextTrigger (w : World) : Nat := w.realm.triggerIds.next.toNat

/-- From `first` on, at most `n` numbers have been given out, and triggers have got them in order. -/
structure Draws (first n : Nat) (ts : List Trigger) (w : World) : Prop where
  first_le : first ≤ w.nextTrigger
  next_le : w.nextTrigger ≤ first + n
  order : ts.Pairwise Trigger.Before
  range : ∀ t ∈ ts, first ≤ t.id.number ∧ t.id.number < w.nextTrigger

variable {first n m : Nat} {ts us : List Trigger} {w w' : World}

theorem Draws.mono (h : w.Draws first n ts) (hle : n ≤ m) : w.Draws first m ts :=
  { h with next_le := h.next_le.trans (Nat.add_le_add_left hle first) }

/-- No trigger has got a number. -/
theorem draws_none (hfirst : first ≤ w.nextTrigger) (hnext : w.nextTrigger ≤ first + n) :
    w.Draws first n [] :=
  ⟨hfirst, hnext, .nil, List.forall_mem_nil _⟩

/-- More numbers are given out. -/
theorem Draws.append (h : w.Draws first n ts) (h' : w'.Draws w.nextTrigger m us) :
    w'.Draws first (n + m) (ts ++ us) where
  first_le := h.first_le.trans h'.first_le
  next_le := by
    have hfirst := h.next_le
    have hsecond := h'.next_le
    omega
  order := List.pairwise_append.2 ⟨h.order, h'.order, fun t ht u hu =>
    Nat.lt_of_lt_of_le (h.range t ht).2 (h'.range u hu).1⟩
  range := List.forall_mem_append.2
    ⟨fun t ht => ⟨(h.range t ht).1, Nat.lt_of_lt_of_le (h.range t ht).2 h'.first_le⟩,
      fun u hu => ⟨h.first_le.trans (h'.range u hu).1, (h'.range u hu).2⟩⟩

end World

namespace Loading

/-- Reading has gone on and has taken at most `n` more numbers. -/
def Takes (n : Nat) (s s' : Loading) : Prop :=
  ∃ more, s'.triggers = s.triggers ++ more ∧ s'.world.Draws s.world.nextTrigger n more

variable {n m : Nat} {s s' s'' : Loading}

theorem takes_none (hnext : s'.world.nextTrigger = s.world.nextTrigger)
    (htriggers : s'.triggers = s.triggers) : Takes n s s' :=
  ⟨[], htriggers.trans (List.append_nil _).symm,
    World.draws_none hnext.ge (hnext ▸ Nat.le_add_right ..)⟩

theorem Takes.trans (h : Takes n s s') (h' : Takes m s' s'') : Takes (n + m) s s'' := by
  obtain ⟨ts, htriggers, hdraws⟩ := h
  obtain ⟨us, htriggers', hdraws'⟩ := h'
  exact ⟨ts ++ us, by rw [htriggers', htriggers, List.append_assoc], hdraws.append hdraws'⟩

theorem frame_readDefault (s : Loading) (node : Node) :
    (s.readDefault node).world.nextTrigger = s.world.nextTrigger ∧
      (s.readDefault node).triggers = s.triggers := by
  unfold readDefault
  split
  · exact ⟨rfl, rfl⟩
  · simp only
    split
    · exact ⟨rfl, rfl⟩
    · split
      · exact ⟨rfl, rfl⟩
      · split <;> exact ⟨rfl, rfl⟩

theorem frame_readDefaults (s : Loading) (nodes : List Node) :
    (nodes.foldl readDefault s).world.nextTrigger = s.world.nextTrigger ∧
      (nodes.foldl readDefault s).triggers = s.triggers := by
  induction nodes generalizing s with
  | nil => exact ⟨rfl, rfl⟩
  | cons node nodes ih =>
    obtain ⟨hnext, htriggers⟩ := s.frame_readDefault node
    exact ⟨(ih _).1.trans hnext, (ih _).2.trans htriggers⟩

/-- A trigger that is read takes the number that is next, if it is in range. -/
theorem takes_readTrigger (hroom : s.world.nextTrigger + 1 < UInt64.size) (line : Nat)
    (key : String) (children : List Node) : Takes 1 s (s.readTrigger line key children) := by
  -- The counter itself does not run over.
  have hnext : (s.world.realm.triggerIds.next + 1).toNat = s.world.nextTrigger + 1 := by
    rw [UInt64.toNat_add]
    exact Nat.mod_eq_of_lt hroom
  have hfirst : s.world.nextTrigger ≤ (s.world.realm.triggerIds.next + 1).toNat :=
    hnext ▸ Nat.le_succ _
  unfold Loading.readTrigger
  simp only
  split
  · exact takes_none rfl rfl
  · split
    · exact takes_none rfl rfl
    · split
      · exact ⟨[], (List.append_nil _).symm, World.draws_none hfirst hnext.le⟩
      · next id hid =>
        have hnumber : id = s.world.nextTrigger := by
          simp only [Counter.draw] at hid
          split at hid
          · exact (Option.some.inj hid).symm
          · cases hid
        have hlast : id < (s.world.realm.triggerIds.next + 1).toNat := by
          rw [hnext, hnumber]
          exact Nat.lt_succ_self _
        exact ⟨_, rfl, hfirst, hnext.le, List.pairwise_singleton ..,
          List.forall_mem_singleton.2 ⟨hnumber.ge, hlast⟩⟩

/-- Each node at the top of a script takes one number at most. -/
theorem takes_readTop (hroom : s.world.nextTrigger + 1 < UInt64.size) (node : Node) :
    Takes 1 s (s.readTop node) := by
  unfold Loading.readTop
  split
  · exact takes_none rfl rfl
  · split
    · next children _ =>
      obtain ⟨hnext, htriggers⟩ := s.frame_readDefaults children
      exact takes_none hnext htriggers
    · exact takes_readTrigger hroom ..

theorem takes_readTops (nodes : List Node)
    (hroom : s.world.nextTrigger + nodes.length < UInt64.size) :
    Takes nodes.length s (nodes.foldl Loading.readTop s) := by
  induction nodes generalizing s with
  | nil => exact takes_none rfl rfl
  | cons node nodes ih =>
    rw [List.length_cons] at hroom ⊢
    have hfirst := s.takes_readTop (by omega) node
    have hmoved := hfirst.choose_spec.2.next_le
    rw [Nat.add_comm]
    exact hfirst.trans (ih (by omega))

end Loading

/-- **A script takes one number at most for each node at its top,** and its triggers get theirs in
order. -/
theorem draws_readScript (w : World) (name source : String)
    (hroom : w.nextTrigger + (readOutline source).1.length < UInt64.size) :
    (readScript w name source).2.2.Draws w.nextTrigger (readOutline source).1.length
      (readScript w name source).1.triggers := by
  obtain ⟨nodes, entries, hlength, hread⟩ := exists_readScript w name source
  obtain ⟨more, htriggers, hdraws⟩ := Loading.takes_readTops (s := ⟨name, w, [], .no, [], entries⟩)
    nodes (Nat.lt_of_le_of_lt (Nat.add_le_add_left hlength _) hroom)
  rw [hread]
  dsimp only
  rw [htriggers]
  exact hdraws.mono hlength

namespace Engine

/-- The nodes at the top of the text that a call reads. -/
def tops : Call → List Node
  | .load _ source => (readOutline source).1
  | .unload _ => []
  | .unloadAll => []
  | .fire _ => []
  | .tick => []

/-- The nodes at the tops of the texts that calls read, in order. -/
def topsIn (e : Engine) (cs : List Call) : List Node := gather (fun _ => tops) e cs

/-- Only reading takes numbers. -/
theorem draws_call (e : Engine) (c : Call)
    (hroom : e.world.nextTrigger + (tops c).length < UInt64.size) :
    (e.call c).world.Draws e.world.nextTrigger (tops c).length (e.reads c) := by
  have hnext : (e.call c).world.nextTrigger = (e.whenRead c).nextTrigger :=
    congrArg (·.next.toNat) (e.sameStock_call c).triggerIds
  have hread : (e.whenRead c).Draws e.world.nextTrigger (tops c).length (e.reads c) := by
    cases c with
    | load name source =>
      rw [whenRead, reads, reading]
      exact draws_readScript e.world name source hroom
    | unload name => exact World.draws_none (Nat.le_refl _) (Nat.le_refl _)
    | unloadAll => exact World.draws_none (Nat.le_refl _) (Nat.le_refl _)
    | fire event => exact World.draws_none (Nat.le_refl _) (Nat.le_refl _)
    | tick => exact World.draws_none (Nat.le_refl _) (Nat.le_refl _)
  exact ⟨hnext ▸ hread.first_le, hnext ▸ hread.next_le, hread.order, hnext ▸ hread.range⟩

/-- **The triggers that calls read come in order of their numbers.** -/
theorem draws_calls (e : Engine) (cs : List Call)
    (hroom : e.world.nextTrigger + (e.topsIn cs).length < UInt64.size) :
    (e.calls cs).world.Draws e.world.nextTrigger (e.topsIn cs).length (e.readIn cs) := by
  induction cs generalizing e with
  | nil => exact World.draws_none (Nat.le_refl _) (Nat.le_refl _)
  | cons c cs ih =>
    simp only [topsIn, gather, List.length_append] at hroom ⊢
    have hfirst := e.draws_call c (by omega)
    have hmoved := hfirst.next_le
    exact hfirst.append (ih (e.call c) (by rw [topsIn]; omega))

end Engine

end TriggerScript

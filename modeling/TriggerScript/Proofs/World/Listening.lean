import TriggerScript.World.Switchboard
import Mathlib.Data.List.Basic

/-!
# Who listens to what

Each row of the switchboard is in order and has each trigger once, and so are the triggers for an
event, although several of their rows can have the same trigger.

* `Switchboard.Ordered` : no kind of events has two rows, and each row is in order.
* `Switchboard.mem_row_register`, `Switchboard.mem_row_unregister` : what is in a row afterwards.
* `Switchboard.mem_listeners`, `Switchboard.pairwise_listeners` : the triggers for an event.
-/

namespace TriggerScript

/-- The first trigger comes before the second. -/
def Trigger.Before (t u : Trigger) : Prop := t.id.number < u.id.number

theorem TriggerId.eq_of_number {i j : TriggerId} (h : i.number = j.number) : i = j := by
  obtain ⟨i⟩ := i
  obtain ⟨j⟩ := j
  exact congrArg TriggerId.mk h

namespace Switchboard

/-! ### One row -/

section Row

variable {t u : Trigger} {list : List Trigger}

theorem mem_insertTrigger : u ∈ insertTrigger t list ↔ u = t ∨ u ∈ list := by
  induction list with
  | nil => simp [insertTrigger]
  | cons v rest ih =>
    simp only [insertTrigger]
    split
    · simp only [List.mem_cons, ih]
      exact or_left_comm
    · simp only [List.mem_cons]

theorem pairwise_insertTrigger (h : list.Pairwise Trigger.Before) (hnew : ∀ u ∈ list, u.id ≠ t.id) :
    (insertTrigger t list).Pairwise Trigger.Before := by
  induction list with
  | nil => exact List.pairwise_singleton ..
  | cons v rest ih =>
    obtain ⟨hv, hrest⟩ := List.pairwise_cons.1 h
    simp only [insertTrigger]
    split
    · next hlt =>
      refine List.pairwise_cons.2 ⟨fun u hu => ?_, ih hrest fun u hu =>
        hnew u (List.mem_cons_of_mem _ hu)⟩
      obtain rfl | hu := mem_insertTrigger.1 hu
      · exact hlt
      · exact hv u hu
    · next hle =>
      have hne : v.id.number ≠ t.id.number := fun heq =>
        hnew v List.mem_cons_self (TriggerId.eq_of_number heq)
      have hlt : t.id.number < v.id.number := by omega
      refine List.pairwise_cons.2 ⟨fun u hu => ?_, h⟩
      obtain rfl | hu := List.mem_cons.1 hu
      · exact hlt
      · exact Nat.lt_trans hlt (hv u hu)

theorem addTo_of_mem (h : t ∈ list) : addTo t list = list := by
  have hany : (list.any (·.id == t.id)) = true := List.any_eq_true.2 ⟨t, h, beq_iff_eq.2 rfl⟩
  exact if_pos hany

theorem addTo_of_new (h : ∀ u ∈ list, u.id ≠ t.id) : addTo t list = insertTrigger t list :=
  if_neg fun hany => by
    obtain ⟨u, hu, heq⟩ := List.any_eq_true.1 hany
    exact h u hu (beq_iff_eq.1 heq)

theorem pairwise_addTo (h : list.Pairwise Trigger.Before) :
    (addTo t list).Pairwise Trigger.Before := by
  unfold addTo
  split
  · exact h
  · next hnew =>
    refine pairwise_insertTrigger h fun u hu heq => hnew ?_
    exact List.any_eq_true.2 ⟨u, hu, beq_iff_eq.2 heq⟩

end Row

/-! ### All rows -/

/-- No kind of events has two rows, and each row is in order. -/
structure Ordered (s : Switchboard) : Prop where
  kinds : (s.rows.map (·.1)).Nodup
  rows : ∀ row ∈ s.rows, row.2.Pairwise Trigger.Before

variable {s : Switchboard} {t u : Trigger} {kind kind' : String}
  {rows : List (String × List Trigger)}

theorem ordered_empty : empty.Ordered := ⟨List.nodup_nil, List.forall_mem_nil _⟩

/-- The row of a kind of events in a list of rows. -/
def rowOf (rows : List (String × List Trigger)) (kind : String) : List Trigger :=
  (rows.lookup kind).getD []

theorem rowOf_cons (row : String × List Trigger) :
    rowOf (row :: rows) kind = if kind = row.1 then row.2 else rowOf rows kind := by
  obtain ⟨k, ts⟩ := row
  rw [rowOf, List.lookup_cons]
  by_cases h : kind = k
  · simp [h]
  · have hne : (kind == k) = false := beq_eq_false_iff_ne.2 h
    simp [h, hne, rowOf]

theorem rowOf_addRow : rowOf (addRow kind t rows) kind' =
    if kind' = kind then addTo t (rowOf rows kind) else rowOf rows kind' := by
  induction rows with
  | nil =>
    rw [addRow, rowOf_cons]
    rfl
  | cons row rest ih =>
    simp only [addRow, beq_iff_eq]
    by_cases hrow : row.1 = kind
    · rw [if_pos hrow, rowOf_cons, rowOf_cons, rowOf_cons]
      by_cases hkind : kind' = kind <;> simp [hrow, hkind]
    · rw [if_neg hrow, rowOf_cons, rowOf_cons, rowOf_cons, ih, if_neg (Ne.symm hrow)]
      by_cases hkind : kind' = kind
      · simp [hkind, Ne.symm hrow]
      · simp [hkind]

theorem map_fst_addRow_of_mem (h : kind ∈ rows.map (·.1)) :
    (addRow kind t rows).map (·.1) = rows.map (·.1) := by
  induction rows with
  | nil => cases h
  | cons row rest ih =>
    simp only [addRow, beq_iff_eq]
    split
    · rfl
    · next hne =>
      obtain rfl | h := List.mem_cons.1 h
      · exact absurd rfl hne
      · simp [ih h]

theorem map_fst_addRow_of_not_mem (h : kind ∉ rows.map (·.1)) :
    (addRow kind t rows).map (·.1) = rows.map (·.1) ++ [kind] := by
  induction rows with
  | nil => rfl
  | cons row rest ih =>
    obtain ⟨hne, h⟩ := not_or.1 (List.mem_cons.not.1 h)
    simp [addRow, Ne.symm hne, ih h]

theorem mem_addRow {row : String × List Trigger} (h : row ∈ addRow kind t rows) :
    row ∈ rows ∨ row = (kind, [t]) ∨ ∃ old ∈ rows, row = (old.1, addTo t old.2) := by
  induction rows with
  | nil => exact .inr (.inl (List.mem_singleton.1 h))
  | cons old rest ih =>
    simp only [addRow] at h
    split at h
    · obtain rfl | h := List.mem_cons.1 h
      · exact .inr (.inr ⟨old, List.mem_cons_self, rfl⟩)
      · exact .inl (List.mem_cons_of_mem _ h)
    · obtain rfl | h := List.mem_cons.1 h
      · exact .inl List.mem_cons_self
      · obtain h | h | ⟨old', hold, h⟩ := ih h
        · exact .inl (List.mem_cons_of_mem _ h)
        · exact .inr (.inl h)
        · exact .inr (.inr ⟨old', List.mem_cons_of_mem _ hold, h⟩)

theorem Ordered.withRow (h : s.Ordered) (kind : String) (t : Trigger) :
    Ordered ⟨addRow kind t s.rows⟩ where
  kinds := by
    by_cases hmem : kind ∈ s.rows.map (·.1)
    · exact (map_fst_addRow_of_mem hmem).symm ▸ h.kinds
    · have hnew : (s.rows.map (·.1) ++ [kind]).Nodup :=
        (List.perm_append_singleton ..).nodup_iff.2 (List.nodup_cons.2 ⟨hmem, h.kinds⟩)
      exact (map_fst_addRow_of_not_mem hmem).symm ▸ hnew
  rows row hrow := by
    obtain hrow | rfl | ⟨old, hold, rfl⟩ := mem_addRow hrow
    · exact h.rows row hrow
    · exact List.pairwise_singleton ..
    · exact pairwise_addTo (h.rows old hold)

/-! ### Registering -/

theorem Ordered.register (h : s.Ordered) (t : Trigger) : (s.register t).Ordered := by
  have hfold (kinds : List EventKind) (rows : List (String × List Trigger))
      (hrows : Ordered ⟨rows⟩) :
      Ordered ⟨kinds.foldl (fun rows kind => addRow kind.name t rows) rows⟩ := by
    induction kinds generalizing rows with
    | nil => exact hrows
    | cons kind kinds ih => exact ih _ (hrows.withRow kind.name t)
  exact hfold t.kinds s.rows h

/-- A new trigger is in the rows of its kinds. -/
theorem mem_row_register (hnew : ∀ kind, ∀ u ∈ s.row kind, u.id ≠ t.id) :
    u ∈ (s.register t).row kind ↔ u ∈ s.row kind ∨ u = t ∧ kind ∈ t.kinds.map (·.name) := by
  -- Of the kinds so far, each has the trigger in its row.
  have hfold (kinds : List EventKind) (rows : List (String × List Trigger))
      (hrows : ∀ kind, (∀ u ∈ rowOf rows kind, u.id ≠ t.id) ∨ t ∈ rowOf rows kind) :
      u ∈ rowOf (kinds.foldl (fun rows kind => addRow kind.name t rows) rows) kind ↔
        u ∈ rowOf rows kind ∨ u = t ∧ kind ∈ kinds.map (·.name) := by
    induction kinds generalizing rows with
    | nil => simp
    | cons first kinds ih =>
      have hmem : ∀ v kind', v ∈ rowOf (addRow first.name t rows) kind' ↔
          v ∈ rowOf rows kind' ∨ v = t ∧ kind' = first.name := by
        intro v kind'
        rw [rowOf_addRow]
        by_cases hkind : kind' = first.name
        · subst hkind
          obtain hfresh | hthere := hrows first.name
          · simp [addTo_of_new hfresh, mem_insertTrigger, or_comm]
          · rw [if_pos rfl, addTo_of_mem hthere]
            exact ⟨.inl, fun h => h.elim id fun h => h.1 ▸ hthere⟩
        · simp [hkind]
      rw [List.foldl_cons, ih, hmem, List.map_cons, List.mem_cons]
      · tauto
      · intro kind'
        by_cases hkind : kind' = first.name
        · exact .inr ((hmem t kind').2 (.inr ⟨rfl, hkind⟩))
        · refine (hrows kind').imp (fun hfresh v hv => ?_) fun hthere =>
            (hmem t kind').2 (.inl hthere)
          exact hfresh v (((hmem v kind').1 hv).resolve_right fun h => hkind h.2)
  exact hfold t.kinds s.rows fun kind => .inl (hnew kind)

/-! ### Unregistering -/

theorem Ordered.unregister (h : s.Ordered) (id : TriggerId) : (s.unregister id).Ordered where
  kinds := by
    refine List.Sublist.nodup (List.Sublist.map _ List.filter_sublist) ?_
    simpa [Function.comp_def] using h.kinds
  rows row hrow := by
    obtain ⟨old, hold, rfl⟩ := List.mem_map.1 (List.mem_of_mem_filter hrow)
    exact (h.rows old hold).filter _

/-- A trigger that is unregistered is in no row any more. -/
theorem row_unregister (h : s.Ordered) (id : TriggerId) (kind : String) :
    (s.unregister id).row kind = (s.row kind).filter (·.id != id) := by
  have hrows (rows : List (String × List Trigger)) (hkinds : (rows.map (·.1)).Nodup) :
      rowOf ((rows.map fun row => (row.1, row.2.filter (·.id != id))).filter (!·.2.isEmpty)) kind =
        (rowOf rows kind).filter (·.id != id) := by
    induction rows with
    | nil => rfl
    | cons row rest ih =>
      obtain ⟨hnot, hrest⟩ := List.nodup_cons.1 hkinds
      rw [List.map_cons, List.filter_cons, rowOf_cons]
      by_cases hkind : kind = row.1
      · rw [if_pos hkind]
        split
        · rw [rowOf_cons, if_pos hkind]
        · next hempty =>
          -- The row is left out, and there is no other one of this kind.
          have hnone : rowOf rest kind = [] := by
            rw [rowOf, List.lookup_eq_none_iff.2 fun row' hrow' => ?_]
            · rfl
            · refine bne_iff_ne.2 ?_
              intro heq
              exact hnot (List.mem_map.2 ⟨row', hrow', heq.symm.trans hkind⟩)
          rw [ih hrest, hnone]
          simpa using hempty
      · rw [if_neg hkind]
        split
        · rw [rowOf_cons, if_neg hkind, ih hrest]
        · exact ih hrest
  exact hrows s.rows h.kinds

theorem mem_row_unregister (h : s.Ordered) {id : TriggerId} :
    u ∈ (s.unregister id).row kind ↔ u ∈ s.row kind ∧ u.id ≠ id := by
  rw [row_unregister h, List.mem_filter, bne_iff_ne]

/-! ### Triggers for an event -/

/-- A repeat is left out; it is the same trigger. -/
theorem dropRepeats_cons_cons {rest : List Trigger} (h : t.id = u.id → t = u) :
    dropRepeats (t :: u :: rest) =
      if t.id = u.id then dropRepeats (u :: rest) else t :: dropRepeats (u :: rest) := by
  have hhead (v : Trigger) (l : List Trigger) : ∃ others, dropRepeats (v :: l) = v :: others := by
    cases l with
    | nil => exact ⟨[], rfl⟩
    | cons x l =>
      simp only [dropRepeats]
      split
      · split <;> exact ⟨_, rfl⟩
      · exact ⟨_, rfl⟩
  simp only [dropRepeats, beq_iff_eq]
  split
  · next heq =>
    obtain ⟨others, hothers⟩ := hhead u rest
    rw [hothers, h heq]
  · rfl

theorem mem_dropRepeats {l : List Trigger} (h : ∀ t ∈ l, ∀ u ∈ l, t.id = u.id → t = u) :
    u ∈ dropRepeats l ↔ u ∈ l := by
  induction l with
  | nil => rfl
  | cons t l ih =>
    have hrest := ih fun t ht u hu =>
      h t (List.mem_cons_of_mem _ ht) u (List.mem_cons_of_mem _ hu)
    cases l with
    | nil => rfl
    | cons v rest =>
      have heq := h t List.mem_cons_self v (List.mem_cons_of_mem _ List.mem_cons_self)
      rw [dropRepeats_cons_cons heq]
      split
      · next hid =>
        rw [hrest, heq hid]
        simp
      · rw [List.mem_cons, hrest, List.mem_cons (l := v :: rest)]

theorem pairwise_dropRepeats {l : List Trigger} (h : ∀ t ∈ l, ∀ u ∈ l, t.id = u.id → t = u)
    (hsorted : l.Pairwise fun t u => t.id.number ≤ u.id.number) :
    (dropRepeats l).Pairwise Trigger.Before := by
  induction l with
  | nil => exact List.Pairwise.nil
  | cons t l ih =>
    have hinj : ∀ t ∈ l, ∀ u ∈ l, t.id = u.id → t = u := fun t ht u hu =>
      h t (List.mem_cons_of_mem _ ht) u (List.mem_cons_of_mem _ hu)
    obtain ⟨hle, hl⟩ := List.pairwise_cons.1 hsorted
    have hrest := ih hinj hl
    cases l with
    | nil => exact List.pairwise_singleton ..
    | cons v rest =>
      have hv : v ∈ t :: v :: rest := List.mem_cons_of_mem _ List.mem_cons_self
      rw [dropRepeats_cons_cons (h t List.mem_cons_self v hv)]
      split
      · exact hrest
      · next hne =>
        refine List.pairwise_cons.2 ⟨fun u hu => ?_, hrest⟩
        have htv : t.id.number < v.id.number :=
          Nat.lt_of_le_of_ne (hle v List.mem_cons_self) fun heq => hne (TriggerId.eq_of_number heq)
        obtain rfl | hu := List.mem_cons.1 ((mem_dropRepeats hinj).1 hu)
        · exact htv
        · exact Nat.lt_of_lt_of_le htv ((List.pairwise_cons.1 hl).1 u hu)

/-- All rows for an event, one after the other, in order. -/
theorem pairwise_mergeSort_number (l : List Trigger) :
    (l.mergeSort fun t u => t.id.number ≤ u.id.number).Pairwise
      fun t u => t.id.number ≤ u.id.number := by
  refine (List.pairwise_mergeSort (fun t u v htu huv => ?_) (fun t u => ?_) l).imp of_decide_eq_true
  · exact decide_eq_true (Nat.le_trans (of_decide_eq_true htu) (of_decide_eq_true huv))
  · simpa using Nat.le_total t.id.number u.id.number

/-- Rows that are in order when they are put together need not be sorted. -/
theorem listeners_of_pairwise {k : EventKind}
    (h : (k.lineage.flatMap s.row).Pairwise fun t u => t.id.number ≤ u.id.number) :
    s.listeners k = dropRepeats (k.lineage.flatMap s.row) := by
  rw [listeners, List.mergeSort_of_pairwise (h.imp decide_eq_true)]

variable (hdistinct : ∀ kind kind' t u, t ∈ s.row kind → u ∈ s.row kind' → t.id = u.id → t = u)

include hdistinct

theorem eq_of_mem_rows (k : EventKind) : ∀ t ∈ (k.lineage.flatMap s.row).mergeSort
    (fun t u => t.id.number ≤ u.id.number), ∀ u ∈ (k.lineage.flatMap s.row).mergeSort
    (fun t u => t.id.number ≤ u.id.number), t.id = u.id → t = u := by
  intro t ht u hu
  obtain ⟨kind, -, ht⟩ := List.mem_flatMap.1 ((List.mergeSort_perm ..).mem_iff.1 ht)
  obtain ⟨kind', -, hu⟩ := List.mem_flatMap.1 ((List.mergeSort_perm ..).mem_iff.1 hu)
  exact hdistinct kind kind' t u ht hu

/-- The triggers for an event are those in the row of its kind or of one it derives from. -/
theorem mem_listeners {k : EventKind} :
    t ∈ s.listeners k ↔ ∃ kind ∈ k.lineage, t ∈ s.row kind := by
  rw [listeners, mem_dropRepeats (eq_of_mem_rows hdistinct k),
    (List.mergeSort_perm ..).mem_iff, List.mem_flatMap]

/-- **The triggers for an event come in order, each once.** -/
theorem pairwise_listeners (k : EventKind) : (s.listeners k).Pairwise Trigger.Before :=
  pairwise_dropRepeats (eq_of_mem_rows hdistinct k) (pairwise_mergeSort_number _)

end Switchboard

end TriggerScript

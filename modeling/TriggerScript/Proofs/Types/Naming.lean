import TriggerScript.Proofs.Text.Trimming
import TriggerScript.Types.Table
import Mathlib.Data.List.Pairwise

/-!
# The names of types

No two types of a table share a name, whatever the letter case, since a type with a name that is in
use is turned away. So a type is found by the names that it was registered with.

* `TypeInfo.names`, `TypeInfo.form` : the names of a type in lower case, and as they were given.
* `TypeTable.Registered` : the tables that arise by adding one type after the other.
* `Registered.pairwise_names` : no two types of such a table share a name.
* `Registered.lookup?_form` : a type is found by its singular and by its plural.
-/

namespace TriggerScript

namespace TypeInfo

/-- The names of a type in lower case. -/
def names (info : TypeInfo) : List String :=
  [Text.lowerString info.singular, Text.lowerString info.plural]

/-- The plural or the singular of a type. -/
def form (info : TypeInfo) (plural : Bool) : String :=
  if plural then info.plural else info.singular

theorem answersTo?_eq_none_iff {info : TypeInfo} {name : String} :
    info.answersTo? name = none ↔ name ∉ info.names := by
  unfold answersTo?
  split
  · next h => simpa [names] using fun hne => absurd (beq_iff_eq.1 h).symm hne
  · next hsingular =>
    split
    · next h => simpa [names] using fun _ => (beq_iff_eq.1 h).symm
    · next hplural =>
      rw [beq_iff_eq] at hsingular hplural
      simpa [names] using ⟨Ne.symm hsingular, Ne.symm hplural⟩

/-- A type answers to its forms; to its plural as such only if its singular is another name. -/
theorem answersTo?_form {info : TypeInfo} {plural : Bool}
    (h : plural = true → Text.lowerString info.singular ≠ Text.lowerString info.plural) :
    info.answersTo? (Text.lowerString (info.form plural)) = some plural := by
  cases plural with
  | false => simp [answersTo?, form]
  | true => simp [answersTo?, form, h rfl]

end TypeInfo

namespace TypeTable

/-- Tables that arise by adding one type after the other. -/
inductive Registered : TypeTable → Prop where
  | empty : Registered empty
  | register {table table' : TypeTable} {info : TypeInfo} (h : Registered table)
      (hinfo : table.register info = .ok table') : Registered table'

theorem byName?_eq_none_iff {table : TypeTable} {name : String} :
    table.byName? name = none ↔ ∀ info ∈ table.infos, name ∉ info.names := by
  simp only [byName?, List.findSome?_eq_none_iff, Option.map_eq_none_iff,
    TypeInfo.answersTo?_eq_none_iff]

/-- A type is added at the end, and only if none of its names is in use. -/
theorem register_eq_ok {table table' : TypeTable} {info : TypeInfo}
    (h : table.register info = .ok table') : table'.infos = table.infos ++ [info] ∧
      ∀ other ∈ table.infos, ∀ name ∈ info.names, name ∉ other.names := by
  unfold register at h
  split at h
  · cases h
  · simp only at h
    split at h
    · cases h
    · next hnone =>
      cases h
      rw [List.findSome?_eq_none_iff] at hnone
      refine ⟨rfl, fun other hother name hname => ?_⟩
      exact byName?_eq_none_iff.1 (Option.map_eq_none_iff.1 (hnone name hname)) other hother

namespace Registered

variable {table : TypeTable}

theorem pairwise_names (h : table.Registered) :
    table.infos.Pairwise fun a b => ∀ name ∈ b.names, name ∉ a.names := by
  induction h with
  | empty => exact .nil
  | register _ hinfo ih =>
    obtain ⟨hinfos, hnew⟩ := register_eq_ok hinfo
    rw [hinfos]
    exact List.pairwise_append.2 ⟨ih, List.pairwise_singleton _ _, fun other hother info hmem =>
      List.mem_singleton.1 hmem ▸ hnew other hother⟩

/-- A type is found by what it answers to: no type before it does so too. -/
theorem byName?_of_mem (h : table.Registered) {info : TypeInfo} (hinfo : info ∈ table.infos)
    {name : String} {plural : Bool} (hname : info.answersTo? name = some plural) :
    table.byName? name = some (info, plural) := by
  have hown : name ∈ info.names := by
    by_contra hnot
    rw [TypeInfo.answersTo?_eq_none_iff.2 hnot] at hname
    cases hname
  obtain ⟨before, after, hsplit⟩ := List.append_of_mem hinfo
  have hbefore : ∀ other ∈ before, other.answersTo? name = none := by
    intro other hother
    have hpairwise := h.pairwise_names
    rw [hsplit, List.pairwise_append] at hpairwise
    exact TypeInfo.answersTo?_eq_none_iff.2
      (hpairwise.2.2 other hother info List.mem_cons_self name hown)
  have hnone : (before.findSome? fun other =>
      (other.answersTo? name).map fun plural => (other, plural)) = none :=
    List.findSome?_eq_none_iff.2 fun other hother => by rw [hbefore other hother]; rfl
  rw [byName?, hsplit, List.findSome?_append, hnone, Option.none_or, List.findSome?_cons, hname]
  rfl

/-- **A type is found by its singular and by its plural**, unless the two are the same. -/
theorem lookup?_form (h : table.Registered) {info : TypeInfo} (hinfo : info ∈ table.infos)
    {plural : Bool} (htrimmed : Text.Trimmed (info.form plural).toList)
    (hdistinct : plural = true →
      Text.lowerString info.singular ≠ Text.lowerString info.plural) :
    table.lookup? (info.form plural) = some (info, plural) := by
  rw [lookup?, Text.trimString, Text.trim_of_trimmed htrimmed, String.ofList_toList]
  exact h.byName?_of_mem hinfo (TypeInfo.answersTo?_form hdistinct)

end Registered

end TypeTable

end TriggerScript

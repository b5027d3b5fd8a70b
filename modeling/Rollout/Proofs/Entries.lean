import Mathlib.Data.List.Induction
import Mathlib.Data.List.Nodup
import Rollout.Json.Basic

/-!
Lists of named values. Writing a name keeps its place, so what is found under a
name is what was written to it last.
-/

namespace Rollout

variable {α : Type} {key other : String} {value : α} {entries : List (String × α)}

theorem lookup_upsert : (upsert key value entries).lookup key = some value := by
  induction entries with
  | nil => simp [upsert]
  | cons entry rest ih =>
      obtain ⟨name, known⟩ := entry
      by_cases same : name = key
      · simp [upsert, same]
      · have differs : (key == name) = false := by simpa using Ne.symm same
        simp only [upsert, if_neg same, List.lookup_cons, differs, ih]

theorem lookup_upsert_ne (apart : other ≠ key) :
    (upsert key value entries).lookup other = entries.lookup other := by
  induction entries with
  | nil => simp [upsert, apart]
  | cons entry rest ih =>
      obtain ⟨name, known⟩ := entry
      by_cases same : name = key
      · subst same
        have differs : (other == name) = false := by simpa using apart
        simp [upsert, List.lookup_cons, differs]
      · simp only [upsert, if_neg same, List.lookup_cons, ih]

theorem lookup_filter (dropped : List String) :
    (entries.filter fun entry => !dropped.contains entry.1).lookup other =
      if other ∈ dropped then none else entries.lookup other := by
  induction entries with
  | nil => simp
  | cons entry rest ih =>
      obtain ⟨name, known⟩ := entry
      by_cases same : other = name
      · subst same
        by_cases gone : other ∈ dropped
        · simpa [gone] using ih
        · simp [gone]
      · have differs : (other == name) = false := by simpa using same
        by_cases gone : name ∈ dropped
        · simpa [gone, List.lookup_cons, differs] using ih
        · simpa [gone, List.lookup_cons, differs] using ih

theorem mem_keys_iff : other ∈ entries.map Prod.fst ↔ ∃ found, entries.lookup other = some found := by
  induction entries with
  | nil => simp
  | cons entry rest ih =>
      obtain ⟨name, known⟩ := entry
      by_cases same : other = name
      · simp [same]
      · have differs : (other == name) = false := by simpa using same
        simp [List.lookup_cons, differs, same, ← ih]

/-- Of entries of different names each is what is found under its own. -/
theorem entries_lookup (keys : (entries.map Prod.fst).Nodup) :
    (key, value) ∈ entries ↔ entries.lookup key = some value := by
  induction entries with
  | nil => simp
  | cons entry rest ih =>
      obtain ⟨name, known⟩ := entry
      obtain ⟨absent, others⟩ := List.nodup_cons.mp keys
      by_cases same : key = name
      · subst same
        have apart : (key, value) ∉ rest := fun member => absent (List.mem_map.mpr ⟨_, member, rfl⟩)
        simp [apart, eq_comm]
      · have differs : (key == name) = false := by simpa using same
        simp [List.lookup_cons, differs, same, ih others]

theorem lookup_map {β : Type} (f : α → β) :
    (entries.map fun entry => (entry.1, f entry.2)).lookup key = (entries.lookup key).map f := by
  induction entries with
  | nil => rfl
  | cons entry rest ih =>
      obtain ⟨name, known⟩ := entry
      by_cases same : key = name
      · simp [same]
      · have differs : (key == name) = false := by simpa using same
        simp only [List.map_cons, List.lookup_cons, differs, ih]

theorem keys_upsert : (upsert key value entries).map Prod.fst =
    if key ∈ entries.map Prod.fst then entries.map Prod.fst
    else entries.map Prod.fst ++ [key] := by
  induction entries with
  | nil => simp [upsert]
  | cons entry rest ih =>
      obtain ⟨name, known⟩ := entry
      by_cases same : name = key
      · simp [upsert, same]
      · simp only [upsert, if_neg same, List.map_cons, ih, List.mem_cons, Ne.symm same, false_or]
        split <;> rfl

theorem nodup_upsert (nodup : (entries.map Prod.fst).Nodup) :
    ((upsert key value entries).map Prod.fst).Nodup := by
  rw [keys_upsert]
  split
  · exact nodup
  · rename_i absent
    exact nodup.append (List.nodup_singleton key) (by simpa using absent)

theorem upsert_of_notMem (absent : key ∉ entries.map Prod.fst) :
    upsert key value entries = entries ++ [(key, value)] := by
  induction entries with
  | nil => rfl
  | cons entry rest ih =>
      obtain ⟨name, known⟩ := entry
      rw [List.map_cons, List.mem_cons, not_or] at absent
      rw [upsert, if_neg (Ne.symm absent.1), ih absent.2, List.cons_append]

/-- Entries of different names are kept as they are. -/
theorem upsertAll_of_nodup (nodup : (entries.map Prod.fst).Nodup) :
    upsertAll entries = entries := by
  induction entries using List.reverseRecOn with
  | nil => rfl
  | append_singleton front last ih =>
      obtain ⟨key, value⟩ := last
      rw [List.map_append, List.nodup_append'] at nodup
      obtain ⟨distinct, _, apart⟩ := nodup
      have absent : key ∉ front.map Prod.fst := fun member =>
        apart member (by simp)
      rw [upsertAll, List.foldl_append]
      have known := ih distinct
      rw [upsertAll] at known
      rw [known]
      exact upsert_of_notMem absent

end Rollout

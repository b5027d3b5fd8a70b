import Rollout.Dict
import Rollout.Proofs.Entries

/-!
Dictionaries as a reader sees them: by what is found under each name. Of several
entries laid into one the last is found, and nothing but what is found can tell
two dictionaries apart.
-/

namespace Rollout

variable {α : Type} {key other : String} {value : α} {entries : List (String × α)}

theorem lookup_putEntry : (putEntry key value entries).lookup key = some value := by
  induction entries with
  | nil => simp [putEntry]
  | cons entry rest ih =>
      obtain ⟨name, known⟩ := entry
      by_cases before : key < name
      · simp [putEntry, before]
      · by_cases same : name = key
        · simp [putEntry, same]
        · have differs : (key == name) = false := by simpa using Ne.symm same
          simp only [putEntry, if_neg before, if_neg same, List.lookup_cons, differs, ih]

theorem lookup_putEntry_ne (apart : other ≠ key) :
    (putEntry key value entries).lookup other = entries.lookup other := by
  have differs : (other == key) = false := by simpa using apart
  induction entries with
  | nil => simp [putEntry, apart]
  | cons entry rest ih =>
      obtain ⟨name, known⟩ := entry
      by_cases before : key < name
      · simp only [putEntry, if_pos before, List.lookup_cons, differs]
      · by_cases same : name = key
        · subst same
          simp only [putEntry, if_neg before, if_true, List.lookup_cons, differs]
        · simp only [putEntry, if_neg before, if_neg same, List.lookup_cons, ih]

/-- In ascending order the names behind an entry are greater than its own. -/
theorem lookup_tail (ascending : Ascending ((key, value) :: entries)) :
    entries.lookup key = none := by
  rw [List.lookup_eq_none_iff]
  intro entry member
  have above := (List.pairwise_cons.mp ascending).1 entry member
  rw [bne_iff_ne]
  rintro rfl
  exact String.lt_irrefl _ above

theorem lookup_below (ascending : Ascending ((key, value) :: entries)) (below : other < key) :
    ((key, value) :: entries).lookup other = none := by
  rw [List.lookup_eq_none_iff]
  intro entry member
  rw [bne_iff_ne]
  rintro rfl
  rcases List.mem_cons.mp member with rfl | member
  · exact String.lt_irrefl _ below
  · have above := (List.pairwise_cons.mp ascending).1 entry member
    exact String.lt_irrefl _ (String.lt_trans below above)

theorem eq_of_lookup {others : List (String × α)} (one : Ascending entries)
    (two : Ascending others) (same : ∀ name, entries.lookup name = others.lookup name) :
    entries = others := by
  induction entries generalizing others with
  | nil =>
      cases others with
      | nil => rfl
      | cons entry others =>
          obtain ⟨key, value⟩ := entry
          simpa using same key
  | cons entry entries ih =>
      obtain ⟨key, value⟩ := entry
      cases others with
      | nil => simpa using same key
      | cons entry' others =>
          obtain ⟨key', value'⟩ := entry'
          -- The smaller of the two first names would be found on one side only.
          have first : key = key' := by
            by_contra apart
            rcases Std.lt_trichotomy key key' with less | equal | more
            · simpa [lookup_below two less] using same key
            · exact apart equal
            · simpa [lookup_below one more] using same key'
          subst first
          have found : value = value' := by simpa using same key
          subst found
          rw [ih (List.pairwise_cons.mp one).2 (List.pairwise_cons.mp two).2]
          intro name
          by_cases here : name = key
          · rw [here, lookup_tail one, lookup_tail two]
          · have differs : (name == key) = false := by simpa using here
            simpa only [List.lookup_cons, differs] using same name

namespace Dict

variable {d : Dict α}

theorem nodup_entries (d : Dict α) : (d.entries.map Prod.fst).Nodup := by
  rw [List.Nodup, List.pairwise_map]
  refine d.ascending.imp fun above same => ?_
  rw [same] at above
  exact String.lt_irrefl _ above

theorem ext_get? {d' : Dict α} (same : ∀ name, d.get? name = d'.get? name) : d = d' := by
  obtain ⟨entries, one⟩ := d
  obtain ⟨others, two⟩ := d'
  obtain rfl := eq_of_lookup one two same
  rfl

@[simp] theorem get?_empty : (∅ : Dict α).get? key = none := rfl

theorem get?_insert : (d.insert key value).get? other =
    if other = key then some value else d.get? other := by
  split
  · subst other
    exact lookup_putEntry
  · rename_i apart
    exact lookup_putEntry_ne apart

/-- The last entry of a name is the one found. -/
theorem get?_insertAll : (d.insertAll entries).get? key =
    (entries.reverse.lookup key).or (d.get? key) := by
  induction entries generalizing d with
  | nil => rfl
  | cons entry rest ih =>
      obtain ⟨name, known⟩ := entry
      have next : (d.insertAll ((name, known) :: rest)).get? key =
          ((d.insert name known).insertAll rest).get? key := rfl
      rw [next, ih, get?_insert, List.reverse_cons, List.lookup_append, Option.or_assoc]
      congr 1
      by_cases same : key = name
      · simp [same]
      · have differs : (key == name) = false := by simpa using same
        simp [same, List.lookup_cons, differs]

theorem get?_ofList : (ofList entries).get? key = entries.reverse.lookup key := by
  rw [ofList, get?_insertAll, get?_empty, Option.or_none]

/-- The order of the entries of a dictionary does not matter, since no name has two. -/
theorem lookup_reverse (d : Dict α) (key : String) :
    d.entries.reverse.lookup key = d.get? key := by
  obtain ⟨entries, ascending⟩ := d
  induction entries with
  | nil => rfl
  | cons entry rest ih =>
      obtain ⟨name, known⟩ := entry
      have tail := ih (List.pairwise_cons.mp ascending).2
      change rest.reverse.lookup key = rest.lookup key at tail
      change ((name, known) :: rest).reverse.lookup key = ((name, known) :: rest).lookup key
      rw [List.reverse_cons, List.lookup_append, tail]
      by_cases same : key = name
      · subst same
        simp [lookup_tail ascending]
      · have differs : (key == name) = false := by simpa using same
        simp [List.lookup_cons, differs]

/-- Entries with distinct names say the same in every order. -/
theorem lookup_perm {entries others : List (String × α)} (order : entries.Perm others)
    (distinct : (entries.map Prod.fst).Nodup) (key : String) :
    entries.lookup key = others.lookup key := by
  induction order with
  | nil => rfl
  | cons entry _ ih =>
      obtain ⟨name, known⟩ := entry
      rw [List.lookup_cons, List.lookup_cons, ih (List.nodup_cons.mp distinct).2]
  | swap first second rest =>
      obtain ⟨name, known⟩ := first
      obtain ⟨name', known'⟩ := second
      have apart : name' ≠ name := by
        rintro rfl
        simp at distinct
      by_cases here : key = name
      · have differs : (name == name') = false := by simpa using Ne.symm apart
        simp [List.lookup_cons, here, differs]
      · have differs : (key == name) = false := by simpa using here
        simp [List.lookup_cons, differs]
  | trans order _ ih ih' =>
      rw [ih distinct, ih' ((order.map Prod.fst).nodup_iff.mp distinct)]

/-- A dictionary is made again of its entries in any order. -/
theorem ofList_perm {entries : List (String × α)} (order : entries.Perm d.entries) :
    ofList entries = d := by
  apply ext_get?
  intro key
  have distinct : (entries.reverse.map Prod.fst).Nodup :=
    ((entries.reverse_perm.trans order).map Prod.fst).nodup_iff.mpr d.nodup_entries
  rw [get?_ofList, lookup_perm (entries.reverse_perm.trans order) distinct]
  rfl

theorem get?_overlay {above : Dict α} :
    (d.overlay above).get? key = (above.get? key).or (d.get? key) := by
  rw [overlay, get?_insertAll, lookup_reverse]

/-- Entries in two parts are laid in one over the other. -/
theorem ofList_append (first second : List (String × α)) :
    ofList (first ++ second) = (ofList first).overlay (ofList second) := by
  apply ext_get?
  intro name
  rw [get?_overlay, get?_ofList, get?_ofList, get?_ofList, List.reverse_append,
    List.lookup_append]

theorem mem_keys : key ∈ d.keys ↔ ∃ found, d.get? key = some found := mem_keys_iff

theorem notMem_keys : key ∉ d.keys ↔ d.get? key = none := by
  rw [mem_keys]
  cases d.get? key <;> simp

theorem mem_entries : (key, value) ∈ d.entries ↔ d.get? key = some value :=
  entries_lookup d.nodup_entries

theorem get?_map {β : Type} {f : α → β} : (d.map f).get? key = (d.get? key).map f := lookup_map f

theorem keys_map {β : Type} {f : α → β} : (d.map f).keys = d.keys := by
  simp [keys, map]

end Dict

end Rollout

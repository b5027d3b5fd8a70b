/-!
Maps from names to values, kept in code-point order of the names. Two maps with
the same look-ups are equal, so equality of maps says what a reader can see.
-/

namespace Rollout

variable {α : Type}

def putEntry (key : String) (value : α) : List (String × α) → List (String × α)
  | [] => [(key, value)]
  | (k, v) :: rest =>
    if key < k then (key, value) :: (k, v) :: rest
    else if k = key then (key, value) :: rest
    else (k, v) :: putEntry key value rest

theorem mem_putEntry {key : String} {value : α} {entries : List (String × α)}
    {entry : String × α} (h : entry ∈ putEntry key value entries) :
    entry = (key, value) ∨ entry ∈ entries := by
  induction entries with
  | nil => simpa [putEntry] using h
  | cons first rest ih =>
    obtain ⟨k, v⟩ := first
    simp only [putEntry] at h
    split at h
    · simpa using h
    · split at h
      · rcases List.mem_cons.1 h with rfl | h <;> simp_all
      · rcases List.mem_cons.1 h with rfl | h
        · simp
        · rcases ih h with rfl | h <;> simp_all

def Ascending (entries : List (String × α)) : Prop :=
  entries.Pairwise fun a b => a.1 < b.1

theorem ascending_putEntry (key : String) (value : α) {entries : List (String × α)}
    (h : Ascending entries) : Ascending (putEntry key value entries) := by
  induction entries with
  | nil => simp [putEntry, Ascending]
  | cons first rest ih =>
    obtain ⟨k, v⟩ := first
    obtain ⟨above, tail⟩ := List.pairwise_cons.1 h
    simp only [putEntry]
    split
    · rename_i before
      refine List.pairwise_cons.2 ⟨?_, h⟩
      intro entry inside
      rcases List.mem_cons.1 inside with rfl | inside
      · exact before
      · exact String.lt_trans before (above entry inside)
    · rename_i notBefore
      split
      · rename_i same
        subst same
        exact List.pairwise_cons.2 ⟨above, tail⟩
      · rename_i other
        refine List.pairwise_cons.2 ⟨?_, ih tail⟩
        intro entry inside
        rcases mem_putEntry inside with rfl | inside
        · exact Std.lt_of_le_of_ne (String.not_lt.1 notBefore) other
        · exact above entry inside

structure Dict (α : Type) where
  entries : List (String × α)
  ascending : Ascending entries

namespace Dict

def empty : Dict α := ⟨[], List.Pairwise.nil⟩

instance : EmptyCollection (Dict α) := ⟨empty⟩

instance : Inhabited (Dict α) := ⟨empty⟩

instance [DecidableEq α] : DecidableEq (Dict α) := fun a b =>
  if h : a.entries = b.entries then isTrue (by cases a; cases b; simp_all)
  else isFalse fun same => h (congrArg entries same)

instance [Repr α] : Repr (Dict α) := ⟨fun d n => reprPrec d.entries n⟩

def get? (d : Dict α) (key : String) : Option α := d.entries.lookup key

def insert (d : Dict α) (key : String) (value : α) : Dict α :=
  ⟨putEntry key value d.entries, ascending_putEntry key value d.ascending⟩

/-- Later entries replace earlier ones of the same name. -/
def insertAll (d : Dict α) (entries : List (String × α)) : Dict α :=
  entries.foldl (fun known entry => known.insert entry.1 entry.2) d

def ofList (entries : List (String × α)) : Dict α := insertAll ∅ entries

def keys (d : Dict α) : List String := d.entries.map (·.1)

def isEmpty (d : Dict α) : Bool := d.entries.isEmpty

/-- `d` with the entries of `above` laid over it. -/
def overlay (d above : Dict α) : Dict α := d.insertAll above.entries

def map {β : Type} (f : α → β) (d : Dict α) : Dict β :=
  ⟨d.entries.map fun entry => (entry.1, f entry.2), by
    simpa [Ascending, List.pairwise_map] using d.ascending⟩

end Dict

end Rollout

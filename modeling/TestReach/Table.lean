/-!
# Tables

Values by keys, in the order in which the keys came.
-/

namespace TestReach

structure Table (κ α : Type) where
  entries : List (κ × α)
deriving DecidableEq, Repr

namespace Table

variable {κ α : Type} [DecidableEq κ]

def empty : Table κ α := ⟨[]⟩

def size (table : Table κ α) : Nat := table.entries.length

def keys (table : Table κ α) : List κ := table.entries.map (·.1)

def get? (table : Table κ α) (key : κ) : Option α :=
  (table.entries.find? fun entry => entry.1 = key).map (·.2)

def putEntries (key : κ) (value : α) : List (κ × α) → List (κ × α)
  | [] => [(key, value)]
  | entry :: entries =>
    if entry.1 = key then (key, value) :: entries else entry :: putEntries key value entries

def put (table : Table κ α) (key : κ) (value : α) : Table κ α :=
  ⟨putEntries key value table.entries⟩

def erase (table : Table κ α) (key : κ) : Table κ α :=
  ⟨table.entries.filter fun entry => entry.1 ≠ key⟩

def ofList (pairs : List (κ × α)) : Table κ α :=
  pairs.foldl (fun table (key, value) => table.put key value) empty

@[simp] theorem get?_empty (key : κ) : (empty : Table κ α).get? key = none := rfl

theorem get?_put (table : Table κ α) (key other : κ) (value : α) :
    (table.put key value).get? other = if other = key then some value else table.get? other := by
  obtain ⟨entries⟩ := table
  simp only [put, get?]
  induction entries with
  | nil =>
    by_cases same : other = key
    · simp [putEntries, same]
    · simp [putEntries, same, Ne.symm same]
  | cons entry entries ih =>
    by_cases here : entry.1 = key
    · by_cases same : other = key
      · simp [putEntries, here, same]
      · simp [putEntries, here, same, Ne.symm same]
    · by_cases found : entry.1 = other
      · have different : other ≠ key := fun same => here (found.trans same)
        simp [putEntries, found, different]
      · simp only [putEntries, if_neg here, List.find?_cons, found, decide_false]
        exact ih

theorem get?_erase (table : Table κ α) (key other : κ) :
    (table.erase key).get? other = if other = key then none else table.get? other := by
  simp only [erase, get?, List.find?_filter]
  split
  · rename_i same
    subst same
    simp
  · rename_i different
    congr 2
    funext entry
    by_cases found : entry.1 = other
    · simp [found, different]
    · simp [found]

theorem get?_foldl_put (pairs : List (κ × α)) (table : Table κ α) (key : κ) :
    (pairs.foldl (fun table (key, value) => table.put key value) table).get? key =
      ((pairs.reverse.find? fun pair => pair.1 = key).map (·.2)).or (table.get? key) := by
  induction pairs generalizing table with
  | nil => simp
  | cons pair pairs ih =>
    rw [List.foldl_cons, ih, get?_put, List.reverse_cons, List.find?_append]
    cases pairs.reverse.find? fun pair => pair.1 = key with
    | some later => simp
    | none =>
      by_cases same : key = pair.1
      · simp [same]
      · simp [same, Ne.symm same]

theorem get?_ofList (pairs : List (κ × α)) (key : κ) :
    (ofList pairs).get? key = (pairs.reverse.find? fun pair => pair.1 = key).map (·.2) := by
  simp [ofList, get?_foldl_put]

theorem mem_of_get?_ofList {pairs : List (κ × α)} {key : κ} {value : α}
    (found : (ofList pairs).get? key = some value) : (key, value) ∈ pairs := by
  rw [get?_ofList, Option.map_eq_some_iff] at found
  obtain ⟨⟨_, _⟩, located, rfl⟩ := found
  have same := List.find?_some located
  have listed := List.mem_of_find?_eq_some located
  simp only [decide_eq_true_eq] at same
  exact same ▸ List.mem_reverse.1 listed

theorem get?_ofList_eq_none_iff {pairs : List (κ × α)} {key : κ} :
    (ofList pairs).get? key = none ↔ ∀ pair ∈ pairs, pair.1 ≠ key := by
  simp [get?_ofList, List.find?_eq_none]

end Table

end TestReach

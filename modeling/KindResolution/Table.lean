/-!
# Tables

Finite tables from keys to values with at most one entry for each key. A new key is added at the
end, and a key that is there keeps its place, so the entries stand in the order in which their keys
were first written.
-/

namespace KindResolution

/-- A table from keys to values, as the list of its entries. -/
structure Table (κ α : Type) where
  entries : List (κ × α)
  nodup : (entries.map (·.1)).Nodup
  deriving DecidableEq

namespace Table

variable {κ α : Type}

/-- The table without entries. -/
def empty : Table κ α := { entries := [], nodup := List.nodup_nil }

/-- Tables start out empty. -/
instance : Inhabited (Table κ α) := ⟨empty⟩

/-- The keys of a table, in the order in which they were first written. -/
def keys (t : Table κ α) : List κ :=
  t.entries.map (·.1)

/-- The number of entries. -/
def size (t : Table κ α) : Nat :=
  t.entries.length

/-- The empty table has no entries. -/
@[simp] theorem size_empty : (empty : Table κ α).size = 0 := rfl

variable [DecidableEq κ]

/-- Stores a value under a key in a list of entries. -/
def insertEntry (key : κ) (value : α) : List (κ × α) → List (κ × α)
  | [] => [(key, value)]
  | entry :: rest =>
    if entry.1 = key then (key, value) :: rest else entry :: insertEntry key value rest

/-- The value under a key in a list of entries. -/
def findIn? (key : κ) : List (κ × α) → Option α
  | [] => none
  | entry :: rest => if entry.1 = key then some entry.2 else findIn? key rest

/-- The keys after an insertion: those before it, and the new one at the end if it is new. -/
theorem keys_insertEntry (key : κ) (value : α) (entries : List (κ × α)) :
    (insertEntry key value entries).map (·.1) =
      if key ∈ entries.map (·.1) then entries.map (·.1) else entries.map (·.1) ++ [key] := by
  induction entries with
  | nil => simp [insertEntry]
  | cons entry rest ih =>
    unfold insertEntry
    by_cases h : entry.1 = key
    · simp [h]
    · simp only [h, if_false, List.map_cons, ih, List.mem_cons, Ne.symm h, false_or]
      split <;> rfl

/-- Only the key of an insertion can hold something else than before. -/
theorem findIn?_insertEntry (key k : κ) (value : α) (entries : List (κ × α)) :
    findIn? k (insertEntry key value entries) =
      if k = key then some value else findIn? k entries := by
  induction entries with
  | nil =>
    by_cases h : k = key
    · simp [insertEntry, findIn?, h]
    · simp [insertEntry, findIn?, h, Ne.symm h]
  | cons entry rest ih =>
    unfold insertEntry
    by_cases he : entry.1 = key
    · by_cases h : k = key
      · simp [he, findIn?, h]
      · simp [he, findIn?, h, Ne.symm h]
    · by_cases h : k = key
      · subst h
        simp only [he, if_false, findIn?, ih, if_true]
      · simp only [he, if_false, findIn?, ih, h]

/-- Something is found under the keys of the entries, and under no others. -/
theorem findIn?_isSome (key : κ) (entries : List (κ × α)) :
    (findIn? key entries).isSome ↔ key ∈ entries.map (·.1) := by
  induction entries with
  | nil => simp [findIn?]
  | cons entry rest ih =>
    by_cases h : entry.1 = key
    · simp [findIn?, h]
    · simp [findIn?, h, ih, Ne.symm h]

/-- Stores a value under a key, in place of the value that was there. -/
def insert (t : Table κ α) (key : κ) (value : α) : Table κ α where
  entries := insertEntry key value t.entries
  nodup := by
    rw [keys_insertEntry]
    split
    · exact t.nodup
    · next h =>
      exact List.nodup_append.2 ⟨t.nodup, by simp, by
        rintro a ha b hb rfl
        exact h (List.mem_singleton.1 hb ▸ ha)⟩

/-- The value under a key. -/
def find? (t : Table κ α) (key : κ) : Option α :=
  findIn? key t.entries

/-- Whether the table has an entry for a key. -/
def contains (t : Table κ α) (key : κ) : Bool :=
  (t.find? key).isSome

/-- The empty table holds nothing. -/
@[simp] theorem find?_empty (k : κ) : (empty : Table κ α).find? k = none := rfl

/-- A lookup after an insertion finds the new value under its key and the old ones elsewhere. -/
@[simp] theorem find?_insert (t : Table κ α) (key k : κ) (value : α) :
    (t.insert key value).find? k = if k = key then some value else t.find? k :=
  findIn?_insertEntry key k value t.entries

/-- The keys of a table are those under which something is found. -/
theorem mem_keys_iff (t : Table κ α) (key : κ) : key ∈ t.keys ↔ t.contains key = true :=
  (findIn?_isSome key t.entries).symm

/-- An insertion adds an entry exactly when its key is new. -/
theorem size_insert (t : Table κ α) (key : κ) (value : α) :
    (t.insert key value).size = if t.contains key then t.size else t.size + 1 := by
  have h := congrArg List.length (keys_insertEntry key value t.entries)
  have hk := findIn?_isSome key t.entries
  simp only [List.length_map] at h
  simp only [size, insert, contains, find?, h]
  by_cases hc : key ∈ t.entries.map (·.1)
  · simp only [hk.2 hc, if_true, hc, List.length_map]
  · simp only [mt hk.1 hc, if_false, hc, List.length_append, List.length_map]
    simp

end Table

end KindResolution

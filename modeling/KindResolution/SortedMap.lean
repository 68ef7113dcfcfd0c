/-!
# Maps with sorted keys

Maps from texts to values whose entries stand in the order of their keys. Texts are compared code
point by code point, which is also the order of their UTF-8 bytes. The namespace `Entries` holds the
operations on lists of entries, `SortedMap` the lists that are in order.
-/

namespace KindResolution

namespace Entries

variable {α : Type}

/-- Whether the keys of a list of entries ascend strictly. -/
def Sorted (entries : List (String × α)) : Prop :=
  entries.Pairwise fun a b => a.1 < b.1

/-- Decides `Sorted` by comparing the keys. -/
instance (entries : List (String × α)) : Decidable (Sorted entries) :=
  inferInstanceAs (Decidable (entries.Pairwise fun a b => a.1 < b.1))

/-- Stores a value under a key, in the place that keeps the keys in order. -/
def insert (key : String) (value : α) : List (String × α) → List (String × α)
  | [] => [(key, value)]
  | entry :: rest =>
    if key < entry.1 then (key, value) :: entry :: rest
    else if key = entry.1 then (key, value) :: rest
    else entry :: insert key value rest

/-- The value stored under a key. -/
def find? (key : String) : List (String × α) → Option α
  | [] => none
  | entry :: rest => if entry.1 = key then some entry.2 else find? key rest

/-- Stores entries one after the other, so that of two with one key the later stays. -/
def insertAll (entries : List (String × α)) (new : List (String × α)) : List (String × α) :=
  new.foldl (fun stored entry => insert entry.1 entry.2 stored) entries

/-- An insertion adds no other key than its own. -/
theorem mem_keys_insert {key k : String} {value : α} {entries : List (String × α)} :
    k ∈ (insert key value entries).map (·.1) → k = key ∨ k ∈ entries.map (·.1) := by
  induction entries with
  | nil => simp [insert]
  | cons entry rest ih =>
    unfold insert
    split
    · simp
    · split
      · next h => simp [h]
      · simp only [List.map_cons, List.mem_cons]
        rintro (h | h)
        · exact .inr (.inl h)
        · rcases ih h with h | h
          · exact .inl h
          · exact .inr (.inr h)

/-- An insertion keeps the keys in order. -/
theorem Sorted.insert {key : String} {value : α} {entries : List (String × α)}
    (h : Sorted entries) : Sorted (Entries.insert key value entries) := by
  induction entries with
  | nil => simp [Entries.insert, Sorted]
  | cons entry rest ih =>
    have hlt := (List.pairwise_cons.1 h).1
    have hrest : Sorted rest := (List.pairwise_cons.1 h).2
    unfold Entries.insert
    split
    · next hk =>
      refine List.pairwise_cons.2 ⟨?_, h⟩
      intro b hb
      rcases List.mem_cons.1 hb with rfl | hb
      · exact hk
      · exact String.lt_trans hk (hlt b hb)
    · next hk =>
      split
      · next heq => exact List.pairwise_cons.2 ⟨fun b hb => heq ▸ hlt b hb, hrest⟩
      · next hne =>
        refine List.pairwise_cons.2 ⟨?_, ih hrest⟩
        intro b hb
        have hmem : b.1 ∈ (Entries.insert key value rest).map (·.1) :=
          List.mem_map_of_mem hb
        rcases mem_keys_insert hmem with hb | hb
        · have hle : entry.1 ≤ key := String.not_lt.1 hk
          rw [hb]
          apply Classical.byContradiction
          intro hn
          exact hne (String.le_antisymm (String.not_lt.1 hn) hle)
        · obtain ⟨c, hc, heq⟩ := List.mem_map.1 hb
          exact heq ▸ hlt c hc

/-- Insertions keep the keys in order. -/
theorem Sorted.insertAll {entries : List (String × α)} (h : Sorted entries)
    (new : List (String × α)) : Sorted (Entries.insertAll entries new) := by
  induction new generalizing entries with
  | nil => exact h
  | cons entry rest ih => exact ih h.insert

/-- The value stored last under a key is the one found. -/
theorem find?_insert {key k : String} {value : α} {entries : List (String × α)}
    (h : Sorted entries) :
    find? k (insert key value entries) = if k = key then some value else find? k entries := by
  induction entries with
  | nil =>
    by_cases hk : k = key
    · simp [insert, find?, hk]
    · simp [insert, find?, hk, Ne.symm hk]
  | cons entry rest ih =>
    have hrest : Sorted rest := (List.pairwise_cons.1 h).2
    unfold insert
    split
    · by_cases hk : k = key
      · simp [find?, hk]
      · simp [find?, hk, Ne.symm hk]
    · split
      · next heq =>
        by_cases hk : k = key
        · simp [find?, hk]
        · simp [find?, hk, Ne.symm hk, ← heq]
      · next hne =>
        have := ih hrest
        by_cases hk : k = key
        · subst hk
          simp only [find?, this, if_true, Ne.symm hne, if_false]
        · simp only [find?, this, hk, if_false]

end Entries

/-- A map from texts to values, as the list of its entries in the order of their keys. -/
structure SortedMap (α : Type) where
  entries : List (String × α) := []
  sorted : Entries.Sorted entries := by decide
  deriving DecidableEq

namespace SortedMap

variable {α : Type}

/-- The map without entries. -/
def empty : SortedMap α := { entries := [], sorted := List.Pairwise.nil }

/-- Fields of map type start out empty. -/
instance : Inhabited (SortedMap α) := ⟨empty⟩

/-- Stores a value under a key. -/
def insert (m : SortedMap α) (key : String) (value : α) : SortedMap α :=
  { entries := Entries.insert key value m.entries, sorted := m.sorted.insert }

/-- The value under a key. -/
def find? (m : SortedMap α) (key : String) : Option α :=
  Entries.find? key m.entries

/-- The map of a list of entries; of two with one key the later counts. -/
def ofList (entries : List (String × α)) : SortedMap α :=
  { entries := Entries.insertAll [] entries
    sorted := Entries.Sorted.insertAll List.Pairwise.nil entries }

/-- Whether the map has no entries. -/
def isEmpty (m : SortedMap α) : Bool :=
  m.entries.isEmpty

/-- A lookup after an insertion finds the new value under its key and the old ones elsewhere. -/
@[simp] theorem find?_insert (m : SortedMap α) (key k : String) (value : α) :
    (m.insert key value).find? k = if k = key then some value else m.find? k :=
  Entries.find?_insert m.sorted

end SortedMap

end KindResolution

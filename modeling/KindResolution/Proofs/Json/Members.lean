import KindResolution.Json.Basic
import Mathlib.Tactic.Lemma

/-!
# Members of ordered values

What stands under a key of an object once it is ordered: `Json.member?_normalize` says that it is
the last of the members with that key. The lemmas on lists of entries before it are about looking up
keys in lists that are put together.
-/

namespace KindResolution

namespace Entries

variable {α : Type}

/-- What is found in the first of two lists counts. -/
lemma find?_append (key : String) (first second : List (String × α)) :
    find? key (first ++ second) = (find? key first).or (find? key second) := by
  induction first with
  | nil => rfl
  | cons entry rest ih =>
    simp only [List.cons_append, find?]
    split
    · rfl
    · exact ih

/-- Nothing is found under a key exactly if no entry has it. -/
lemma find?_eq_none_iff {key : String} {entries : List (String × α)} :
    find? key entries = none ↔ ∀ entry ∈ entries, entry.1 ≠ key := by
  induction entries with
  | nil => simp [find?]
  | cons entry rest ih =>
    by_cases h : entry.1 = key
    · simp [find?, h]
    · simp [find?, h, ih]

/-- What is absent is absent in the reverse order too. -/
lemma find?_reverse_eq_none {key : String} {entries : List (String × α)}
    (absent : find? key entries = none) : find? key entries.reverse = none := by
  rw [find?_eq_none_iff] at absent ⊢
  intro entry member
  exact absent entry (List.mem_reverse.1 member)

/-- In a sorted list it does not matter from which end a key is looked up. -/
lemma find?_reverse {key : String} {entries : List (String × α)} (sorted : Sorted entries) :
    find? key entries.reverse = find? key entries := by
  induction entries with
  | nil => rfl
  | cons entry rest ih =>
    obtain ⟨above, sortedRest⟩ := List.pairwise_cons.1 sorted
    rw [List.reverse_cons, find?_append, ih sortedRest]
    simp only [find?]
    split
    · next same =>
      have absent : find? key rest = none := by
        rw [find?_eq_none_iff]
        rintro other member rfl
        exact String.lt_irrefl _ (same ▸ above other member)
      rw [absent]; rfl
    · exact Option.or_none

/-- Of the entries that are stored under a key the last counts, and then what was there before. -/
lemma find?_insertAll {key : String} {entries : List (String × α)} (sorted : Sorted entries)
    (new : List (String × α)) :
    find? key (insertAll entries new) = (find? key new.reverse).or (find? key entries) := by
  induction new generalizing entries with
  | nil => rfl
  | cons entry rest ih =>
    show find? key (insertAll (insert entry.1 entry.2 entries) rest) = _
    rw [ih sorted.insert, find?_insert sorted, List.reverse_cons, find?_append, Option.or_assoc]
    congr 1
    simp only [find?]
    by_cases same : key = entry.1
    · simp [same]
    · simp [same, Ne.symm same]

/-- Under a key of mapped entries the mapped value is found. -/
lemma find?_map {β : Type} (key : String) (f : α → β) (entries : List (String × α)) :
    find? key (entries.map fun entry => (entry.1, f entry.2)) = (find? key entries).map f := by
  induction entries with
  | nil => rfl
  | cons entry rest ih =>
    simp only [List.map_cons, find?]
    split
    · rfl
    · exact ih

end Entries

namespace Json

/-- Members are brought into order value by value. -/
lemma normalizeMembers_eq_map (members : List (String × Json)) :
    normalizeMembers members = members.map fun member => (member.1, normalize member.2) := by
  induction members with
  | nil => rfl
  | cons member rest ih => rw [normalizeMembers, ih]; rfl

/-- Of the members of an object with one key the last is the one that stays. -/
lemma member?_normalize (key : String) (members : List (String × Json)) :
    (normalize (.object members)).member? key =
      (Entries.find? key members.reverse).map normalize := by
  show Entries.find? key (Entries.insertAll [] (normalizeMembers members)) = _
  rw [Entries.find?_insertAll List.Pairwise.nil, normalizeMembers_eq_map, ← List.map_reverse,
    Entries.find?_map]
  exact Option.or_none

end Json

end KindResolution

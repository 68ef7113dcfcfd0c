import KindResolution.Table
import Mathlib.Data.List.Dedup
import Mathlib.Tactic.Lemma

/-!
# Writing to a table

A sequence of insertions into a table. Under every key stands what was written there last, and
nothing but what was there before if nothing was written (`Table.find?_insertAll`). So a table that
was empty has as many entries as different keys were written (`Table.size_insertAll_empty`), and
writing the same sequence again changes nothing (`Table.insertAll_insertAll`).
-/

namespace KindResolution.Table

variable {κ α : Type} [DecidableEq κ]

/-- Nothing is found under a key exactly if no entry has it. -/
lemma findIn?_eq_none_iff {key : κ} {entries : List (κ × α)} :
    findIn? key entries = none ↔ key ∉ entries.map (·.1) := by
  rw [← Option.not_isSome_iff_eq_none, findIn?_isSome]

/-- What is found first counts. -/
lemma findIn?_append (key : κ) (first second : List (κ × α)) :
    findIn? key (first ++ second) = (findIn? key first).or (findIn? key second) := by
  induction first with
  | nil => rfl
  | cons entry rest ih =>
    simp only [List.cons_append, findIn?]
    split
    · rfl
    · exact ih

/-- Lists of entries with the same keys, no two of which are equal, are the same if the same is
found in them. -/
lemma eq_of_findIn? {entries entries' : List (κ × α)} (nodup : (entries.map (·.1)).Nodup)
    (keys : entries.map (·.1) = entries'.map (·.1))
    (found : ∀ key, findIn? key entries = findIn? key entries') : entries = entries' := by
  induction entries generalizing entries' with
  | nil => exact (List.map_eq_nil_iff.1 keys.symm).symm
  | cons entry rest ih =>
    cases entries' with
    | nil => cases keys
    | cons entry' rest' =>
      obtain ⟨key, value⟩ := entry
      obtain ⟨key', value'⟩ := entry'
      obtain ⟨rfl, keysRest⟩ : key = key' ∧ rest.map (·.1) = rest'.map (·.1) := List.cons.inj keys
      obtain ⟨fresh, nodup⟩ := List.nodup_cons.1 nodup
      -- the first keys are equal, so that what is found under them are the first values
      have first := found key
      simp only [findIn?, if_true, Option.some.injEq] at first
      rw [first, ih nodup keysRest]
      intro k
      -- the key of the first entry is found in neither rest, and any other is not found in front
      by_cases same : key = k
      · subst same
        rw [findIn?_eq_none_iff.2 fresh, findIn?_eq_none_iff.2 (keysRest ▸ fresh)]
      · simpa [findIn?, same] using found k

/-- A table is its keys, in their order, and what is found under them. -/
lemma eq_of_find? {t t' : Table κ α} (keys : t.keys = t'.keys)
    (found : ∀ key, t.find? key = t'.find? key) : t = t' := by
  have entries : t.entries = t'.entries := eq_of_findIn? t.nodup keys found
  cases t
  cases t'
  subst entries
  rfl

/-- Insertions one after the other. -/
def insertAll (t : Table κ α) (writes : List (κ × α)) : Table κ α :=
  writes.foldl (fun t write => t.insert write.1 write.2) t

/-- Writes can be cut anywhere. -/
lemma insertAll_append (t : Table κ α) (first second : List (κ × α)) :
    t.insertAll (first ++ second) = (t.insertAll first).insertAll second :=
  List.foldl_append

/-- Under a key stands what was written there last, or else what was there before. -/
lemma find?_insertAll (t : Table κ α) (writes : List (κ × α)) (key : κ) :
    (t.insertAll writes).find? key = (findIn? key writes.reverse).or (t.find? key) := by
  induction writes generalizing t with
  | nil => rfl
  | cons write rest ih =>
    show ((t.insert write.1 write.2).insertAll rest).find? key = _
    rw [ih, find?_insert, List.reverse_cons, findIn?_append, Option.or_assoc]
    congr 1
    simp only [findIn?]
    by_cases same : key = write.1
    · simp [same]
    · simp [same, Ne.symm same]

/-- What is found is the value of the first entry with the key. -/
lemma findIn?_eq_some_iff {key : κ} {value : α} {entries : List (κ × α)} :
    findIn? key entries = some value ↔
      ∃ before after, entries = before ++ (key, value) :: after ∧ key ∉ before.map (·.1) := by
  constructor
  · intro found
    induction entries with
    | nil => cases found
    | cons entry rest ih =>
      obtain ⟨k, v⟩ := entry
      rw [findIn?] at found
      split at found
      · next same =>
        cases same
        cases found
        exact ⟨[], rest, rfl, by simp⟩
      · next other =>
        obtain ⟨before, after, rfl, first⟩ := ih found
        exact ⟨(k, v) :: before, after, rfl, by simpa [Ne.symm other] using first⟩
  · rintro ⟨before, after, rfl, first⟩
    rw [findIn?_append, findIn?_eq_none_iff.2 first]
    simp [findIn?]

/-- A key is found after insertions into an empty table with the value written there last. -/
lemma find?_insertAll_empty_eq_some_iff {key : κ} {value : α} {writes : List (κ × α)} :
    ((empty : Table κ α).insertAll writes).find? key = some value ↔
      ∃ before after, writes = before ++ (key, value) :: after ∧ key ∉ after.map (·.1) := by
  rw [find?_insertAll, find?_empty, Option.or_none, findIn?_eq_some_iff]
  constructor
  · rintro ⟨after, before, reversed, last⟩
    refine ⟨before.reverse, after.reverse, ?_, by simpa using last⟩
    rw [← List.reverse_reverse writes, reversed]
    simp
  · rintro ⟨before, after, rfl, last⟩
    exact ⟨after.reverse, before.reverse, by simp, by simpa using last⟩

/-- Nothing is held under a key exactly if nothing was written there. -/
lemma find?_insertAll_empty_eq_none_iff {key : κ} {writes : List (κ × α)} :
    ((empty : Table κ α).insertAll writes).find? key = none ↔ key ∉ writes.map (·.1) := by
  rw [find?_insertAll, find?_empty, Option.or_none, findIn?_eq_none_iff, List.map_reverse,
    List.mem_reverse]

/-- The keys are those that were written to. -/
lemma mem_keys_insertAll_empty {key : κ} {writes : List (κ × α)} :
    key ∈ ((empty : Table κ α).insertAll writes).keys ↔ key ∈ writes.map (·.1) := by
  rw [mem_keys_iff, contains, find?_insertAll, find?_empty, Option.or_none, findIn?_isSome,
    List.map_reverse, List.mem_reverse]

/-- After insertions into an empty table, there are as many entries as different keys were
written. -/
lemma size_insertAll_empty (writes : List (κ × α)) :
    ((empty : Table κ α).insertAll writes).size = (writes.map (·.1)).dedup.length := by
  have perm : ((empty : Table κ α).insertAll writes).keys.Perm (writes.map (·.1)).dedup := by
    refine (List.perm_ext_iff_of_nodup (nodup _) (List.nodup_dedup _)).2 fun key => ?_
    rw [List.mem_dedup]
    exact mem_keys_insertAll_empty
  rw [← perm.length_eq, keys, List.length_map, size]

/-- Writes under keys that are there add no keys. -/
lemma keys_insertAll {t : Table κ α} {writes : List (κ × α)}
    (present : ∀ write ∈ writes, write.1 ∈ t.keys) : (t.insertAll writes).keys = t.keys := by
  induction writes generalizing t with
  | nil => rfl
  | cons write rest ih =>
    have same : (t.insert write.1 write.2).keys = t.keys :=
      (keys_insertEntry write.1 write.2 t.entries).trans
        (if_pos (present write List.mem_cons_self))
    show ((t.insert write.1 write.2).insertAll rest).keys = t.keys
    rw [ih, same]
    intro other member
    rw [same]
    exact present other (List.mem_cons_of_mem _ member)

/-- Writing the same sequence again changes nothing. -/
lemma insertAll_insertAll (t : Table κ α) (writes : List (κ × α)) :
    (t.insertAll writes).insertAll writes = t.insertAll writes := by
  have present : ∀ write ∈ writes, write.1 ∈ (t.insertAll writes).keys := by
    intro write member
    rw [mem_keys_iff, contains, find?_insertAll, Option.isSome_or, Bool.or_eq_true, findIn?_isSome]
    exact .inl (List.mem_map_of_mem (List.mem_reverse.2 member))
  refine eq_of_find? (keys_insertAll present) fun key => ?_
  rw [find?_insertAll _ writes, find?_insertAll _ writes, ← Option.or_assoc, Option.or_self]

end KindResolution.Table

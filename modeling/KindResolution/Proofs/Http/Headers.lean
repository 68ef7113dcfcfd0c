import KindResolution.Http.Header
import Mathlib.Tactic.Lemma

/-!
# Insertions into lists of header fields

What a row of insertions leaves under a name. Fields that are inserted leave the last value of the
name (`HeaderList.values_insertAll`); defaults leave the first one, and only if the name does not
occur already (`HeaderList.values_withDefaults`).
-/

namespace KindResolution.Http.HeaderList

/-- Inserts fields, one after the other. -/
def insertAll (h : HeaderList) (fields : List (HeaderName × HeaderValue)) : HeaderList :=
  fields.foldl (fun list field => list.insert field.1 field.2) h

/-- A field in front adds its value under its name. -/
lemma values_cons (field : HeaderName × HeaderValue) (fields : List (HeaderName × HeaderValue))
    (name : HeaderName) :
    values ⟨field :: fields⟩ name =
      if field.1 = name then field.2 :: values ⟨fields⟩ name else values ⟨fields⟩ name := by
  by_cases same : field.1 = name
  · simp [values, same]
  · simp [values, same]

/-- Fields that are inserted leave the last value of a name, and what was there before if none of
them has the name. -/
lemma values_insertAll (h : HeaderList) (fields : List (HeaderName × HeaderValue))
    (name : HeaderName) :
    (h.insertAll fields).values name =
      ((values ⟨fields⟩ name).getLast?).elim (h.values name) fun value => [value] := by
  induction fields generalizing h with
  | nil => rfl
  | cons field fields ih =>
    show ((h.insert field.1 field.2).insertAll fields).values name = _
    rw [ih, values_insert, values_cons]
    -- a field counts only as long as no later one has its name
    by_cases same : field.1 = name
    · rw [if_pos same.symm, if_pos same, List.getLast?_cons]
      cases (values ⟨fields⟩ name).getLast? with
      | none => rfl
      | some last => rfl
    · rw [if_neg (Ne.symm same), if_neg same]

/-- A field is inserted where its name is absent. -/
lemma insertIfAbsent_of_values_eq_nil {h : HeaderList} {name : HeaderName} (value : HeaderValue)
    (absent : h.values name = []) : h.insertIfAbsent name value = h.insert name value := by
  have unknown : ¬ h.contains name = true := by
    rw [contains_iff, absent]
    exact fun ne => ne rfl
  exact if_neg unknown

/-- No field is inserted where its name is present. -/
lemma insertIfAbsent_of_values_ne_nil {h : HeaderList} {name : HeaderName} (value : HeaderValue)
    (present : h.values name ≠ []) : h.insertIfAbsent name value = h :=
  if_pos ((contains_iff h name).2 present)

/-- The values of other names stay as they are. -/
lemma values_insertIfAbsent_of_ne (h : HeaderList) {name other : HeaderName} (value : HeaderValue)
    (ne : other ≠ name) : (h.insertIfAbsent name value).values other = h.values other := by
  unfold insertIfAbsent
  split
  · rfl
  · rw [values_insert, if_neg ne]

/-- Defaults count for the names that do not occur, and for those only. Of several defaults of a
name the first one counts. -/
lemma values_withDefaults (h defaults : HeaderList) (name : HeaderName) :
    (h.withDefaults defaults).values name =
      if h.values name = [] then (defaults.value? name).toList else h.values name := by
  obtain ⟨fields⟩ := defaults
  induction fields generalizing h with
  | nil =>
    show h.values name = if h.values name = [] then [] else h.values name
    split
    · assumption
    · rfl
  | cons field fields ih =>
    show ((h.insertIfAbsent field.1 field.2).withDefaults ⟨fields⟩).values name = _
    rw [ih, value?, value?, values_cons]
    by_cases same : field.1 = name
    · subst same
      by_cases absent : h.values field.1 = []
      · -- from here on the name occurs, so that no later default of it counts
        rw [insertIfAbsent_of_values_eq_nil field.2 absent, values_insert, if_pos rfl, if_pos absent,
          if_pos rfl]
        rfl
      · rw [insertIfAbsent_of_values_ne_nil field.2 absent, if_neg absent, if_neg absent]
    · rw [values_insertIfAbsent_of_ne h field.2 (Ne.symm same), if_neg same]

end KindResolution.Http.HeaderList

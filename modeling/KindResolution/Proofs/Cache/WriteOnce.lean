import KindResolution.Proofs.Cache.Filling

/-!
# Entries are written once

A record that is stored stays in its place for good, although storing does not look whether the
place is empty: only a call that found it empty stores anything (`Cache.cache_take_cases`).
`Cache.WriteOnce` collects what this means for one call, and `Cache.writeOnce_take` shows it of all
calls. Over a run it follows that as many records have been completed as there are entries:
`Cache.size_run`, and `Cache.entry_stays` puts the two together.
-/

namespace KindResolution

variable {C : Type}

/-- An attempt completes one record if it succeeds, and none otherwise. -/
def Attempt.CompletesOne {α : Type} (w : Collaborators C) (a : Attempt α) : Prop :=
  a.calls.countP (Call.completes w) = if a.outcome.isOk then 1 else 0

/-- A first step that completes nothing leaves the completing to the second. -/
lemma Attempt.CompletesOne.bind {α β : Type} {w : Collaborators C} {a : Attempt α}
    {f : α → Attempt β} (first : a.calls.countP (Call.completes w) = 0)
    (second : ∀ x, a.outcome = .ok x → (f x).CompletesOne w) : (a.bind f).CompletesOne w := by
  unfold CompletesOne Attempt.bind
  cases outcome : a.outcome with
  | error e => exact first
  | ok x =>
    simp only [List.countP_append, first, Nat.zero_add]
    exact second x outcome

/-- The question where a kind is served completes a record exactly if it is answered. -/
lemma Collaborators.completesOne_mappingOf (w : Collaborators C) (kind : GroupVersionKind)
    (record : RestMapping → KindRecord C) :
    ((w.mappingOf kind).bind fun mapping =>
      { outcome := .ok (record mapping) }).CompletesOne w := by
  unfold Attempt.CompletesOne Attempt.bind mappingOf
  cases mapped : w.resolver.mappingOf kind.groupKind kind.version with
  | error e => simp [Except.mapError, Call.completes, mapped, Except.isOk, Except.toBool]
  | ok mapping => simp [Except.mapError, Call.completes, mapped, Except.isOk, Except.toBool]

/-- An assembly completes one record if it succeeds, and none otherwise. -/
lemma Collaborators.completesOne_assemble (w : Collaborators C) (config : Config) {t : ObjectType}
    (o : Object t) : (w.assemble config o).CompletesOne w :=
  .bind rfl fun kind _ => .bind rfl fun client _ =>
    w.completesOne_mappingOf (recordKind t kind) fun mapping => ⟨client, recordKind t kind, mapping⟩

/-- To place a call completes no record. -/
lemma CacheCall.countP_placeCalls (w : Collaborators C) (call : CacheCall) :
    (call.placeCalls w).countP (Call.completes w) = 0 := by
  rw [List.countP_eq_zero]
  intro asked member
  rw [eq_kindOf_of_mem_placeCalls member]
  simp [Call.completes]

namespace Cache

/-- The number of entries of a cache, in both tables. -/
def size (c : Cache C) : Nat :=
  c.typeCount + c.kindCount

/-- Storing a record does not lower the number of records under types. -/
lemma typeCount_le_store (c : Cache C) (key : CacheKey) (m : KindRecord C) :
    c.typeCount ≤ (c.store key m).typeCount := by
  cases key with
  | type t =>
    simp only [typeCount, store, Table.size_insert]
    split <;> omega
  | kind kind => exact Nat.le_refl _

/-- Storing a record does not lower the number of records under kinds. -/
lemma kindCount_le_store (c : Cache C) (key : CacheKey) (m : KindRecord C) :
    c.kindCount ≤ (c.store key m).kindCount := by
  cases key with
  | type t => exact Nat.le_refl _
  | kind kind =>
    simp only [kindCount, store, Table.size_insert]
    split <;> omega

/-- A record under a new key makes the cache larger by one. -/
lemma size_store {c : Cache C} {key : CacheKey} {m : KindRecord C} (empty : c.find? key = none) :
    (c.store key m).size = c.size + 1 := by
  cases key with
  | type t =>
    have new : c.byType.contains t = false := congrArg Option.isSome empty
    simp [size, typeCount, kindCount, store, Table.size_insert, new]
    omega
  | kind kind =>
    have new : c.byKind.contains kind = false := congrArg Option.isSome empty
    simp [size, typeCount, kindCount, store, Table.size_insert, new]
    omega

/-- Every record that is stored is counted as built. -/
lemma built_store (c : Cache C) (key : CacheKey) (m : KindRecord C) :
    (c.store key m).built = c.built + 1 := by
  cases key <;> rfl

/-- A turn leaves the cache as it is, or it finds its place empty and stores a record there. -/
lemma cache_take_cases (c : Cache C) (turn : Turn C) :
    (c.take turn).cache = c ∨
      ∃ key m, turn.call.place turn.collaborators = .ok key ∧ c.find? key = none ∧
        (c.take turn).cache = c.store key m := by
  unfold take
  obtain ⟨e, asked, eq⟩ | ⟨key, stored, asked, found, eq⟩ | ⟨key, m, asked, empty, built, eq⟩ |
    ⟨key, e, asked, empty, built, eq⟩ := c.answer_cases turn.collaborators turn.call
  · exact .inl (by rw [eq])
  · exact .inl (by rw [eq])
  · exact .inr ⟨key, m, asked, empty, by rw [eq]⟩
  · exact .inl (by rw [eq])

/-- What a turn does to the entries of a cache: all stay, at most one is added, and where there is
one nothing is built. -/
structure WriteOnce (c : Cache C) (turn : Turn C) : Prop where
  kept : ∀ key stored, c.find? key = some stored →
    (c.take turn).cache.find? key = some stored
  added : ∀ key, c.find? key = none → (c.take turn).cache.find? key ≠ none →
    turn.call.place turn.collaborators = .ok key
  kinds_untouched : ∀ t, turn.call.place turn.collaborators = .ok (.type t) →
    (c.take turn).cache.byKind = c.byKind
  types_untouched : ∀ kind, turn.call.place turn.collaborators = .ok (.kind kind) →
    (c.take turn).cache.byType = c.byType
  at_most_one : (c.take turn).cache.size ≤ c.size + 1
  typeCount_le : c.typeCount ≤ (c.take turn).cache.typeCount
  kindCount_le : c.kindCount ≤ (c.take turn).cache.kindCount
  hit : ∀ key stored, turn.call.place turn.collaborators = .ok key → c.find? key = some stored →
    (c.take turn).attempt.outcome = turn.call.finish stored ∧ (c.take turn).cache = c ∧
      ∀ asked ∈ (c.take turn).attempt.calls, asked = .kindOf
  wraps : ∀ key stored, turn.call.question = .objectMeta →
    turn.call.place turn.collaborators = .ok key → c.find? key = some stored →
    (c.resolveWithMetadata turn.collaborators turn.call.object).attempt.outcome =
      (metadataOf turn.call.object).map fun objectMeta => (stored, objectMeta)

/-- Every turn writes an entry once and for all. -/
lemma writeOnce_take (c : Cache C) (turn : Turn C) : c.WriteOnce turn where
  kept := by
    intro key stored found
    obtain e | ⟨place, m, asked, empty, e⟩ := c.cache_take_cases turn
    · rw [e, found]
    · -- the place that was found empty is not the one where the record stands
      have other : key ≠ place := by
        rintro rfl
        cases found.symm.trans empty
      rw [e, find?_store, if_neg other, found]
  added := by
    intro key none filled
    obtain e | ⟨place, m, asked, empty, e⟩ := c.cache_take_cases turn
    · rw [e] at filled
      exact absurd none filled
    · rw [e, find?_store] at filled
      split at filled
      · next same => rw [asked, same]
      · exact absurd none filled
  kinds_untouched := by
    intro t asked
    obtain e | ⟨place, m, asked', empty, e⟩ := c.cache_take_cases turn
    · rw [e]
    · cases asked.symm.trans asked'
      rw [e]; rfl
  types_untouched := by
    intro kind asked
    obtain e | ⟨place, m, asked', empty, e⟩ := c.cache_take_cases turn
    · rw [e]
    · cases asked.symm.trans asked'
      rw [e]; rfl
  at_most_one := by
    obtain e | ⟨place, m, asked, empty, e⟩ := c.cache_take_cases turn
    · rw [e]; omega
    · exact Nat.le_of_eq (by rw [e, size_store empty])
  typeCount_le := by
    obtain e | ⟨place, m, asked, empty, e⟩ := c.cache_take_cases turn
    · exact Nat.le_of_eq (by rw [e])
    · rw [e]; exact c.typeCount_le_store place m
  kindCount_le := by
    obtain e | ⟨place, m, asked, empty, e⟩ := c.cache_take_cases turn
    · exact Nat.le_of_eq (by rw [e])
    · rw [e]; exact c.kindCount_le_store place m
  hit := by
    intro key stored asked found
    rw [take, answer_of_found asked found]
    exact ⟨rfl, rfl, fun _ => CacheCall.eq_kindOf_of_mem_placeCalls⟩
  wraps := by
    intro key stored question asked found
    obtain ⟨w, ⟨_, t, o⟩⟩ := turn
    cases question
    have resolved : c.answer w ⟨.resolve, t, o⟩ = _ := answer_of_found asked found
    change c.resolve w o = _ at resolved
    rw [resolveWithMetadata, resolved]
    rfl

/-- The numbers of a turn: there are as many entries more as records have been completed, and they
are numbered on. -/
lemma size_take (c : Cache C) (turn : Turn C) :
    (c.take turn).cache.size =
        (c.take turn).attempt.calls.countP (Call.completes turn.collaborators) + c.size ∧
      (c.take turn).cache.built =
        (c.take turn).attempt.calls.countP (Call.completes turn.collaborators) + c.built := by
  obtain ⟨w, call⟩ := turn
  -- only assembling completes a record, and only if it succeeds
  have place := call.countP_placeCalls w
  have record : (w.assemble c.config call.object).calls.countP (Call.completes w) = _ :=
    w.completesOne_assemble c.config call.object
  unfold take
  obtain ⟨e, asked, eq⟩ | ⟨key, stored, asked, found, eq⟩ | ⟨key, m, asked, empty, built, eq⟩ |
    ⟨key, e, asked, empty, built, eq⟩ := c.answer_cases w call
  · simp [eq, place]
  · simp [eq, place]
  · rw [built] at record
    simp only [eq, List.countP_append, place, record, size_store empty, built_store]
    exact ⟨Nat.add_comm _ _, Nat.add_comm _ _⟩
  · rw [built] at record
    simp [eq, place, record, Except.isOk, Except.toBool]

/-- Over a run there are as many entries more as records have been completed, and these are numbered
on. -/
lemma size_run (c : Cache C) (turns : List (Turn C)) :
    (c.run turns).size = c.completions turns + c.size ∧
      (c.run turns).built = c.completions turns + c.built := by
  induction turns generalizing c with
  | nil => simp [run, completions]
  | cons turn rest ih =>
    -- the rest starts with the numbers that the first turn leaves
    obtain ⟨entries, built⟩ := ih (c.take turn).cache
    obtain ⟨entries', built'⟩ := c.size_take turn
    show ((c.take turn).cache.run rest).size = _ ∧ ((c.take turn).cache.run rest).built = _
    rw [completions, entries, built, entries', built']
    omega

/-- In every run an entry is written once and for all, and as many are written as records are
completed. -/
theorem entry_stays (config : Config) (turns : List (Turn C)) (turn : Turn C) :
    ((ofConfig config).run turns).WriteOnce turn ∧
      (ofConfig config).completions turns =
        ((ofConfig config).run turns).typeCount + ((ofConfig config).run turns).kindCount ∧
      (ofConfig config).completions turns = ((ofConfig config).run turns).built := by
  obtain ⟨entries, built⟩ := (ofConfig config : Cache C).size_run turns
  exact ⟨writeOnce_take _ turn, entries.symm, built.symm⟩

/-- In an outage a widget with a schema gets the very record that was built for one without, and two
records have been completed in all. -/
theorem entry_stays_in_outage : ∃ stored,
    ((ofConfig Widgets.config).run Widgets.outage).find? (.kind Widgets.kind) = some stored ∧
      (((ofConfig Widgets.config).run Widgets.outage).take
        ⟨Widgets.offline, ⟨.byKind, Widgets.type, Widgets.typed⟩⟩).attempt.outcome = .ok stored ∧
      (ofConfig Widgets.config).completions Widgets.outage = 2 := by
  obtain ⟨once, entries, _⟩ := entry_stays Widgets.config Widgets.outage
    ⟨Widgets.offline, ⟨.byKind, Widgets.type, Widgets.typed⟩⟩
  have filled : (((ofConfig Widgets.config).run Widgets.outage).find?
      (.kind Widgets.kind)).isSome = true := by decide
  obtain ⟨stored, found⟩ := Option.isSome_iff_exists.1 filled
  have hit := once.hit (.kind Widgets.kind) stored rfl found
  exact ⟨stored, found, hit.1, entries.trans (by decide)⟩

end Cache

end KindResolution

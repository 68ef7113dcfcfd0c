import KindResolution.Cache.Run
import KindResolution.Proofs.Cache.Answer

/-!
# How a cache fills

A call asks for one place of a cache, and if it finds the place empty and can build a record, it
leaves the record there; this is its contribution. `Cache.record?_answer` says what one call does to
the records of a cache, and `Cache.record?_after` what a history does: in every place stands what
stood there before, or else the first contribution to it. So a call is answered with the record that
is built for the call that filled its place: `Cache.recordOutcome_answer_after`.
-/

namespace KindResolution

variable {C : Type}

/-- The outcome of a resolution, whatever number its record has. -/
def Resolution.recordOutcome (found : Resolution C (Stored C)) :
    Except ResolveError (KindRecord C) :=
  found.attempt.outcome.map Stored.record

namespace CacheCall

/-- The record that a call puts into a place that it finds empty. -/
def contribution (w : Collaborators C) (config : Config) (key : CacheKey) (call : CacheCall) :
    Option (KindRecord C) :=
  match call.place w, (w.assemble config call.object).outcome with
  | .ok place, .ok record => if place = key then some record else none
  | _, _ => none

/-- A call contributes the record that is assembled for it, under its place. -/
lemma contribution_eq_some_iff {w : Collaborators C} {config key call m} :
    contribution w config key call = some m ↔
      call.place w = .ok key ∧ (w.assemble config call.object).outcome = .ok m := by
  unfold contribution
  cases call.place w with
  | error e => simp
  | ok place =>
    cases (w.assemble config call.object).outcome with
    | error e => simp
    | ok record => simp

end CacheCall

namespace Cache

/-- The record in a place, whatever number it has. -/
def record? (c : Cache C) (key : CacheKey) : Option (KindRecord C) :=
  (c.find? key).map Stored.record

/-- A cache that is made for a configuration has no records. -/
@[simp] lemma record?_ofConfig (config : Config) (key : CacheKey) :
    (ofConfig config : Cache C).record? key = none := by
  simp [record?]

/-- A fetch ends in the record that is held, or else in what is attempted. -/
lemma recordOutcome_fetch (c : Cache C) (key : CacheKey) (a : Attempt (KindRecord C)) :
    (c.fetch key a).recordOutcome = (c.record? key).elim a.outcome .ok := by
  obtain ⟨stored, found, e⟩ | ⟨m, none, built, e⟩ | ⟨err, none, built, e⟩ := c.fetch_cases key a
  · simp [e, Resolution.recordOutcome, record?, found, Except.map]
  · simp [e, Resolution.recordOutcome, record?, none, built, Except.map]
  · simp [e, Resolution.recordOutcome, record?, none, built, Except.map]

/-- The records after fetching one: nothing that is there changes, and what is built is added. -/
lemma record?_fetch (c : Cache C) (key place : CacheKey) (a : Attempt (KindRecord C)) :
    (c.fetch key a).cache.record? place =
      (c.record? place).or (if key = place then a.outcome.toOption else none) := by
  obtain ⟨stored, found, e⟩ | ⟨m, none, built, e⟩ | ⟨err, none, built, e⟩ := c.fetch_cases key a
  · by_cases same : key = place
    · subst same
      simp [e, record?, found]
    · simp [e, same]
  · by_cases same : key = place
    · subst same
      simp [e, record?, none, built, Except.toOption]
    · simp [e, record?, same, Ne.symm same]
  · simp [e, built, Except.toOption]

/-- A fetch does not touch the configuration. -/
@[simp] lemma config_fetch (c : Cache C) (key : CacheKey) (a : Attempt (KindRecord C)) :
    (c.fetch key a).cache.config = c.config := by
  obtain ⟨stored, found, e⟩ | ⟨m, none, built, e⟩ | ⟨err, none, built, e⟩ := c.fetch_cases key a
  · rw [e]
  · rw [e]; exact c.config_store key m
  · rw [e]

/-- A fetch under a place ends in the record held there, or in what is attempted. -/
lemma recordOutcome_fetchPlace (c : Cache C) (place : Except ResolveError CacheKey)
    (asked : List Call) (a : Attempt (KindRecord C)) :
    (c.fetchPlace place asked a).recordOutcome =
      place.bind fun key => (c.record? key).elim a.outcome .ok := by
  cases place with
  | error e => rfl
  | ok key => exact c.recordOutcome_fetch key a

/-- A call changes the cache as the fetch under its place does. -/
lemma cache_answer (c : Cache C) (w : Collaborators C) (call : CacheCall) :
    (c.answer w call).cache =
      match call.place w with
      | .ok key => (c.fetch key (w.assemble c.config call.object)).cache
      | .error _ => c := by
  rw [answer_eq]
  cases call.place w <;> rfl

/-- The outcome of resolving an object: the record that is in its place, or else the one that is
built, as far as there is a place. -/
lemma recordOutcome_resolve (c : Cache C) (w : Collaborators C) {t : ObjectType} (o : Object t) :
    (c.resolve w o).recordOutcome =
      (CacheCall.place w ⟨.resolve, t, o⟩).bind fun key =>
        (c.record? key).elim (w.assemble c.config o).outcome .ok := by
  rw [resolve_eq, recordOutcome_fetchPlace]

/-- The outcome of a call: that of resolving the object in the place that the call asks for, and the
metadata where they are asked for. -/
lemma recordOutcome_answer (c : Cache C) (w : Collaborators C) (call : CacheCall) :
    (c.answer w call).recordOutcome =
      (call.place w).bind fun key =>
        ((c.record? key).elim (w.assemble c.config call.object).outcome .ok).bind call.finish := by
  let found := c.fetchPlace (call.place w) (call.placeCalls w) (w.assemble c.config call.object)
  calc (c.answer w call).recordOutcome
    _ = (found.attempt.outcome.bind call.finish).map Stored.record := by rw [answer_eq]; rfl
    _ = found.recordOutcome.bind call.finish := call.map_bind_finish _ _
    _ = _ := by
      rw [recordOutcome_fetchPlace]
      cases call.place w <;> rfl

/-- A call does not touch the configuration. -/
@[simp] lemma config_answer (c : Cache C) (w : Collaborators C) (call : CacheCall) :
    (c.answer w call).cache.config = c.config := by
  rw [cache_answer]
  cases call.place w with
  | error e => rfl
  | ok key => exact c.config_fetch _ _

/-- The records after a call: nothing that is there changes, and the contribution is added. -/
lemma record?_answer (c : Cache C) (w : Collaborators C) (call : CacheCall) (key : CacheKey) :
    (c.answer w call).cache.record? key =
      (c.record? key).or (call.contribution w c.config key) := by
  rw [cache_answer]
  cases asked : call.place w with
  | error e => simp [CacheCall.contribution, asked]
  | ok place =>
    rw [record?_fetch]
    congr 1
    cases built : (w.assemble c.config call.object).outcome <;>
      simp [CacheCall.contribution, asked, built, Except.toOption]

/-- The records after a history: nothing that is there changes, and elsewhere stands the first
contribution. -/
theorem record?_after (c : Cache C) (w : Collaborators C) (history : List CacheCall)
    (key : CacheKey) :
    (c.after w history).record? key =
      (c.record? key).or (history.findSome? (CacheCall.contribution w c.config key)) := by
  induction history generalizing c with
  | nil => simp [after]
  | cons call rest ih =>
    calc (c.after w (call :: rest)).record? key
      _ = ((c.answer w call).cache.after w rest).record? key := rfl
      -- the contributions of the rest do not depend on the first call: it keeps the configuration
      _ = (c.record? key).or ((call.contribution w c.config key).or
            (rest.findSome? (CacheCall.contribution w c.config key))) := by
        rw [ih, config_answer, record?_answer, Option.or_assoc]
      _ = _ := by
        rw [List.findSome?_cons]
        cases call.contribution w c.config key <;> rfl

/-- A history does not touch the configuration. -/
@[simp] lemma config_after (c : Cache C) (w : Collaborators C) (history : List CacheCall) :
    (c.after w history).config = c.config := by
  induction history generalizing c with
  | nil => rfl
  | cons call rest ih =>
    show ((c.answer w call).cache.after w rest).config = c.config
    rw [ih, config_answer]

/-- The call of a history that fills a place of a cache that was empty before. -/
def filler? (w : Collaborators C) (config : Config) (key : CacheKey) (history : List CacheCall) :
    Option CacheCall :=
  history.find? fun call => (call.contribution w config key).isSome

/-- The call that fills a place is one of the history, it asks for that place, and a record is built
for it. -/
lemma filler?_spec {w : Collaborators C} {config key history first}
    (filled : filler? w config key history = some first) :
    first ∈ history ∧ first.place w = .ok key ∧
      ∃ m, (w.assemble config first.object).outcome = .ok m := by
  have contributes := List.find?_some filled
  obtain ⟨m, contributed⟩ := Option.isSome_iff_exists.1 contributes
  obtain ⟨asked, built⟩ := CacheCall.contribution_eq_some_iff.1 contributed
  exact ⟨List.mem_of_find?_eq_some filled, asked, m, built⟩

/-- The first contribution of a history is that of the call that fills the place. -/
lemma findSome?_contribution (w : Collaborators C) (config : Config) (key : CacheKey)
    (history : List CacheCall) :
    history.findSome? (CacheCall.contribution w config key) =
      (filler? w config key history).bind (CacheCall.contribution w config key) := by
  induction history with
  | nil => rfl
  | cons call rest ih =>
    rw [filler?, List.findSome?_cons, List.find?_cons]
    cases contributed : call.contribution w config key with
    | some m => exact contributed.symm
    | none => exact ih

/-- The outcome of a call after a history on a cache that was empty: the record that is assembled
for the call that filled the place, or else for the call itself. -/
theorem recordOutcome_answer_after (config : Config) (w : Collaborators C)
    (history : List CacheCall) (call : CacheCall) :
    (((ofConfig config).after w history).answer w call).recordOutcome =
      (call.place w).bind fun key =>
        (w.assemble config ((filler? w config key history).getD call).object).outcome.bind
          call.finish := by
  rw [recordOutcome_answer]
  congr 1
  funext key
  rw [record?_after, config_after, config_ofConfig, record?_ofConfig, Option.none_or,
    findSome?_contribution]
  -- a place that no call fills is empty still, and then the call has its own record assembled
  cases filled : filler? w config key history with
  | none => rfl
  | some first =>
    obtain ⟨_, asked, m, built⟩ := filler?_spec filled
    have contributed : first.contribution w config key = some m :=
      CacheCall.contribution_eq_some_iff.2 ⟨asked, built⟩
    rw [Option.bind_some, Option.getD_some, contributed, built]
    rfl

end Cache

/-- A call that asks for the place of a kind is about an object of this kind. -/
lemma Registry.kindOf_of_place {r : Registry} {call : CacheCall} {kind}
    (asked : call.place r.collaborators = .ok (.kind kind)) :
    r.scheme.kindOf call.object = .ok kind := by
  have place := CacheCall.kindKey_of_place asked
  rw [outcome_kindKey, mapError_eq_ok_iff] at place
  exact place

/-! ## Widgets

A registry with one type of objects, and objects of its kind. -/

namespace Widgets

/-- The kind of widgets. -/
def kind : GroupVersionKind := ⟨"apps", "v1", "Widget"⟩

/-- A cluster that serves widgets. -/
def config : Config where
  clusterUrl := { scheme := some "https", authority := "cluster.example:6443", target := {} }

/-- The type of widgets with a schema. -/
def type : ObjectType := .custom "Widget"

/-- The type of widgets, and the kinds that are served: widgets, and their lists as objects in their
own right. -/
def registry : Registry where
  scheme := ({} : Scheme).insert type kind
  mapper := (({} : RestMapper).insert kind "widgets" .namespaced).insert kind.listKind "widgetlists"
    .namespaced

/-- A widget with a schema. -/
def typed : Object type :=
  ({ objectMeta := some {}, value := .null } : CustomObject)

/-- An object without a schema that declares a kind. -/
def dynamic (kind : GroupVersionKind) : Object .dynamic :=
  ({ typeMeta := some (.ofKind kind) } : DynamicObject)

/-- A list of widgets without a schema, which declares the kind of such lists. -/
def list : Object (.list .dynamic) :=
  ({ typeMeta := some (.ofListKind kind), items := [] } : ObjectList DynamicObject)

/-- Those whom the cache of the cluster asks. -/
def online : Collaborators Client :=
  registry.collaborators

/-- Those whom it asks while it cannot be learned where kinds are served. -/
def offline : Collaborators Client where
  resolver := { kindOf := registry.scheme.kindOf
                mappingOf := fun kind version => .error (.unmapped kind.group kind.kind version) }
  factory := Client.factory

/-- A run through an outage: a widget cannot be resolved at first, and a list of widgets has no
metadata. -/
def outage : List (Turn Client) :=
  [⟨offline, ⟨.resolve, .dynamic, dynamic kind⟩⟩, ⟨online, ⟨.objectMeta, .list .dynamic, list⟩⟩,
    ⟨online, ⟨.resolve, .dynamic, dynamic kind⟩⟩, ⟨offline, ⟨.byKind, type, typed⟩⟩,
    ⟨offline, ⟨.byType, type, typed⟩⟩]

/-- The cache of the cluster after a history. -/
def cache (history : List CacheCall) : Cache Client :=
  registry.cacheAfter config history

end Widgets

end KindResolution

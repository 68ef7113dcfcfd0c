import KindResolution.Proofs.Cache.Filling
import KindResolution.Proofs.RestMapper.Consistency

/-!
# Soundness of cached records

Whatever a cache over a scheme and a mapper is asked, and in whatever order, the parts of a record in
it belong together: its kind, the mapping and the resource of that, the client, the place of the
record, and the paths made of it. `KindRecord.Sound` collects these facts, `Registry.sound_assemble`
shows them of a record that is built, and `Registry.record_sound` of all records after all histories.
-/

namespace KindResolution

/-- The parts of a record in a place of a cache belong together. -/
structure KindRecord.Sound (mapper : RestMapper) (config : Config) (key : CacheKey)
    (m : KindRecord Client) : Prop where
  mapped : mapper.mappings.find? m.kind = some m.mapping
  mapping_kind : m.mapping.kind = m.kind
  resource_group : m.mapping.resource.group = m.kind.group
  resource_version : m.mapping.resource.version = m.kind.version
  namespaced : m.isNamespaced = true ↔ m.mapping.scope = .namespaced
  client_built : ∃ codec, Client.build codec m.kind config = .ok m.client
  keyed : ∀ kind, key = .kind kind → m.kind = kind ∨ kind.itemKind? = some m.kind
  below_client : ∀ namespaceName, ∃ rest,
    m.collectionPath namespaceName = m.client.apiPath ++ "/" ++ rest

/-- A record is namespaced exactly if the scope of its mapping is. -/
lemma KindRecord.isNamespaced_iff {C : Type} {m : KindRecord C} :
    m.isNamespaced = true ↔ m.mapping.scope = .namespaced := by
  unfold isNamespaced
  cases m.mapping.scope <;> simp

namespace Registry

/-- A record that is built for an object is sound in the place that the object is given. -/
lemma sound_assemble {r : Registry} {config : Config} {call : CacheCall} {key : CacheKey}
    {m : KindRecord Client} (con : r.mapper.Consistent)
    (asked : call.place r.collaborators = .ok key)
    (built : (r.collaborators.assemble config call.object).outcome = .ok m) :
    m.Sound r.mapper config key := by
  obtain ⟨kind, known, same, client, mapped⟩ := Collaborators.assemble_eq_ok_iff.1 built
  have found := RestMapper.mappingOf_eq_ok_iff.1 mapped
  obtain ⟨plural, scope, shape⟩ := con _ _ found
  obtain ⟨clientKind, _⟩ := Client.kind_codec_of_build client
  refine ⟨found, ?_, ?_, ?_, KindRecord.isNamespaced_iff, ⟨_, client⟩, ?_, ?_⟩
  · rw [shape]; rfl
  · rw [shape]; rfl
  · rw [shape]; rfl
  · rintro declared rfl
    have e : kind = declared := Except.ok.inj (known.symm.trans (kindOf_of_place asked))
    rw [same, e]
    exact recordKind_cases call.type declared
  · intro namespaceName
    rw [Client.apiPath, Client.groupVersion, clientKind]
    exact m.collectionPath_eq namespaceName

/-- After every history, on every scheme, every configuration and every mapper that was filled in
whatever way, all records of a cache are sound. -/
theorem record_sound (scheme : Scheme) (changes : List RestMapper.Change) (config : Config)
    (history : List CacheCall) (key : CacheKey) (stored : Stored Client)
    (found : (cacheAfter ⟨scheme, RestMapper.after {} changes⟩ config history).find? key =
      some stored) :
    stored.record.Sound (RestMapper.after {} changes) config key := by
  let r : Registry := ⟨scheme, RestMapper.after {} changes⟩
  have recorded : (r.cacheAfter config history).record? key = some stored.record := by
    rw [Cache.record?, found]; rfl
  rw [cacheAfter, Cache.record?_after, Cache.record?_ofConfig, Option.none_or] at recorded
  obtain ⟨call, _, contributed⟩ := List.exists_of_findSome?_eq_some recorded
  obtain ⟨asked, built⟩ := CacheCall.contribution_eq_some_iff.1 contributed
  have con : r.mapper.Consistent := RestMapper.Consistent.empty.after changes
  exact sound_assemble con asked built

/-- A list of widgets without a schema leaves a sound record behind, in the place of the kind that it
declares. -/
theorem record_sound_widgets : ∃ stored,
    (Widgets.cache [⟨.objectMeta, .list .dynamic, Widgets.list⟩,
        ⟨.byKind, Widgets.type, Widgets.typed⟩]).find? (.kind Widgets.kind.listKind) = some stored ∧
      stored.record.Sound Widgets.registry.mapper Widgets.config (.kind Widgets.kind.listKind) := by
  have filled : ((Widgets.cache [⟨.objectMeta, .list .dynamic, Widgets.list⟩,
      ⟨.byKind, Widgets.type, Widgets.typed⟩]).find?
        (.kind Widgets.kind.listKind)).isSome = true := by decide
  obtain ⟨stored, found⟩ := Option.isSome_iff_exists.1 filled
  exact ⟨stored, found, record_sound Widgets.registry.scheme
    [.insert Widgets.kind "widgets" .namespaced,
      .insert Widgets.kind.listKind "widgetlists" .namespaced] Widgets.config _ _ stored found⟩

end Registry

end KindResolution

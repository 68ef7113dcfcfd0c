import KindResolution.Proofs.RestMapper.Consistency
import KindResolution.Proofs.Table.Writes

/-!
# The last write to a mapper

Whatever fills a mapper writes mappings under kinds: one, or for a list that a server publishes as
many as there are resources of their own in it. A mapper is what is written to it
(`RestMapper.mappings_after`), so of several mappings of a kind the last one counts, and nothing
else is known: `RestMapper.last_write_wins`.
-/

namespace KindResolution.RestMapper

/-- What is written of a kind that is served under a resource in its own group and version. -/
def servedAs (kind : GroupVersionKind) (plural : String) (scope : Scope) :
    GroupVersionKind × RestMapping :=
  (kind,
    { resource := { group := kind.group, version := kind.version, resource := plural }
      kind := kind
      scope := scope })

/-- What is written of a resource in a list for a group and version: it may be of a kind in another
group or version, and for a part of another resource nothing is written. -/
def servedWrite? (gv : GroupVersion) (r : ServedResource) :
    Option (GroupVersionKind × RestMapping) :=
  if r.name.toList.contains '/' then none
  else
    some <| servedAs ⟨r.group.getD gv.group, r.version.getD gv.version, r.kind⟩ r.name
      (if r.namespaced then .namespaced else .cluster)

/-- The mappings that a change writes, under the kinds that they are written under and in the order
in which they are written. -/
def Change.writes : Change → List (GroupVersionKind × RestMapping)
  | .insert kind plural scope => [servedAs kind plural scope]
  | .insertRegular kind scope => [servedAs kind (plural (asciiLower kind.kind)) scope]
  | .insertType type => [servedAs type.kind type.plural type.scope]
  | .insertList list =>
    match GroupVersion.parse list.groupVersion with
    | .ok gv => list.resources.filterMap (servedWrite? gv)
    | .error _ => []

/-- All that a history writes. -/
def writesOf (history : List Change) : List (GroupVersionKind × RestMapping) :=
  history.flatMap Change.writes

/-- The resources of a list are written one after the other. -/
lemma mappings_insertServed (gv : GroupVersion) (m : RestMapper) (resources : List ServedResource) :
    (resources.foldl (insertServed gv) m).mappings =
      m.mappings.insertAll (resources.filterMap (servedWrite? gv)) := by
  induction resources generalizing m with
  | nil => rfl
  | cons r rest ih =>
    rw [List.foldl_cons, ih, List.filterMap_cons]
    unfold insertServed servedWrite?
    split
    · rfl
    · rfl

/-- A list whose version is read is written, resource by resource. -/
lemma insertList_of_parse {m : RestMapper} {list : ResourceList} {gv : GroupVersion}
    (read : GroupVersion.parse list.groupVersion = .ok gv) :
    m.insertList list = .ok (list.resources.foldl (insertServed gv) m) := by
  rw [insertList, read]
  rfl

/-- A list whose version is not read is refused. -/
lemma insertList_of_parse_error {m : RestMapper} {list : ResourceList} {e : MalformedApiVersion}
    (refused : GroupVersion.parse list.groupVersion = .error e) :
    m.insertList list = .error (.malformedVersion e) := by
  rw [insertList, refused]
  rfl

/-- The mapper after a change is what the change writes, on top of what was there. -/
lemma mappings_change (m : RestMapper) (c : Change) :
    (m.change c).mappings = m.mappings.insertAll c.writes := by
  cases c with
  | insert | insertRegular | insertType => rfl
  | insertList list =>
    cases read : GroupVersion.parse list.groupVersion with
    | ok gv =>
      simp only [change, insertList_of_parse read, Change.writes, read]
      exact mappings_insertServed gv m list.resources
    | error e =>
      simp only [change, insertList_of_parse_error read, Change.writes, read]
      rfl

/-- The mapper after a history is what the history writes, on top of what was there. -/
lemma mappings_after (m : RestMapper) (history : List Change) :
    (m.after history).mappings = m.mappings.insertAll (writesOf history) := by
  induction history generalizing m with
  | nil => rfl
  | cons c rest ih =>
    show ((m.change c).after rest).mappings = _
    rw [ih, mappings_change, ← Table.insertAll_append]
    rfl

/-- A mapper is its mappings. -/
lemma eq_of_mappings {m m' : RestMapper} (same : m.mappings = m'.mappings) : m = m' := by
  cases m
  cases m'
  cases same
  rfl

/-- A mapper fails to say where a kind is served exactly if it holds nothing under it, and then it
names the kind. -/
lemma mappingOf_eq_error_iff {m : RestMapper} {kind : GroupKind} {version : String}
    {e : MappingError} :
    m.mappingOf kind version = .error e ↔
      e = .unmapped kind.group kind.kind version ∧
        m.mappings.find? (kind.inVersion version) = none := by
  unfold mappingOf
  cases m.mappings.find? (kind.inVersion version) <;> simp [eq_comm]

/-- After a history on an empty mapper, a kind has the mapping that was written last under it, and
nothing else is mapped. -/
theorem last_write_wins (history : List Change) :
    (∀ kind version mapping, (after {} history).mappingOf kind version = .ok mapping ↔
      ∃ before later, writesOf history = before ++ (kind.inVersion version, mapping) :: later ∧
        kind.inVersion version ∉ later.map (·.1)) ∧
    (∀ kind version mapping, (after {} history).mappingOf kind version = .ok mapping →
      mapping.kind = kind.inVersion version ∧ mapping.resource.group = kind.group ∧
        mapping.resource.version = version) ∧
    (∀ kind version e, (after {} history).mappingOf kind version = .error e ↔
      e = .unmapped kind.group kind.kind version ∧
        kind.inVersion version ∉ (writesOf history).map (·.1)) ∧
    (after {} history).size = ((writesOf history).map (·.1)).dedup.length ∧
    (∀ list e, GroupVersion.parse list.groupVersion = .error e →
      (after {} history).insertList list = .error (.malformedVersion e) ∧
        (after {} history).change (.insertList list) = after {} history) ∧
    (∀ list, ((after {} history).change (.insertList list)).change (.insertList list) =
      (after {} history).change (.insertList list)) := by
  have mappings : (after {} history).mappings = Table.insertAll .empty (writesOf history) :=
    mappings_after {} history
  have found : ∀ kind version mapping, (after {} history).mappingOf kind version = .ok mapping ↔
      (after {} history).mappings.find? (kind.inVersion version) = some mapping :=
    fun kind version mapping => @mappingOf_eq_ok_iff _ (kind.inVersion version) mapping
  refine ⟨?_, ?_, ?_, ?_, ?_, ?_⟩
  · intro kind version mapping
    rw [found, mappings, Table.find?_insertAll_empty_eq_some_iff]
  · intro kind version mapping ok
    obtain ⟨plural, scope, rfl⟩ := Consistent.empty.after history _ _ ((found _ _ _).1 ok)
    exact ⟨rfl, rfl, rfl⟩
  · intro kind version e
    rw [mappingOf_eq_error_iff, mappings, Table.find?_insertAll_empty_eq_none_iff]
  · rw [size, mappings, Table.size_insertAll_empty]
  · intro list e refused
    refine ⟨insertList_of_parse_error refused, eq_of_mappings ?_⟩
    rw [mappings_change, Change.writes, refused]
    rfl
  · intro list
    apply eq_of_mappings
    rw [mappings_change, mappings_change, Table.insertAll_insertAll]

/-- A list of resources that a server publishes: one of them in another group, and one a part of
another. -/
def publishedGadgets : ResourceList where
  groupVersion := "apps/v1"
  resources :=
    [{ name := "gadgets", kind := "Gadget", namespaced := true },
      { name := "gadgets/status", kind := "Gadget" },
      { name := "gizmos", kind := "Gizmo", group := some "gizmos.io" }]

/-- Gadgets are first added by hand to the whole cluster, and published as namespaced after that. A
list with a version that cannot be read stands in between. -/
def gadgetHistory : List Change :=
  [.insertRegular ⟨"apps", "v1", "Gadget"⟩ .cluster,
    .insertList { publishedGadgets with groupVersion := "a/b/c" }, .insertList publishedGadgets]

/-- Gadgets are served as they were published, not as they were added by hand, and two kinds are
known. -/
theorem last_write_wins_gadgets :
    (after {} gadgetHistory).mappingOf ⟨"apps", "Gadget"⟩ "v1" =
        .ok { resource := ⟨"apps", "v1", "gadgets"⟩, kind := ⟨"apps", "v1", "Gadget"⟩
              scope := .namespaced } ∧
      (after {} gadgetHistory).mappingOf ⟨"apps", "Gizmo"⟩ "v1" =
        .error (.unmapped "apps" "Gizmo" "v1") ∧
      (after {} gadgetHistory).size = 2 ∧
      (after {} gadgetHistory).change (.insertList { publishedGadgets with groupVersion := "" }) =
        after {} gadgetHistory := by
  obtain ⟨served, _, unserved, size, refused, _⟩ := last_write_wins gadgetHistory
  refine ⟨(served _ _ _).2 ?_, (unserved _ _ _).2 ⟨rfl, by decide⟩, size, ?_⟩
  · refine ⟨[servedAs ⟨"apps", "v1", "Gadget"⟩ "gadgets" .cluster],
      [servedAs ⟨"gizmos.io", "v1", "Gizmo"⟩ "gizmos" .cluster], by decide, by decide⟩
  · exact (refused _ ⟨""⟩ (by decide)).2

end KindResolution.RestMapper

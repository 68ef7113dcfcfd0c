import KindResolution.KindRecord
import KindResolution.Proofs.Kind.ApiVersion
import KindResolution.Proofs.RestMapper.LastWrite

/-!
# Inherited names

A resource in a list that a server publishes may leave its group and its version to the list. By the
contract of such lists, a name that is there and empty is left to the list like one that is not there
(`Inherits`). A mapper keeps to the contract but for empty names, which it takes as they are: the
kinds that a list adds are told by `RestMapper.mappedUnder_iff` and `RestMapper.adds_iff`, and
`RestMapper.mapped_as_inherited_iff` says which resources end up under another kind than they should.
-/

namespace KindResolution

/-- A resource of its own, not a part of another one. -/
def ServedResource.IsWhole (r : ServedResource) : Prop :=
  '/' ∉ r.name.toList

/-- Whether a resource is one of its own can be computed. -/
instance (r : ServedResource) : Decidable r.IsWhole :=
  inferInstanceAs (Decidable (¬ _))

/-- A resource blanks a name of its list out: it has an empty group where the list has a named one,
or an empty version. -/
def ServedResource.BlanksOut (r : ServedResource) (gv : GroupVersion) : Prop :=
  r.group = some "" ∧ gv.group ≠ "" ∨ r.version = some ""

/-- Whether a resource blanks a name out can be computed. -/
instance (r : ServedResource) (gv : GroupVersion) : Decidable (r.BlanksOut gv) :=
  inferInstanceAs (Decidable (_ ∨ _))

/-- The mapping of a kind to a resource in a list. -/
def ServedResource.mappingUnder (r : ServedResource) (kind : GroupVersionKind) : RestMapping where
  resource := { group := kind.group, version := kind.version, resource := r.name }
  kind := kind
  scope := if r.namespaced then .namespaced else .cluster

/-- The segment of the version is empty in the path of a collection of a group: the path goes on with
a slash where the version should stand. -/
def LacksVersion (group path : String) : Prop :=
  ∃ rest, path = (⟨group, ""⟩ : GroupVersion).apiPath ++ "/" ++ rest

namespace RestMapper

/-- The name that counts for a resource: its own, or that of its list if it has none or an empty
one. -/
inductive Inherits (listed : String) : Option String → String → Prop where
  | unnamed :
    Inherits listed none listed
  | blank :
    Inherits listed (some "") listed
  | named {name} :
    name ≠ "" →
    Inherits listed (some name) name

/-- The kind that a resource in a list for a group and version is of, by the contract of such
lists. -/
structure IsInheritedKind (gv : GroupVersion) (r : ServedResource) (kind : GroupVersionKind) :
    Prop where
  group : Inherits gv.group r.group kind.group
  version : Inherits gv.version r.version kind.version
  kind : kind.kind = r.kind

/-- A list that goes on with a resource maps the resource under a kind, and leaves all other kinds
as they were. -/
def MappedUnder (groupVersion : String) (r : ServedResource) (kind : GroupVersionKind) : Prop :=
  ∀ (m : RestMapper) (before : List ServedResource), ∃ m₁ m₂,
    m.insertList ⟨groupVersion, before⟩ = .ok m₁ ∧
      m.insertList ⟨groupVersion, before ++ [r]⟩ = .ok m₂ ∧
      ∀ other, m₂.mappings.find? other =
        if other = kind then some (r.mappingUnder kind) else m₁.mappings.find? other

/-- A list adds a kind: it changes what some mapper holds under the kind. -/
def Adds (list : ResourceList) (kind : GroupVersionKind) : Prop :=
  ∃ m m' : RestMapper, m.insertList list = .ok m' ∧
    m'.mappings.find? kind ≠ m.mappings.find? kind

/-- To fall back on the list only where there is no name at all gives the name that counts, unless
there is an empty name and the list has another one. -/
lemma inherits_getD_iff {listed : String} {own : Option String} :
    Inherits listed own (own.getD listed) ↔ (own = some "" → listed = "") := by
  constructor
  · rintro inherits rfl
    rw [Option.getD_some] at inherits
    cases inherits with
    | blank => rfl
    | named nonempty => exact absurd rfl nonempty
  · intro blank
    cases own with
    | none => exact .unnamed
    | some name =>
      by_cases empty : name = ""
      · subst empty
        obtain rfl := blank rfl
        exact .blank
      · exact .named empty

/-- A resource is taken for its kind unless it blanks a name of its list out. -/
lemma isInheritedKind_kindOf_iff {gv : GroupVersion} {r : ServedResource} (named : gv.version ≠ "") :
    IsInheritedKind gv r (kindOf gv r) ↔ ¬ r.BlanksOut gv := by
  have apart : IsInheritedKind gv r (kindOf gv r) ↔
      Inherits gv.group r.group (r.group.getD gv.group) ∧
        Inherits gv.version r.version (r.version.getD gv.version) :=
    ⟨fun ⟨group, version, _⟩ => ⟨group, version⟩, fun ⟨group, version⟩ => ⟨group, version, rfl⟩⟩
  rw [apart, inherits_getD_iff, inherits_getD_iff, ServedResource.BlanksOut, not_or, not_and, not_not]
  exact and_congr_right' ⟨fun blank empty => named (blank empty), fun ne empty => absurd empty ne⟩

/-- A resource is one of its own if there is no slash in its name. -/
lemma isWhole_iff {r : ServedResource} : r.IsWhole ↔ ¬ r.name.toList.contains '/' = true := by
  rw [List.contains_iff_mem]
  rfl

/-- A resource of its own is mapped under its kind, and all others stay as they are. -/
lemma find?_insertServed {m : RestMapper} {gv : GroupVersion} {r : ServedResource}
    (whole : r.IsWhole) (other : GroupVersionKind) :
    (insertServed gv m r).mappings.find? other =
      if other = kindOf gv r then some (r.mappingUnder (kindOf gv r))
      else m.mappings.find? other := by
  rw [insertServed, if_neg (isWhole_iff.1 whole)]
  exact Table.find?_insert ..

/-- A resource of its own is mapped under one kind and no other. -/
lemma mappedUnder_iff {text : String} {gv : GroupVersion} {r : ServedResource}
    {kind : GroupVersionKind} (read : GroupVersion.parse text = .ok gv) (whole : r.IsWhole) :
    MappedUnder text r kind ↔ kind = kindOf gv r := by
  have inserted : ∀ (m : RestMapper) resources,
      m.insertList ⟨text, resources⟩ = .ok (resources.foldl (insertServed gv) m) :=
    fun m resources => insertList_of_parse read
  constructor
  · intro mapped
    -- the resource alone writes to nothing but its kind
    obtain ⟨m₁, m₂, empty, alone, found⟩ := mapped {} []
    rw [inserted] at empty alone
    cases empty
    cases alone
    by_contra other
    have here := (found kind).trans (if_pos rfl)
    have absent : (insertServed gv {} r).mappings.find? kind = none :=
      (find?_insertServed whole kind).trans (if_neg other)
    cases absent.symm.trans here
  · rintro rfl m before
    refine ⟨_, _, inserted m before, inserted m (before ++ [r]), fun other => ?_⟩
    rw [List.foldl_append]
    exact find?_insertServed whole other

/-- The kinds that a list writes to are those of its resources. -/
lemma mem_writes_iff {gv : GroupVersion} {resources : List ServedResource}
    {kind : GroupVersionKind} :
    kind ∈ (resources.filterMap (servedWrite? gv)).map (·.1) ↔
      ∃ r ∈ resources, r.IsWhole ∧ kindOf gv r = kind := by
  simp only [List.mem_map, List.mem_filterMap, servedWrite?, isWhole_iff]
  constructor
  · rintro ⟨write, ⟨r, member, written⟩, rfl⟩
    split at written
    · cases written
    · next whole =>
      cases written
      exact ⟨r, member, whole, rfl⟩
  · rintro ⟨r, member, whole, rfl⟩
    exact ⟨_, ⟨r, member, if_neg whole⟩, rfl⟩

/-- The kinds that a list adds are those of its resources. -/
lemma adds_iff {list : ResourceList} {gv : GroupVersion} {kind : GroupVersionKind}
    (read : GroupVersion.parse list.groupVersion = .ok gv) :
    Adds list kind ↔ ∃ r ∈ list.resources, r.IsWhole ∧ kindOf gv r = kind := by
  have after : ∀ m : RestMapper, (list.resources.foldl (insertServed gv) m).mappings.find? kind =
      (Table.findIn? kind (list.resources.filterMap (servedWrite? gv)).reverse).or
        (m.mappings.find? kind) := by
    intro m
    rw [mappings_insertServed, Table.find?_insertAll]
  have written : Table.findIn? kind (list.resources.filterMap (servedWrite? gv)).reverse = none ↔
      ¬ ∃ r ∈ list.resources, r.IsWhole ∧ kindOf gv r = kind := by
    rw [Table.findIn?_eq_none_iff, List.map_reverse, List.mem_reverse, mem_writes_iff]
  unfold Adds
  simp only [insertList_of_parse read]
  constructor
  · rintro ⟨m, _, ⟨⟩, changed⟩
    by_contra none
    rw [after, written.2 none, Option.none_or] at changed
    exact changed rfl
  · intro some
    refine ⟨{}, _, rfl, ?_⟩
    rw [after]
    intro unchanged
    have none := Option.or_eq_none_iff.1 unchanged
    exact written.1 none.1 some

/-- The path of a version ends with the version. -/
lemma apiPath_append (group version : String) :
    (⟨group, version⟩ : GroupVersion).apiPath =
      (⟨group, ""⟩ : GroupVersion).apiPath ++ version := by
  unfold GroupVersion.apiPath
  split
  · simp
  · simp

/-- The segment of the version is empty in the paths of a kind if its version is empty or begins with
a slash. -/
lemma lacksVersion_iff {C : Type} (record : KindRecord C) (namespaceName : Option String) :
    LacksVersion record.kind.group (record.collectionPath namespaceName) ↔
      record.kind.version = "" ∨ ∃ rest, record.kind.version.toList = '/' :: rest := by
  obtain ⟨behind, path⟩ := record.collectionPath_eq namespaceName
  rw [path, GroupVersionKind.groupVersion, apiPath_append]
  unfold LacksVersion
  simp only [← String.toList_inj, String.toList_append, List.append_assoc, List.append_cancel_left_eq]
  cases record.kind.version.toList with
  | nil => exact iff_of_true ⟨behind, rfl⟩ (.inl rfl)
  | cons c version =>
    constructor
    · rintro ⟨rest, same⟩
      obtain ⟨rfl, _⟩ := List.cons.inj same
      exact .inr ⟨version, rfl⟩
    · rintro (empty | ⟨rest, same⟩)
      · cases empty
      · obtain ⟨rfl, rfl⟩ := List.cons.inj same
        refine ⟨String.ofList (version ++ "/".toList ++ behind.toList), ?_⟩
        simp

/-- A resource of a list is mapped under the kind that it should be of exactly if it blanks no name
of the list out. -/
theorem mapped_as_inherited_iff {list : ResourceList} {gv : GroupVersion}
    (read : GroupVersion.parse list.groupVersion = .ok gv) :
    (∀ r ∈ list.resources, r.IsWhole → ∃ kind,
      (∀ other, MappedUnder list.groupVersion r other ↔ other = kind) ∧ Adds list kind ∧
        (IsInheritedKind gv r kind ↔ ¬ r.BlanksOut gv)) ∧
    ((∀ kind, Adds list kind → kind.version ≠ "") ↔
      ∀ r ∈ list.resources, r.IsWhole → r.version ≠ some "") ∧
    ∀ (C : Type) (record : KindRecord C) namespaceName,
      LacksVersion record.kind.group (record.collectionPath namespaceName) ↔
        record.kind.version = "" ∨ ∃ rest, record.kind.version.toList = '/' :: rest := by
  have named : gv.version ≠ "" := (GroupVersion.parse_eq_ok_iff.1 read).2.version_ne_empty
  refine ⟨?_, ?_, fun _ => lacksVersion_iff⟩
  · intro r member whole
    exact ⟨kindOf gv r, fun other => mappedUnder_iff read whole, (adds_iff read).2
      ⟨r, member, whole, rfl⟩, isInheritedKind_kindOf_iff named⟩
  · simp only [adds_iff read]
    constructor
    · intro versions r member whole empty
      refine versions (kindOf gv r) ⟨r, member, whole, rfl⟩ ?_
      rw [kindOf, empty, Option.getD_some]
    · rintro nonempty kind ⟨r, member, whole, rfl⟩
      have own := nonempty r member whole
      rw [kindOf]
      cases version : r.version with
      | none => exact named
      | some v =>
        rintro rfl
        exact own version

/-- A resource that leaves its names to its list. -/
def gauge : ServedResource :=
  { name := "gauges", kind := "Gauge", namespaced := true }

/-- A resource with empty names. -/
def blankWidget : ServedResource :=
  { name := "widgets", kind := "Widget", namespaced := true, group := some "", version := some "" }

/-- A list with both, with a resource in another group, and with a part of a resource. -/
def gaugeList : ResourceList where
  groupVersion := "apps/v1"
  resources :=
    [gauge, { name := "meters", kind := "Meter", group := some "meters.io", version := some "v2" },
      { name := "gauges/status", kind := "Gauge", version := some "" }, blankWidget]

/-- The gauges are mapped under the kind that they are of. The widgets are not, and their kind has no
version. -/
theorem mapped_as_inherited_iff_gauges :
    GroupVersion.parse gaugeList.groupVersion = .ok ⟨"apps", "v1"⟩ ∧
      (∃ kind, MappedUnder gaugeList.groupVersion gauge kind ∧
        IsInheritedKind ⟨"apps", "v1"⟩ gauge kind) ∧
      (∃ kind, MappedUnder gaugeList.groupVersion blankWidget kind ∧
        ¬ IsInheritedKind ⟨"apps", "v1"⟩ blankWidget kind) ∧
      ∃ kind, Adds gaugeList kind ∧ kind.version = "" := by
  have read : GroupVersion.parse gaugeList.groupVersion = .ok ⟨"apps", "v1"⟩ := by decide
  obtain ⟨kinds, versions, _⟩ := mapped_as_inherited_iff read
  obtain ⟨gaugeKind, gauges, _, inherited⟩ := kinds gauge (by decide) (by decide)
  obtain ⟨widgetKind, widgets, _, blanked⟩ := kinds blankWidget (by decide) (by decide)
  refine ⟨read, ⟨gaugeKind, (gauges _).2 rfl, inherited.2 (by decide)⟩,
    ⟨widgetKind, (widgets _).2 rfl, fun kept => blanked.1 kept (by decide)⟩, ?_⟩
  by_contra none
  push Not at none
  exact versions.1 none blankWidget (by decide) (by decide) rfl

/-- What is known of the widgets with empty names, without a client. -/
def blankRecord : KindRecord Unit :=
  { client := (), kind := ⟨"", "", "Widget"⟩
    mapping := blankWidget.mappingUnder ⟨"", "", "Widget"⟩ }

/-- Widgets with empty names in a list for a named group end up in the core group, under an empty
version. -/
theorem blank_names_not_inherited :
    GroupVersion.parse "apps/v1" = .ok ⟨"apps", "v1"⟩ ∧ blankWidget.IsWhole ∧
      IsInheritedKind ⟨"apps", "v1"⟩ blankWidget ⟨"apps", "v1", "Widget"⟩ ∧
      ¬ MappedUnder "apps/v1" blankWidget ⟨"apps", "v1", "Widget"⟩ ∧
      (after {} [.insertList ⟨"apps/v1", [blankWidget]⟩]).mappingOf ⟨"apps", "Widget"⟩ "v1" =
        .error (.unmapped "apps" "Widget" "v1") ∧
      (after {} [.insertList ⟨"apps/v1", [blankWidget]⟩]).mappingOf ⟨"", "Widget"⟩ "" =
        .ok blankRecord.mapping ∧
      LacksVersion "" (blankRecord.collectionPath (some "blog")) := by
  have read : GroupVersion.parse "apps/v1" = .ok ⟨"apps", "v1"⟩ := by decide
  have whole : blankWidget.IsWhole := by decide
  refine ⟨read, whole, ⟨.blank, .blank, rfl⟩, ?_, by decide, by decide, ?_⟩
  · rw [mappedUnder_iff read whole]
    decide
  · exact ⟨"namespaces/blog/widgets", by decide⟩

end RestMapper

end KindResolution

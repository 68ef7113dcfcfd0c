import KindResolution.ApiType
import KindResolution.KindRecord
import KindResolution.Proofs.Collection.Address

/-!
# What is said by a path

The path of a collection, or of an object in one, is a sequence of segments: where a version of a
group is served, a namespace where there is one, the resource, and the name of the object. Behind the
version stand one to four segments, and their number tells the four forms of a path apart, so that
`AddressParts.ofSegments?` reads all parts off it again (`AddressParts.ofSegments?_segments`). Two
addresses have one path only if they say the same: `KindRecord.addressPath_eq_iff`.
-/

namespace KindResolution

open Text

/-- What an address says: the resource in a version of a group, the namespace if it is one in a
namespace, and the name of an object if it is about one. -/
structure AddressParts where
  group : String
  version : String
  plural : String
  namespaceName : Option String
  name : Option String
  deriving DecidableEq, Repr

namespace AddressParts

/-- The segments in front of the resource and behind the version. -/
def namespaceSegments : Option String → List String
  | some name => ["namespaces", name]
  | none => []

/-- The segments of the path of an address. -/
def segments (p : AddressParts) : List String :=
  (if p.group = "" then ["api", p.version] else ["apis", p.group, p.version]) ++
    (namespaceSegments p.namespaceName ++ p.plural :: p.name.toList)

/-- Reads what stands behind a version. -/
def below (group version : String) : List String → Option AddressParts
  | [plural] => some ⟨group, version, plural, none, none⟩
  | [plural, name] => some ⟨group, version, plural, none, some name⟩
  | [_, namespaceName, plural] => some ⟨group, version, plural, some namespaceName, none⟩
  | [_, namespaceName, plural, name] =>
    some ⟨group, version, plural, some namespaceName, some name⟩
  | _ => none

/-- Reads the segments of a path. -/
def ofSegments? : List String → Option AddressParts
  | root :: version :: rest =>
    if root = "api" then below "" version rest
    else match rest with
      | version' :: rest => below version version' rest
      | [] => none
  | _ => none

/-- No part of an address holds a slash. -/
structure SlashFree (p : AddressParts) : Prop where
  group : '/' ∉ p.group.toList
  version : '/' ∉ p.version.toList
  plural : '/' ∉ p.plural.toList
  namespaceName : ∀ name ∈ p.namespaceName, '/' ∉ name.toList
  name : ∀ name ∈ p.name, '/' ∉ name.toList

/-- Whether an address is free of slashes can be computed. -/
instance (p : AddressParts) : Decidable p.SlashFree :=
  decidable_of_iff
    ('/' ∉ p.group.toList ∧ '/' ∉ p.version.toList ∧ '/' ∉ p.plural.toList ∧
      (∀ name ∈ p.namespaceName, '/' ∉ name.toList) ∧ ∀ name ∈ p.name, '/' ∉ name.toList)
    ⟨fun ⟨group, version, plural, inNamespace, name⟩ => ⟨group, version, plural, inNamespace, name⟩,
      fun free => ⟨free.group, free.version, free.plural, free.namespaceName, free.name⟩⟩

/-- What stands behind a version is read off the segments there. -/
lemma below_segments (p : AddressParts) :
    below p.group p.version (namespaceSegments p.namespaceName ++ p.plural :: p.name.toList) =
      some p := by
  obtain ⟨group, version, plural, namespaceName, name⟩ := p
  cases namespaceName <;> cases name <;> rfl

/-- All that an address says is read off the segments of its path. -/
theorem ofSegments?_segments (p : AddressParts) : ofSegments? p.segments = some p := by
  by_cases core : p.group = ""
  · have read := p.below_segments
    rw [core] at read
    rw [segments, if_pos core]
    exact read
  · rw [segments, if_neg core]
    exact p.below_segments

/-- The text of the path of an address. -/
def path (p : AddressParts) : List Char :=
  p.segments.flatMap fun segment => '/' :: segment.toList

/-- Reads a path. In front of the first slash stands nothing. -/
def ofPath? (path : List Char) : Option AddressParts :=
  ofSegments? (((FormEncoding.splitAt '/' path).drop 1).map String.ofList)

/-- The path of an object is that of the collection with one more segment. -/
lemma path_withName (p : AddressParts) (name : String) :
    ({ p with name := some name } : AddressParts).path =
      ({ p with name := none } : AddressParts).path ++ '/' :: name.toList := by
  simp [path, segments]

/-- No segment of an address without slashes holds a slash. -/
lemma SlashFree.not_mem {p : AddressParts} (free : p.SlashFree) :
    ∀ segment ∈ p.segments, '/' ∉ segment.toList := by
  have root : ∀ segment ∈ if p.group = "" then ["api", p.version] else ["apis", p.group, p.version],
      '/' ∉ segment.toList := by
    split
    · simpa using free.version
    · simpa using ⟨free.group, free.version⟩
  have inNamespace : ∀ segment ∈ namespaceSegments p.namespaceName, '/' ∉ segment.toList := by
    cases named : p.namespaceName with
    | none => simp [namespaceSegments]
    | some name => simpa [namespaceSegments] using free.namespaceName name named
  have name : ∀ segment ∈ p.name.toList, '/' ∉ segment.toList := by
    simpa using free.name
  intro segment member
  rw [segments, List.mem_append, List.mem_append, List.mem_cons] at member
  obtain member | member | rfl | member := member
  · exact root segment member
  · exact inNamespace segment member
  · exact free.plural
  · exact name segment member

/-- All that an address says is read off its path, if it holds no slash. -/
theorem ofPath?_path {p : AddressParts} (free : p.SlashFree) : ofPath? p.path = some p := by
  have parts : FormEncoding.splitAt '/' p.path = [] :: p.segments.map String.toList :=
    FormEncoding.splitAt_append_flatMap free.not_mem []
  have back : (p.segments.map String.toList).map String.ofList = p.segments := by
    rw [List.map_map]
    exact List.map_id'' (fun _ => String.ofList_toList) _
  rw [ofPath?, parts, List.drop_one, List.tail_cons, back, ofSegments?_segments]

end AddressParts

namespace KindRecord

variable {C D : Type}

/-- The namespace that counts: kinds whose objects do not live in namespaces have none. -/
def effectiveNamespace (m : KindRecord C) (namespaceName : Option String) : Option String :=
  match m.mapping.scope with
  | .cluster => none
  | .namespaced => namespaceName

/-- What the address of a collection says, or of the object of a name in it. -/
def addressParts (m : KindRecord C) (namespaceName name : Option String) : AddressParts where
  group := m.kind.group
  version := m.kind.version
  plural := m.plural
  namespaceName := m.effectiveNamespace namespaceName
  name := name

/-- The path of a collection, or of the object of a name in it. -/
def addressPath (m : KindRecord C) (namespaceName : Option String) :
    Option String → Except RequestError String
  | none => .ok (m.collectionPath namespaceName)
  | some name => (m.collection namespaceName).pathOf name

/-- The path of a version is made of two or three segments. -/
lemma toList_apiPath (gv : GroupVersion) :
    gv.apiPath.toList =
      (if gv.group = "" then ["api", gv.version] else ["apis", gv.group, gv.version]).flatMap
        fun segment => '/' :: segment.toList := by
  unfold GroupVersion.apiPath
  split <;> simp

/-- The path of a collection is made of what its address says. -/
lemma toList_collectionPath (m : KindRecord C) (namespaceName : Option String) :
    (m.collectionPath namespaceName).toList = (m.addressParts namespaceName none).path := by
  have api := toList_apiPath m.kind.groupVersion
  unfold AddressParts.path AddressParts.segments collectionPath
  rw [List.flatMap_append, String.toList_append, String.toList_append, String.toList_append, api,
    List.append_assoc, List.append_assoc]
  congr 1
  -- a namespace that is given stands in the path only where objects live in namespaces
  cases scope : m.mapping.scope <;> cases namespaceName <;>
    simp [addressParts, effectiveNamespace, AddressParts.namespaceSegments, isNamespaced, scope]

/-- The path of an address is made of what the address says. -/
lemma toList_addressPath {m : KindRecord C} {namespaceName name : Option String} {path : String}
    (addressed : m.addressPath namespaceName name = .ok path) :
    path.toList = (m.addressParts namespaceName name).path := by
  cases name with
  | none =>
    cases addressed
    exact m.toList_collectionPath namespaceName
  | some name =>
    obtain ⟨_, rfl⟩ := Collection.pathOf_eq_ok_iff.1 addressed
    have below := AddressParts.path_withName (m.addressParts namespaceName none) name
    rw [String.toList_append, String.toList_append, collection, toList_collectionPath]
    exact (List.append_assoc ..).trans below.symm

/-- Two addresses without slashes in their parts have one path exactly if they say the same. -/
theorem addressPath_eq_iff {m : KindRecord C} {m' : KindRecord D}
    {namespaceName namespaceName' name name' : Option String} {path path' : String}
    (free : (m.addressParts namespaceName name).SlashFree)
    (free' : (m'.addressParts namespaceName' name').SlashFree)
    (addressed : m.addressPath namespaceName name = .ok path)
    (addressed' : m'.addressPath namespaceName' name' = .ok path') :
    path = path' ↔
      m.kind.group = m'.kind.group ∧ m.kind.version = m'.kind.version ∧ m.plural = m'.plural ∧
        m.effectiveNamespace namespaceName = m'.effectiveNamespace namespaceName' ∧
        name = name' := by
  have text := toList_addressPath addressed
  have text' := toList_addressPath addressed'
  rw [← String.toList_inj, text, text']
  constructor
  · intro same
    -- what one path says is read off the other
    have read := AddressParts.ofPath?_path free
    rw [same, AddressParts.ofPath?_path free'] at read
    simpa [addressParts, eq_comm] using read
  · rintro ⟨group, version, plural, inNamespace, name⟩
    rw [addressParts, addressParts, group, version, plural, inNamespace, name]

/-- What is known of a built-in type, without a client. -/
def ofType (t : ApiType) : KindRecord Unit :=
  { client := (), kind := t.kind, mapping := t.mapping }

/-- The namespace that is called `pods` is found at one path, and this is not the path of the pods
in any namespace. -/
theorem addressPath_eq_iff_namespaces : ∃ object again collection : String,
    (ofType .namespaceObject).addressPath none (some "pods") = .ok object ∧
      (ofType .namespaceObject).addressPath (some "blog") (some "pods") = .ok again ∧
      (ofType .pod).addressPath (some "") none = .ok collection ∧
      object = again ∧ object ≠ collection := by
  have object : (ofType .namespaceObject).addressPath none (some "pods") =
      .ok "/api/v1/namespaces/pods" := by decide
  have again : (ofType .namespaceObject).addressPath (some "blog") (some "pods") =
      .ok "/api/v1/namespaces/pods" := by decide
  have collection : (ofType .pod).addressPath (some "") none = .ok "/api/v1/namespaces//pods" := by
    decide
  refine ⟨_, _, _, object, again, collection, ?_, ?_⟩
  · exact (addressPath_eq_iff (by decide) (by decide) object again).2 ⟨rfl, rfl, rfl, rfl, rfl⟩
  · intro same
    obtain ⟨_, _, plural, _⟩ :=
      (addressPath_eq_iff (by decide) (by decide) object collection).1 same
    exact absurd plural (by decide)

end KindRecord

end KindResolution

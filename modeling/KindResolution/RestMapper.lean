import KindResolution.ApiType
import KindResolution.ResourceList
import KindResolution.Table
import KindResolution.Text.Quoted

/-!
# Mappers

A mapper knows where kinds are served. It is filled by hand, with built-in types, or from the lists
of resources that a server publishes; what is said last about a kind counts.
-/

namespace KindResolution

/-- The reasons why it is not known where a kind is served. -/
inductive MappingError where
  | unmapped (group kind version : String)
  | malformedVersion (error : MalformedApiVersion)
  deriving DecidableEq, Repr

/-- The text of an error. -/
def MappingError.message : MappingError → String
  | .unmapped group kind version =>
    "no matches for kind " ++ Text.quote kind ++ " in version \"" ++ group ++ "/" ++ version ++ "\""
  | .malformedVersion e => "invalid group version in discovery document: " ++ e.message

/-- Where kinds are served. -/
structure RestMapper where
  mappings : Table GroupVersionKind RestMapping := .empty

namespace RestMapper

/-- Adds a kind under a resource. -/
def insert (m : RestMapper) (kind : GroupVersionKind) (plural : String) (scope : Scope) :
    RestMapper :=
  { mappings := m.mappings.insert kind (.ofPlural kind plural scope) }

/-- Adds a kind under the resource that is named by its plural. -/
def insertRegular (m : RestMapper) (kind : GroupVersionKind) (scope : Scope) : RestMapper :=
  { mappings := m.mappings.insert kind (.regular kind scope) }

/-- Adds the kind of a built-in type. -/
def insertType (m : RestMapper) (type : ApiType) : RestMapper :=
  m.insert type.kind type.plural type.scope

/-- The kind of a resource in a list for a group and version. -/
def kindOf (gv : GroupVersion) (r : ServedResource) : GroupVersionKind :=
  ⟨r.group.getD gv.group, r.version.getD gv.version, r.kind⟩

/-- Adds a resource of a list, unless it is a part of another resource. -/
def insertServed (gv : GroupVersion) (m : RestMapper) (r : ServedResource) : RestMapper :=
  if r.name.toList.contains '/' then m
  else m.insert (kindOf gv r) r.name (.ofNamespaced r.namespaced)

/-- Adds the resources that a server publishes. -/
def insertList (m : RestMapper) (l : ResourceList) : Except MappingError RestMapper := do
  let gv ← (GroupVersion.parse l.groupVersion).mapError .malformedVersion
  return l.resources.foldl (insertServed gv) m

/-- Where a kind is served in a version. -/
def mappingOf (m : RestMapper) (kind : GroupKind) (version : String) :
    Except MappingError RestMapping :=
  match m.mappings.find? (kind.inVersion version) with
  | some mapping => .ok mapping
  | none => .error (.unmapped kind.group kind.kind version)

/-- What is said of a kind in its version is what the mapper holds under it. -/
theorem mappingOf_eq_ok_iff {m : RestMapper} {kind : GroupVersionKind} {mapping : RestMapping} :
    m.mappingOf kind.groupKind kind.version = .ok mapping ↔
      m.mappings.find? kind = some mapping := by
  rw [mappingOf, GroupKind.inVersion_groupKind]
  cases m.mappings.find? kind <;> simp

/-- The number of kinds. -/
def size (m : RestMapper) : Nat :=
  m.mappings.size

/-- Whether no kind has been added. -/
def isEmpty (m : RestMapper) : Bool :=
  m.size == 0

end RestMapper

end KindResolution

/-!
# Kinds

The names by which an API tells its types apart: a group, a version in the group, and a kind in
that; and the resource under which objects of the kind are served. Objects carry the first two
joined into one text, their `apiVersion`, which `GroupVersion.parse` takes apart again.
-/

namespace KindResolution

/-- A group and a version in it. The core group has the empty name. -/
structure GroupVersion where
  group : String
  version : String
  deriving DecidableEq, Repr

/-- A kind in a version of a group. -/
structure GroupVersionKind where
  group : String
  version : String
  kind : String
  deriving DecidableEq, Repr

/-- A kind in a group, whatever the version. -/
structure GroupKind where
  group : String
  kind : String
  deriving DecidableEq, Repr

/-- A resource in a version of a group. -/
structure GroupVersionResource where
  group : String
  version : String
  resource : String
  deriving DecidableEq, Repr

/-- The names of its type that an object carries. -/
structure TypeMeta where
  apiVersion : String
  kind : String
  deriving DecidableEq, Repr

/-- A text that does not name a version of a group. -/
structure MalformedApiVersion where
  text : String
  deriving DecidableEq, Repr

/-- The text of the error. -/
def MalformedApiVersion.message (e : MalformedApiVersion) : String :=
  "failed to parse group version: " ++ e.text

/-- A group and a version joined by a slash; a version of the core group stands alone. -/
def joinGroupVersion (group version : String) : String :=
  if group = "" then version else group ++ "/" ++ version

namespace GroupVersion

/-- The text that objects carry as their `apiVersion`. -/
def apiVersion (gv : GroupVersion) : String :=
  joinGroupVersion gv.group gv.version

/-- The path below which a version is served: `/api` for the core group, `/apis` for the others. -/
def apiPath (gv : GroupVersion) : String :=
  if gv.group = "" then "/api/" ++ gv.version
  else "/apis/" ++ gv.group ++ "/" ++ gv.version

/-- Reads an `apiVersion`: a version, or a group and a version with a slash between them. Neither
may be empty, and the version may not contain a slash. -/
def parse (s : String) : Except MalformedApiVersion GroupVersion :=
  let first := s.toList.takeWhile (· != '/')
  match s.toList.drop first.length with
  | [] => if first.isEmpty then .error ⟨s⟩ else .ok ⟨"", s⟩
  | _ :: version =>
    if first.isEmpty || version.isEmpty || version.contains '/' then .error ⟨s⟩
    else .ok ⟨String.ofList first, String.ofList version⟩

end GroupVersion

namespace GroupVersionKind

/-- The group and the version of a kind. -/
def groupVersion (k : GroupVersionKind) : GroupVersion :=
  ⟨k.group, k.version⟩

/-- The text that objects of a kind carry as their `apiVersion`. -/
def apiVersion (k : GroupVersionKind) : String :=
  joinGroupVersion k.group k.version

/-- A kind without its version. -/
def groupKind (k : GroupVersionKind) : GroupKind :=
  ⟨k.group, k.kind⟩

/-- What the name of a kind of lists ends in. -/
def listSuffix : String := "List"

/-- The kind of the lists of objects of a kind. -/
def listKind (k : GroupVersionKind) : GroupVersionKind :=
  { k with kind := k.kind ++ listSuffix }

/-- The kind of the objects in lists of a kind, if the name of the kind ends as those of lists do
and has something in front of that. -/
def itemKind? (k : GroupVersionKind) : Option GroupVersionKind :=
  match listSuffix.toList.isSuffixOf? k.kind.toList with
  | some (c :: rest) => some { k with kind := String.ofList (c :: rest) }
  | _ => none

/-- The text of a kind. -/
def text (k : GroupVersionKind) : String :=
  k.apiVersion ++ ", Kind=" ++ k.kind

end GroupVersionKind

namespace GroupKind

/-- A kind pinned to a version. -/
def inVersion (k : GroupKind) (version : String) : GroupVersionKind :=
  ⟨k.group, version, k.kind⟩

/-- The kind within a group, put back into its version, is the kind. -/
@[simp] theorem inVersion_groupKind (k : GroupVersionKind) :
    k.groupKind.inVersion k.version = k := rfl

/-- The text of a kind without version: the group stands behind a point, unless it is the core
group. -/
def text (k : GroupKind) : String :=
  if k.group = "" then k.kind else k.kind ++ "." ++ k.group

end GroupKind

namespace GroupVersionResource

/-- The `apiVersion` of the objects of a resource. -/
def apiVersion (r : GroupVersionResource) : String :=
  joinGroupVersion r.group r.version

end GroupVersionResource

namespace TypeMeta

/-- What objects of a kind carry. -/
def ofKind (k : GroupVersionKind) : TypeMeta :=
  ⟨k.apiVersion, k.kind⟩

/-- What lists of objects of a kind carry. -/
def ofListKind (k : GroupVersionKind) : TypeMeta :=
  ofKind k.listKind

/-- The kind that an object with these names is of. -/
def groupVersionKind (t : TypeMeta) : Except MalformedApiVersion GroupVersionKind := do
  let gv ← GroupVersion.parse t.apiVersion
  return ⟨gv.group, gv.version, t.kind⟩

end TypeMeta

end KindResolution

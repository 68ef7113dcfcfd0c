import KindResolution.Json.Decode
import KindResolution.Kind

/-!
# Kinds in JSON

Each of the records that name a kind is an object with its fields in their order, and is read from
such an object or from the array of its values.
-/

namespace KindResolution

open Json

/-- The value of a group version. -/
def GroupVersion.toJson (gv : GroupVersion) : Json :=
  .object [("group", .string gv.group), ("version", .string gv.version)]

/-- The value of a kind. -/
def GroupVersionKind.toJson (k : GroupVersionKind) : Json :=
  .object [("group", .string k.group), ("version", .string k.version), ("kind", .string k.kind)]

/-- The value of a kind without version. -/
def GroupKind.toJson (k : GroupKind) : Json :=
  .object [("group", .string k.group), ("kind", .string k.kind)]

/-- The value of a resource. -/
def GroupVersionResource.toJson (r : GroupVersionResource) : Json :=
  .object [("group", .string r.group), ("version", .string r.version),
    ("resource", .string r.resource)]

/-- The members that the names of its type are in the value of an object. -/
def TypeMeta.members (t : TypeMeta) : List (String × Json) :=
  [("apiVersion", .string t.apiVersion), ("kind", .string t.kind)]

/-- The value of the names of a type. -/
def TypeMeta.toJson (t : TypeMeta) : Json :=
  .object t.members

/-- The names of a kind read so far. -/
structure KindFields where
  group : Option String := none
  version : Option String := none
  kind : Option String := none
  resource : Option String := none
  apiVersion : Option String := none

namespace KindFields

/-- The field of the group. -/
def groupField : RecordField KindFields :=
  .once "group" group (fun st v => { st with group := some v }) Decoder.string

/-- The field of the version. -/
def versionField : RecordField KindFields :=
  .once "version" version (fun st v => { st with version := some v }) Decoder.string

/-- The field of the kind. -/
def kindField : RecordField KindFields :=
  .once "kind" kind (fun st v => { st with kind := some v }) Decoder.string

/-- The field of the resource. -/
def resourceField : RecordField KindFields :=
  .once "resource" resource (fun st v => { st with resource := some v }) Decoder.string

/-- The field of the group and the version in one text. -/
def apiVersionField : RecordField KindFields :=
  .once "apiVersion" apiVersion (fun st v => { st with apiVersion := some v }) Decoder.string

end KindFields

open KindFields Decoder

/-- Decodes a group version. -/
def GroupVersion.decoder : Decoder GroupVersion :=
  record "GroupVersion" [groupField, versionField] {} fun st => do
    return { group := ← required "group" st.group, version := ← required "version" st.version }

/-- Decodes a kind. -/
def GroupVersionKind.decoder : Decoder GroupVersionKind :=
  record "GroupVersionKind" [groupField, versionField, kindField] {} fun st => do
    return { group := ← required "group" st.group, version := ← required "version" st.version
             kind := ← required "kind" st.kind }

/-- Decodes a kind without version. -/
def GroupKind.decoder : Decoder GroupKind :=
  record "GroupKind" [groupField, kindField] {} fun st => do
    return { group := ← required "group" st.group, kind := ← required "kind" st.kind }

/-- Decodes a resource. -/
def GroupVersionResource.decoder : Decoder GroupVersionResource :=
  record "GroupVersionResource" [groupField, versionField, resourceField] {} fun st => do
    return { group := ← required "group" st.group, version := ← required "version" st.version
             resource := ← required "resource" st.resource }

/-- Decodes the names of a type. -/
def TypeMeta.decoder : Decoder TypeMeta :=
  record "TypeMeta" [apiVersionField, kindField] {} fun st => do
    return { apiVersion := ← required "apiVersion" st.apiVersion
             kind := ← required "kind" st.kind }

end KindResolution

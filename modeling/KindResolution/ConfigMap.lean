import KindResolution.Kind.Json
import KindResolution.Metadata

/-!
# Config maps

An object of the core group that holds texts and bytes under names. It is the one built-in object
whose content is read in full.
-/

namespace KindResolution

open Json

/-- A config map. -/
structure ConfigMap where
  binaryData : Option (SortedMap (List UInt8)) := none
  data : Option (SortedMap String) := none
  immutable : Option Bool := none
  objectMeta : ObjectMeta := {}

namespace ConfigMap

/-- The kind of config maps. -/
def groupVersionKind : GroupVersionKind := ⟨"", "v1", "ConfigMap"⟩

/-- A map of bytes as a value, with the bytes in base64. -/
def ofBytesMap (m : SortedMap (List UInt8)) : Json :=
  .object (m.entries.map fun entry =>
    (entry.1, .string (String.ofList (Text.Base64.encode entry.2))))

/-- The value of a config map, which names its type first. -/
def toJson (c : ConfigMap) : Json :=
  .object <| (TypeMeta.ofKind groupVersionKind).members ++ presentMembers
    [("binaryData", c.binaryData.map ofBytesMap),
      ("data", c.data.map ofTextMap),
      ("immutable", c.immutable.map .bool),
      ("metadata", some c.objectMeta.toJson)]

open Decoder

/-- Decodes a config map. The names of the type may be left out, but not be others. -/
def decoder : Decoder ConfigMap :=
  resource "ConfigMap"
    [.constant "apiVersion" groupVersionKind.apiVersion,
      .constant "kind" groupVersionKind.kind,
      .optional "binaryData" (fun c v => { c with binaryData := v }) (map base64),
      .optional "data" (fun c v => { c with data := v }) (map string),
      .optional "immutable" (fun c v => { c with immutable := v }) bool,
      .optional "metadata" (fun c v => { c with objectMeta := v.getD {} }) ObjectMeta.decoder] {}

end ConfigMap

end KindResolution

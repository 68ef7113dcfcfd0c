import KindResolution.Metadata

/-!
# Lists of the resources of a version

The document in which a server says which resources it serves in one version of a group. A resource
may name a group and a version of its own, and a name with a slash in it is that of a part of
another resource.
-/

namespace KindResolution

open Json

/-- A resource that a server offers. -/
structure ServedResource where
  name : String := ""
  kind : String := ""
  namespaced : Bool := false
  group : Option String := none
  version : Option String := none
  deriving DecidableEq, Repr

/-- The resources that a server offers in one version of a group. -/
structure ResourceList where
  groupVersion : String := ""
  resources : List ServedResource := []
  deriving DecidableEq, Repr

open Decoder

/-- A field whose value is checked and then not used. -/
def Json.RecordField.checked {σ α : Type} (key : String) (decoder : Decoder α) : RecordField σ :=
  .optional key (fun st _ => st) decoder

/-- Decodes a resource that a server offers. -/
def ServedResource.decoder : Decoder ServedResource :=
  resource "APIResource"
    [.checked "categories" (list string),
      .optional "group" (fun r v => { r with group := v }) string,
      .optional "kind" (fun r v => { r with kind := v.getD "" }) string,
      .optional "name" (fun r v => { r with name := v.getD "" }) string,
      .optional "namespaced" (fun r v => { r with namespaced := v.getD false }) bool,
      .checked "shortNames" (list string),
      .checked "singularName" string,
      .checked "storageVersionHash" string,
      .checked "verbs" (list string),
      .optional "version" (fun r v => { r with version := v }) string] {}

/-- Decodes the resources that a server offers. -/
def ResourceList.decoder : Decoder ResourceList :=
  resource "APIResourceList"
    [.constant "apiVersion" "v1",
      .constant "kind" "APIResourceList",
      .optional "groupVersion" (fun l v => { l with groupVersion := v.getD "" }) string,
      .optional "resources" (fun l v => { l with resources := v.getD [] })
        (list ServedResource.decoder)] {}

end KindResolution

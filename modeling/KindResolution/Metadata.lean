import KindResolution.Json.Decode

/-!
# Metadata of objects and lists

What every object of an API carries besides its type: names, labels, owners and versions; and what
lists of objects carry. In JSON a field that is absent is left out, and null stands for an absent
field.
-/

namespace KindResolution

open Json

/-- A reference to an object that owns another. -/
structure OwnerReference where
  apiVersion : String := ""
  blockOwnerDeletion : Option Bool := none
  controller : Option Bool := none
  kind : String := ""
  name : String := ""
  uid : String := ""
  deriving DecidableEq

/-- The record of one writer of an object. -/
structure ManagedFieldsEntry where
  apiVersion : Option String := none
  fieldsType : Option String := none
  fieldsV1 : Option Json := none
  manager : Option String := none
  operation : Option String := none
  subresource : Option String := none
  time : Option Timestamp := none

/-- The metadata of an object. -/
structure ObjectMeta where
  annotations : Option (SortedMap String) := none
  creationTimestamp : Option Timestamp := none
  deletionGracePeriodSeconds : Option Int64 := none
  deletionTimestamp : Option Timestamp := none
  finalizers : Option (List String) := none
  generateName : Option String := none
  generation : Option Int64 := none
  labels : Option (SortedMap String) := none
  managedFields : Option (List ManagedFieldsEntry) := none
  name : Option String := none
  namespaceName : Option String := none
  ownerReferences : Option (List OwnerReference) := none
  resourceVersion : Option String := none
  selfLink : Option String := none
  uid : Option String := none

/-- The metadata of a list of objects. -/
structure ListMeta where
  continueToken : Option String := none
  remainingItemCount : Option Int64 := none
  resourceVersion : Option String := none
  selfLink : Option String := none
  deriving DecidableEq

/-- An integer of 64 bits as a value. -/
def Json.ofInt64 (n : Int64) : Json :=
  .number (.integer n.toInt)

/-- A timestamp as a value. -/
def Json.ofTimestamp (t : Timestamp) : Json :=
  .string t.text

/-- The value of a reference to an owner. -/
def OwnerReference.toJson (r : OwnerReference) : Json :=
  .object <| presentMembers
    [("apiVersion", some (.string r.apiVersion)),
      ("blockOwnerDeletion", r.blockOwnerDeletion.map .bool),
      ("controller", r.controller.map .bool),
      ("kind", some (.string r.kind)),
      ("name", some (.string r.name)),
      ("uid", some (.string r.uid))]

/-- The value of the record of a writer. -/
def ManagedFieldsEntry.toJson (e : ManagedFieldsEntry) : Json :=
  .object <| presentMembers
    [("apiVersion", e.apiVersion.map .string),
      ("fieldsType", e.fieldsType.map .string),
      ("fieldsV1", e.fieldsV1),
      ("manager", e.manager.map .string),
      ("operation", e.operation.map .string),
      ("subresource", e.subresource.map .string),
      ("time", e.time.map ofTimestamp)]

/-- The value of the metadata of an object. -/
def ObjectMeta.toJson (m : ObjectMeta) : Json :=
  .object <| presentMembers
    [("annotations", m.annotations.map ofTextMap),
      ("creationTimestamp", m.creationTimestamp.map ofTimestamp),
      ("deletionGracePeriodSeconds", m.deletionGracePeriodSeconds.map ofInt64),
      ("deletionTimestamp", m.deletionTimestamp.map ofTimestamp),
      ("finalizers", m.finalizers.map ofTexts),
      ("generateName", m.generateName.map .string),
      ("generation", m.generation.map ofInt64),
      ("labels", m.labels.map ofTextMap),
      ("managedFields", m.managedFields.map fun es => .array (es.map ManagedFieldsEntry.toJson)),
      ("name", m.name.map .string),
      ("namespace", m.namespaceName.map .string),
      ("ownerReferences", m.ownerReferences.map fun rs => .array (rs.map OwnerReference.toJson)),
      ("resourceVersion", m.resourceVersion.map .string),
      ("selfLink", m.selfLink.map .string),
      ("uid", m.uid.map .string)]

/-- The value of the metadata of a list. -/
def ListMeta.toJson (m : ListMeta) : Json :=
  .object <| presentMembers
    [("continue", m.continueToken.map .string),
      ("remainingItemCount", m.remainingItemCount.map ofInt64),
      ("resourceVersion", m.resourceVersion.map .string),
      ("selfLink", m.selfLink.map .string)]

open Decoder

/-- Decodes a reference to an owner. -/
def OwnerReference.decoder : Decoder OwnerReference :=
  resource "OwnerReference"
    [.optional "apiVersion" (fun r v => { r with apiVersion := v.getD "" }) string,
      .optional "blockOwnerDeletion" (fun r v => { r with blockOwnerDeletion := v }) bool,
      .optional "controller" (fun r v => { r with controller := v }) bool,
      .optional "kind" (fun r v => { r with kind := v.getD "" }) string,
      .optional "name" (fun r v => { r with name := v.getD "" }) string,
      .optional "uid" (fun r v => { r with uid := v.getD "" }) string] {}

/-- Decodes the record of a writer. -/
def ManagedFieldsEntry.decoder : Decoder ManagedFieldsEntry :=
  resource "ManagedFieldsEntry"
    [.optional "apiVersion" (fun e v => { e with apiVersion := v }) string,
      .optional "fieldsType" (fun e v => { e with fieldsType := v }) string,
      .optional "fieldsV1" (fun e v => { e with fieldsV1 := v }) any,
      .optional "manager" (fun e v => { e with manager := v }) string,
      .optional "operation" (fun e v => { e with operation := v }) string,
      .optional "subresource" (fun e v => { e with subresource := v }) string,
      .optional "time" (fun e v => { e with time := v }) timestamp] {}

/-- Decodes the metadata of an object. -/
def ObjectMeta.decoder : Decoder ObjectMeta :=
  resource "ObjectMeta"
    [.optional "annotations" (fun m v => { m with annotations := v }) (map string),
      .optional "creationTimestamp" (fun m v => { m with creationTimestamp := v }) timestamp,
      .optional "deletionGracePeriodSeconds"
        (fun m v => { m with deletionGracePeriodSeconds := v }) int64,
      .optional "deletionTimestamp" (fun m v => { m with deletionTimestamp := v }) timestamp,
      .optional "finalizers" (fun m v => { m with finalizers := v }) (list string),
      .optional "generateName" (fun m v => { m with generateName := v }) string,
      .optional "generation" (fun m v => { m with generation := v }) int64,
      .optional "labels" (fun m v => { m with labels := v }) (map string),
      .optional "managedFields" (fun m v => { m with managedFields := v })
        (list ManagedFieldsEntry.decoder),
      .optional "name" (fun m v => { m with name := v }) string,
      .optional "namespace" (fun m v => { m with namespaceName := v }) string,
      .optional "ownerReferences" (fun m v => { m with ownerReferences := v })
        (list OwnerReference.decoder),
      .optional "resourceVersion" (fun m v => { m with resourceVersion := v }) string,
      .optional "selfLink" (fun m v => { m with selfLink := v }) string,
      .optional "uid" (fun m v => { m with uid := v }) string] {}

/-- Decodes the metadata of a list. -/
def ListMeta.decoder : Decoder ListMeta :=
  resource "ListMeta"
    [.optional "continue" (fun m v => { m with continueToken := v }) string,
      .optional "remainingItemCount" (fun m v => { m with remainingItemCount := v }) int64,
      .optional "resourceVersion" (fun m v => { m with resourceVersion := v }) string,
      .optional "selfLink" (fun m v => { m with selfLink := v }) string] {}

end KindResolution

import KindResolution.Collection
import KindResolution.Metadata
import KindResolution.RestMapping

/-!
# What is known of a kind

The record that a resolution ends in: a client, the kind it was built for, and where that is served;
from these come the paths of collections. A `ResolvedObject` is such a record together with the
metadata of one object of the kind.
-/

namespace KindResolution

/-- What is known of a kind, with a client of some type. -/
structure KindRecord (C : Type) where
  client : C
  kind : GroupVersionKind
  mapping : RestMapping
  deriving DecidableEq, Repr

namespace KindRecord

variable {C : Type}

/-- Whether the objects of the kind live in namespaces. -/
def isNamespaced (m : KindRecord C) : Bool :=
  m.mapping.scope != .cluster

/-- The name of the resource in paths. -/
def plural (m : KindRecord C) : String :=
  m.mapping.resource.resource

/-- The path of the collection of all objects, or of those in a namespace. Kinds whose objects do
not live in namespaces have the first one only. -/
def collectionPath (m : KindRecord C) (namespaceName : Option String) : String :=
  let inNamespace := match namespaceName with
    | some name => if m.isNamespaced then "namespaces/" ++ name ++ "/" else ""
    | none => ""
  m.kind.groupVersion.apiPath ++ "/" ++ inNamespace ++ m.plural

/-- The paths of a record begin with the path below which its kind is served. -/
theorem collectionPath_eq (m : KindRecord C) (namespaceName : Option String) :
    ∃ rest, m.collectionPath namespaceName = m.kind.groupVersion.apiPath ++ "/" ++ rest :=
  ⟨_, String.append_assoc ..⟩

/-- The collection of all objects, or of those in a namespace. -/
def collection (m : KindRecord C) (namespaceName : Option String) : Collection :=
  ⟨m.collectionPath namespaceName⟩

end KindRecord

/-- What is known of the kind of an object, and the metadata of the object. -/
structure ResolvedObject (C : Type) where
  record : KindRecord C
  objectMeta : ObjectMeta

namespace ResolvedObject

variable {C : Type}

/-- The labels of the object. -/
def labels (o : ResolvedObject C) : SortedMap String :=
  o.objectMeta.labels.getD .empty

/-- The owners of the object. -/
def ownerReferences (o : ResolvedObject C) : List OwnerReference :=
  o.objectMeta.ownerReferences.getD []

/-- The path of the collection in which the object is. -/
def collectionPath (o : ResolvedObject C) : String :=
  o.record.collectionPath o.objectMeta.namespaceName

/-- The collection in which the object is. -/
def collection (o : ResolvedObject C) : Collection :=
  ⟨o.collectionPath⟩

/-- Options of a delete that goes through only as long as the object is the one described here. -/
def deleteOptions (o : ResolvedObject C) : DeleteOptions :=
  let preconditions : Preconditions :=
    { uid := o.objectMeta.uid, resourceVersion := o.objectMeta.resourceVersion }
  if preconditions = {} then {} else ({} : DeleteOptions).withPreconditions preconditions

/-- Options of a list that shows the objects with all the labels of this one. -/
def matchingLabels (o : ResolvedObject C) : ListOptions :=
  .matchingLabels o.labels

end ResolvedObject

end KindResolution

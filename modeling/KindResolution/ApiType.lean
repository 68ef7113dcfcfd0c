import KindResolution.Kind
import KindResolution.RestMapping

/-!
# Built-in object types

The types of objects that have a schema known in advance. A type is what is known of it: the kind it
belongs to, the resource its objects are served under, and whether they live in namespaces. Two
types of different groups or versions may share a name.
-/

namespace KindResolution

open Json

/-- A built-in type of objects. The names in its kind keep to the rules for API versions. -/
structure ApiType where
  kind : GroupVersionKind
  plural : String
  scope : Scope
  version_ne_empty : kind.version ≠ "" := by decide
  slash_not_mem_group : '/' ∉ kind.group.toList := by decide
  slash_not_mem_version : '/' ∉ kind.version.toList := by decide
  deriving DecidableEq, Repr

namespace ApiType

/-- The name of a type. -/
def name (t : ApiType) : String :=
  t.kind.kind

/-- The mapping of the kind of a type to its resource. -/
def mapping (t : ApiType) : RestMapping :=
  .ofPlural t.kind t.plural t.scope

/-! ## Some types -/

def pod : ApiType :=
  { kind := ⟨"", "v1", "Pod"⟩, plural := "pods", scope := .namespaced }

def namespaceObject : ApiType :=
  { kind := ⟨"", "v1", "Namespace"⟩, plural := "namespaces", scope := .cluster }

def node : ApiType :=
  { kind := ⟨"", "v1", "Node"⟩, plural := "nodes", scope := .cluster }

def service : ApiType :=
  { kind := ⟨"", "v1", "Service"⟩, plural := "services", scope := .namespaced }

def secret : ApiType :=
  { kind := ⟨"", "v1", "Secret"⟩, plural := "secrets", scope := .namespaced }

def configMap : ApiType :=
  { kind := ⟨"", "v1", "ConfigMap"⟩, plural := "configmaps", scope := .namespaced }

def endpoints : ApiType :=
  { kind := ⟨"", "v1", "Endpoints"⟩, plural := "endpoints", scope := .namespaced }

def componentStatus : ApiType :=
  { kind := ⟨"", "v1", "ComponentStatus"⟩, plural := "componentstatuses", scope := .cluster }

def coreEvent : ApiType :=
  { kind := ⟨"", "v1", "Event"⟩, plural := "events", scope := .namespaced }

def deployment : ApiType :=
  { kind := ⟨"apps", "v1", "Deployment"⟩, plural := "deployments", scope := .namespaced }

def daemonSet : ApiType :=
  { kind := ⟨"apps", "v1", "DaemonSet"⟩, plural := "daemonsets", scope := .namespaced }

def autoscalerV1 : ApiType :=
  { kind := ⟨"autoscaling", "v1", "HorizontalPodAutoscaler"⟩, plural := "horizontalpodautoscalers",
    scope := .namespaced }

def autoscalerV2 : ApiType :=
  { kind := ⟨"autoscaling", "v2", "HorizontalPodAutoscaler"⟩, plural := "horizontalpodautoscalers",
    scope := .namespaced }

def cronJob : ApiType :=
  { kind := ⟨"batch", "v1", "CronJob"⟩, plural := "cronjobs", scope := .namespaced }

def endpointSlice : ApiType :=
  { kind := ⟨"discovery.k8s.io", "v1", "EndpointSlice"⟩, plural := "endpointslices",
    scope := .namespaced }

def groupEvent : ApiType :=
  { kind := ⟨"events.k8s.io", "v1", "Event"⟩, plural := "events", scope := .namespaced }

def ingress : ApiType :=
  { kind := ⟨"networking.k8s.io", "v1", "Ingress"⟩, plural := "ingresses", scope := .namespaced }

def ingressClass : ApiType :=
  { kind := ⟨"networking.k8s.io", "v1", "IngressClass"⟩, plural := "ingressclasses",
    scope := .cluster }

def networkPolicy : ApiType :=
  { kind := ⟨"networking.k8s.io", "v1", "NetworkPolicy"⟩, plural := "networkpolicies",
    scope := .namespaced }

def clusterRole : ApiType :=
  { kind := ⟨"rbac.authorization.k8s.io", "v1", "ClusterRole"⟩, plural := "clusterroles",
    scope := .cluster }

def storageClass : ApiType :=
  { kind := ⟨"storage.k8s.io", "v1", "StorageClass"⟩, plural := "storageclasses",
    scope := .cluster }

def customResourceDefinition : ApiType :=
  { kind := ⟨"apiextensions.k8s.io", "v1", "CustomResourceDefinition"⟩,
    plural := "customresourcedefinitions", scope := .cluster }

def apiService : ApiType :=
  { kind := ⟨"apiregistration.k8s.io", "v1", "APIService"⟩, plural := "apiservices",
    scope := .cluster }

/-- The members that objects of these types have even if nothing is said about them, apart from the
metadata. -/
def requiredMembers (t : ApiType) : List (String × Json) :=
  match t.kind with
  | ⟨"", "v1", "Event"⟩ => [("involvedObject", .object [])]
  | ⟨"discovery.k8s.io", "v1", "EndpointSlice"⟩ =>
    [("addressType", .string ""), ("endpoints", .array [])]
  | ⟨"storage.k8s.io", "v1", "StorageClass"⟩ => [("provisioner", .string "")]
  | ⟨"apiextensions.k8s.io", "v1", "CustomResourceDefinition"⟩ =>
    [("spec", .object
      [("group", .string ""), ("names", .object [("kind", .string ""), ("plural", .string "")]),
        ("scope", .string ""), ("versions", .array [])])]
  | _ => []

end ApiType

end KindResolution

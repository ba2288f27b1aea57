import ClusterView.Cluster.Object
import ClusterView.Text.Split

/-!
# References to cluster objects

An API version is `version` for the core group and `group/version` otherwise, cut at the first
slash.
-/

namespace ClusterView

/-- The group, empty for the core group, and the version of an API version. -/
def splitApiVersion (apiVersion : String) : String × String :=
  (Text.splitFirst? '/' apiVersion).getD ("", apiVersion)

/-- The groups and kinds that do not live in a namespace. -/
def clusterScopedKinds : List (String × String) :=
  [("", "Namespace"), ("", "Node"), ("", "PersistentVolume"),
   ("rbac.authorization.k8s.io", "ClusterRole"),
   ("rbac.authorization.k8s.io", "ClusterRoleBinding"), ("storage.k8s.io", "StorageClass"),
   ("apiextensions.k8s.io", "CustomResourceDefinition")]

/-- Whether a kind is known not to live in a namespace. -/
def isClusterScoped (apiVersion kind : String) : Bool :=
  clusterScopedKinds.contains ((splitApiVersion apiVersion).1, kind)

/-- What identifies an object. -/
structure Reference where
  apiVersion : String
  kind : String
  inNamespace : Option String
  name : String
  uid : Option String
deriving DecidableEq

namespace Reference

/-- The reference to a resource. -/
def ofResource {α : Type} [Resource α] (r : α) : Reference :=
  let m := Resource.metadata r
  ⟨Resource.apiVersion α, Resource.kind α, m.inNamespace, m.displayName, m.uid⟩

/-- The reference to an object; without a type its API version and kind are empty. -/
def ofObject (o : Object) : Reference :=
  let m := o.metadata
  match o.types with
  | some t => ⟨t.apiVersion, t.kind, m.inNamespace, m.displayName, m.uid⟩
  | none => ⟨"", "", m.inNamespace, m.displayName, m.uid⟩

/-- The API group, empty for the core group. -/
def group (r : Reference) : String := (splitApiVersion r.apiVersion).1

/-- The version without the group. -/
def version (r : Reference) : String := (splitApiVersion r.apiVersion).2

/-- Whether the object is of a type. -/
def isOf (r : Reference) (apiVersion kind : String) : Bool :=
  r.apiVersion == apiVersion && r.kind == kind

/-- A reference to a resource is the reference to its object. -/
theorem ofObject_toObject {α : Type} [Resource α] (r : α) :
    ofObject (Resource.toObject r) = ofResource r := rfl

end Reference

end ClusterView

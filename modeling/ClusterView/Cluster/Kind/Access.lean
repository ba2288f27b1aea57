import ClusterView.Cluster.Object

/-!
# Access control: roles and their bindings
-/

namespace ClusterView

open Json

/-- The API version of roles and bindings. -/
def accessVersion : String := "rbac.authorization.k8s.io/v1"

/-! ## Roles -/

/-- What may be done to which resources or paths. -/
structure PolicyRule where
  apiGroups : Option (List String)
  nonResourceUrls : Option (List String)
  resourceNames : Option (List String)
  resources : Option (List String)
  verbs : List String
deriving DecidableEq

instance : JsonDecode PolicyRule where
  decode? j := do
    let f ← j.fields?
    let apiGroups ← optional? f "apiGroups"
    let nonResourceUrls ← optional? f "nonResourceURLs"
    let resourceNames ← optional? f "resourceNames"
    let resources ← optional? f "resources"
    let verbs ← orDefault? f "verbs"
    some { apiGroups, nonResourceUrls, resourceNames, resources, verbs }

instance : JsonEncode PolicyRule where
  encode r := record [optionalField "apiGroups" r.apiGroups,
    optionalField "nonResourceURLs" r.nonResourceUrls,
    optionalField "resourceNames" r.resourceNames, optionalField "resources" r.resources,
    requiredField "verbs" r.verbs]

/-- Rules for one namespace. -/
structure Role where
  metadata : ObjectMeta
  rules : Option (List PolicyRule)
deriving DecidableEq

instance : Resource Role where
  apiVersion := accessVersion
  kind := "Role"
  metadata := Role.metadata
  ofFields? metadata f := do
    let rules ← optional? f "rules"
    some { metadata, rules }
  toFields r := optionalField "rules" r.rules

/-- Rules for the whole cluster, or for any namespace that they are bound in. -/
structure ClusterRole where
  metadata : ObjectMeta
  rules : Option (List PolicyRule)
deriving DecidableEq

instance : Resource ClusterRole where
  apiVersion := accessVersion
  kind := "ClusterRole"
  metadata := ClusterRole.metadata
  ofFields? metadata f := do
    let rules ← optional? f "rules"
    some { metadata, rules }
  toFields r := optionalField "rules" r.rules

/-! ## Bindings -/

/-- Someone to whom a role is granted. -/
structure Subject where
  kind : String
  name : String
  inNamespace : Option String
deriving DecidableEq

instance : JsonDecode Subject where
  decode? j := do
    let f ← j.fields?
    let kind ← orDefault? f "kind"
    let name ← orDefault? f "name"
    let inNamespace ← optional? f "namespace"
    some { kind, name, inNamespace }

instance : JsonEncode Subject where
  encode s := record [requiredField "kind" s.kind, requiredField "name" s.name,
    optionalField "namespace" s.inNamespace]

/-- The role that a binding grants. -/
structure RoleRef where
  apiGroup : String := ""
  kind : String := ""
  name : String := ""
deriving DecidableEq, Inhabited

instance : JsonDecode RoleRef where
  decode? j := do
    let f ← j.fields?
    let apiGroup ← orDefault? f "apiGroup"
    let kind ← orDefault? f "kind"
    let name ← orDefault? f "name"
    some { apiGroup, kind, name }

instance : JsonEncode RoleRef where
  encode r := record [requiredField "apiGroup" r.apiGroup, requiredField "kind" r.kind,
    requiredField "name" r.name]

/-- A grant of a role in one namespace. -/
structure RoleBinding where
  metadata : ObjectMeta
  roleRef : RoleRef
  subjects : Option (List Subject)
deriving DecidableEq

instance : Resource RoleBinding where
  apiVersion := accessVersion
  kind := "RoleBinding"
  metadata := RoleBinding.metadata
  ofFields? metadata f := do
    let roleRef ← orDefault? f "roleRef"
    let subjects ← optional? f "subjects"
    some { metadata, roleRef, subjects }
  toFields b := [requiredField "roleRef" b.roleRef, optionalField "subjects" b.subjects].flatten

/-- A grant of a role in the whole cluster. -/
structure ClusterRoleBinding where
  metadata : ObjectMeta
  roleRef : RoleRef
  subjects : Option (List Subject)
deriving DecidableEq

instance : Resource ClusterRoleBinding where
  apiVersion := accessVersion
  kind := "ClusterRoleBinding"
  metadata := ClusterRoleBinding.metadata
  ofFields? metadata f := do
    let roleRef ← orDefault? f "roleRef"
    let subjects ← optional? f "subjects"
    some { metadata, roleRef, subjects }
  toFields b := [requiredField "roleRef" b.roleRef, optionalField "subjects" b.subjects].flatten

end ClusterView

import ClusterView.Time.Instant

/-!
# The metadata of cluster objects
-/

namespace ClusterView

open Json

/-- A reference from an object to one that owns it. -/
structure OwnerReference where
  apiVersion : String
  kind : String
  name : String
  uid : String
  /-- Whether the owner is the controller that manages the object. -/
  controller : Option Bool
  blockOwnerDeletion : Option Bool
deriving DecidableEq

/-- What every cluster object carries. -/
structure ObjectMeta where
  name : Option String := none
  generateName : Option String := none
  inNamespace : Option String := none
  uid : Option String := none
  labels : Option (StringMap String) := none
  annotations : Option (StringMap String) := none
  creationTimestamp : Option Instant := none
  ownerReferences : Option (List OwnerReference) := none
deriving DecidableEq, Inhabited

namespace ObjectMeta

/-- The name, else the name that a generated one begins with, else nothing. -/
def displayName (m : ObjectMeta) : String := (m.name.or m.generateName).getD ""

/-- The labels, none when they are not set. -/
def labelMap (m : ObjectMeta) : StringMap String := m.labels.getD ∅

/-- The annotations, none when they are not set. -/
def annotationMap (m : ObjectMeta) : StringMap String := m.annotations.getD ∅

/-- The references to owners, none when they are not set. -/
def owners (m : ObjectMeta) : List OwnerReference := m.ownerReferences.getD []

/-- The first owner that is marked as the controller. -/
def controllerOf (owners : List OwnerReference) : Option OwnerReference :=
  owners.find? fun o => o.controller == some true

end ObjectMeta

/-! ## Reading and writing -/

instance : JsonDecode OwnerReference where
  decode? j := do
    let f ← j.fields?
    let apiVersion ← orDefault? f "apiVersion"
    let kind ← orDefault? f "kind"
    let name ← orDefault? f "name"
    let uid ← orDefault? f "uid"
    let controller ← optional? f "controller"
    let blockOwnerDeletion ← optional? f "blockOwnerDeletion"
    some { apiVersion, kind, name, uid, controller, blockOwnerDeletion }

instance : JsonEncode OwnerReference where
  encode o := record [requiredField "apiVersion" o.apiVersion,
    optionalField "blockOwnerDeletion" o.blockOwnerDeletion,
    optionalField "controller" o.controller, requiredField "kind" o.kind,
    requiredField "name" o.name, requiredField "uid" o.uid]

instance : JsonDecode ObjectMeta where
  decode? j := do
    let f ← j.fields?
    let name ← optional? f "name"
    let generateName ← optional? f "generateName"
    let inNamespace ← optional? f "namespace"
    let uid ← optional? f "uid"
    let labels ← optional? f "labels"
    let annotations ← optional? f "annotations"
    let creationTimestamp ← optional? f "creationTimestamp"
    let ownerReferences ← optional? f "ownerReferences"
    some { name, generateName, inNamespace, uid, labels, annotations, creationTimestamp,
           ownerReferences }

instance : JsonEncode ObjectMeta where
  encode m := record [optionalField "annotations" m.annotations,
    optionalField "creationTimestamp" m.creationTimestamp,
    optionalField "generateName" m.generateName, optionalField "labels" m.labels,
    optionalField "name" m.name, optionalField "namespace" m.inNamespace,
    optionalField "ownerReferences" m.ownerReferences, optionalField "uid" m.uid]

end ClusterView

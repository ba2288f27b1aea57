import ClusterView.Base64
import ClusterView.Cluster.Object

/-!
# Configuration: config maps, secrets and service accounts
-/

namespace ClusterView

open Json

/-- A config map: texts and bytes under keys. -/
structure ConfigMap where
  metadata : ObjectMeta
  data : Option (StringMap String)
  binaryData : Option (StringMap Blob)
deriving DecidableEq

instance : Resource ConfigMap where
  apiVersion := "v1"
  kind := "ConfigMap"
  metadata := ConfigMap.metadata
  ofFields? metadata f := do
    let data ← optional? f "data"
    let binaryData ← optional? f "binaryData"
    some { metadata, data, binaryData }
  toFields c := [optionalField "binaryData" c.binaryData, optionalField "data" c.data].flatten

/-- A secret: bytes under keys that are not to be shown. -/
structure Secret where
  metadata : ObjectMeta
  type : Option String
  data : Option (StringMap Blob)
  /-- Texts that a cluster would move to the data. -/
  stringData : Option (StringMap String)
deriving DecidableEq

instance : Resource Secret where
  apiVersion := "v1"
  kind := "Secret"
  metadata := Secret.metadata
  ofFields? metadata f := do
    let type ← optional? f "type"
    let data ← optional? f "data"
    let stringData ← optional? f "stringData"
    some { metadata, type, data, stringData }
  toFields s := [optionalField "data" s.data, optionalField "stringData" s.stringData,
    optionalField "type" s.type].flatten

/-- A reference to a secret by its name. -/
structure SecretName where
  name : String
deriving DecidableEq

/-- A reference to a secret that may lack the name. -/
structure SecretReference where
  name : Option String
deriving DecidableEq

/-- An identity under which pods run. -/
structure ServiceAccount where
  metadata : ObjectMeta
  /-- The secrets for pulling images. -/
  imagePullSecrets : Option (List SecretName)
  /-- The secrets that pods may mount. -/
  secrets : Option (List SecretReference)
deriving DecidableEq

instance : JsonDecode SecretName where
  decode? j := do
    let f ← j.fields?
    let name ← orDefault? f "name"
    some { name }

instance : JsonEncode SecretName := ⟨fun s => record [requiredField "name" s.name]⟩

instance : JsonDecode SecretReference where
  decode? j := do
    let f ← j.fields?
    let name ← optional? f "name"
    some { name }

instance : JsonEncode SecretReference := ⟨fun s => record [optionalField "name" s.name]⟩

instance : Resource ServiceAccount where
  apiVersion := "v1"
  kind := "ServiceAccount"
  metadata := ServiceAccount.metadata
  ofFields? metadata f := do
    let imagePullSecrets ← optional? f "imagePullSecrets"
    let secrets ← optional? f "secrets"
    some { metadata, imagePullSecrets, secrets }
  toFields s := [optionalField "imagePullSecrets" s.imagePullSecrets,
    optionalField "secrets" s.secrets].flatten

end ClusterView

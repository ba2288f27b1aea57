import ClusterView.Cluster.Metadata

/-!
# Pod templates

The parts of pods that workloads describe: containers with their images, commands, ports and
environment.
-/

namespace ClusterView

open Json

/-- A choice of a key in a config map or a secret. -/
structure KeySelector where
  name : String
  key : String
deriving DecidableEq

/-- Where the value of an environment variable comes from. -/
structure EnvVarSource where
  configMapKey : Option KeySelector
  secretKey : Option KeySelector
  /-- The path of a field of the pod. -/
  fieldPath : Option String
  /-- The name of a resource of the container. -/
  resource : Option String
deriving DecidableEq

/-- An environment variable of a container. -/
structure EnvVar where
  name : String
  value : Option String
  valueFrom : Option EnvVarSource
deriving DecidableEq

/-- A port of a container. -/
structure ContainerPort where
  containerPort : Int
  protocol : Option String
deriving DecidableEq

/-- A container of a pod. -/
structure Container where
  name : String
  image : Option String
  imagePullPolicy : Option String
  ports : Option (List ContainerPort)
  command : Option (List String)
  args : Option (List String)
  env : Option (List EnvVar)
deriving DecidableEq

/-- What a pod runs and where. -/
structure PodSpec where
  containers : List Container
  nodeName : Option String
deriving DecidableEq

/-- What a workload creates pods from. -/
structure PodTemplate where
  metadata : Option ObjectMeta := none
  spec : Option PodSpec := none
deriving DecidableEq, Inhabited

namespace PodTemplate

/-- The labels of the pods, if the template sets any. -/
def labels (t : PodTemplate) : Option (StringMap String) := t.metadata.bind (·.labels)

/-- The containers of the pods. -/
def containers (t : PodTemplate) : List Container :=
  match t.spec with
  | some spec => spec.containers
  | none => []

theorem containers_eq (t : PodTemplate) :
    t.containers = (t.spec.map (·.containers)).getD [] := by
  unfold containers
  cases t.spec <;> rfl

end PodTemplate

/-! ## Reading and writing -/

instance : JsonDecode KeySelector where
  decode? j := do
    let f ← j.fields?
    let name ← orDefault? f "name"
    let key ← orDefault? f "key"
    some { name, key }

instance : JsonEncode KeySelector where
  encode k := record [requiredField "key" k.key, requiredField "name" k.name]

/-- Reads the only field of interest of a record that may be left out. -/
def inner? (fields : List (String × Json)) (outer name : String) : Option (Option String) :=
  match lookup fields outer with
  | none | some .null => some none
  | some j => do
    let f ← j.fields?
    let value ← orDefault? f name
    some (some value)

instance : JsonDecode EnvVarSource where
  decode? j := do
    let f ← j.fields?
    let configMapKey ← optional? f "configMapKeyRef"
    let secretKey ← optional? f "secretKeyRef"
    let fieldPath ← inner? f "fieldRef" "fieldPath"
    let resource ← inner? f "resourceFieldRef" "resource"
    some { configMapKey, secretKey, fieldPath, resource }

instance : JsonEncode EnvVarSource where
  encode s := record [optionalField "configMapKeyRef" s.configMapKey,
    optionalField "fieldRef" (s.fieldPath.map fun p => StringMap.ofList [("fieldPath", p)]),
    optionalField "resourceFieldRef" (s.resource.map fun r => StringMap.ofList [("resource", r)]),
    optionalField "secretKeyRef" s.secretKey]

instance : JsonDecode EnvVar where
  decode? j := do
    let f ← j.fields?
    let name ← orDefault? f "name"
    let value ← optional? f "value"
    let valueFrom ← optional? f "valueFrom"
    some { name, value, valueFrom }

instance : JsonEncode EnvVar where
  encode v := record [requiredField "name" v.name, optionalField "value" v.value,
    optionalField "valueFrom" v.valueFrom]

instance : JsonDecode ContainerPort where
  decode? j := do
    let f ← j.fields?
    let containerPort ← orDefault? f "containerPort"
    let protocol ← optional? f "protocol"
    some { containerPort, protocol }

instance : JsonEncode ContainerPort where
  encode p := record [requiredField "containerPort" p.containerPort,
    optionalField "protocol" p.protocol]

instance : JsonDecode Container where
  decode? j := do
    let f ← j.fields?
    let name ← orDefault? f "name"
    let image ← optional? f "image"
    let imagePullPolicy ← optional? f "imagePullPolicy"
    let ports ← optional? f "ports"
    let command ← optional? f "command"
    let args ← optional? f "args"
    let env ← optional? f "env"
    some { name, image, imagePullPolicy, ports, command, args, env }

instance : JsonEncode Container where
  encode c := record [optionalField "args" c.args, optionalField "command" c.command,
    optionalField "env" c.env, optionalField "image" c.image,
    optionalField "imagePullPolicy" c.imagePullPolicy, requiredField "name" c.name,
    optionalField "ports" c.ports]

instance : JsonDecode PodSpec where
  decode? j := do
    let f ← j.fields?
    let containers ← orDefault? f "containers"
    let nodeName ← optional? f "nodeName"
    some { containers, nodeName }

instance : JsonEncode PodSpec where
  encode s := record [requiredField "containers" s.containers, optionalField "nodeName" s.nodeName]

instance : JsonDecode PodTemplate where
  decode? j := do
    let f ← j.fields?
    let metadata ← optional? f "metadata"
    let spec ← optional? f "spec"
    some { metadata, spec }

instance : JsonEncode PodTemplate where
  encode t := record [optionalField "metadata" t.metadata, optionalField "spec" t.spec]

end ClusterView

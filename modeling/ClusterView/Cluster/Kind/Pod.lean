import ClusterView.Cluster.Kind.PodTemplate
import ClusterView.Cluster.Object

/-!
# Pods and events
-/

namespace ClusterView

open Json

/-! ## Pods -/

/-- The state of a running container. -/
structure ContainerStatus where
  ready : Bool
  restartCount : Int
deriving DecidableEq

/-- The state of a pod. -/
structure PodStatus where
  phase : Option String
  containerStatuses : Option (List ContainerStatus)
deriving DecidableEq

/-- A pod. -/
structure Pod where
  metadata : ObjectMeta
  spec : Option PodSpec
  status : Option PodStatus
deriving DecidableEq

instance : JsonDecode ContainerStatus where
  decode? j := do
    let f ← j.fields?
    let ready ← orDefault? f "ready"
    let restartCount ← orDefault? f "restartCount"
    some { ready, restartCount }

instance : JsonEncode ContainerStatus where
  encode s := record [requiredField "ready" s.ready, requiredField "restartCount" s.restartCount]

instance : JsonDecode PodStatus where
  decode? j := do
    let f ← j.fields?
    let phase ← optional? f "phase"
    let containerStatuses ← optional? f "containerStatuses"
    some { phase, containerStatuses }

instance : JsonEncode PodStatus where
  encode s := record [optionalField "containerStatuses" s.containerStatuses,
    optionalField "phase" s.phase]

instance : Resource Pod where
  apiVersion := "v1"
  kind := "Pod"
  metadata := Pod.metadata
  ofFields? metadata f := do
    let spec ← optional? f "spec"
    let status ← optional? f "status"
    some { metadata, spec, status }
  toFields p := [optionalField "spec" p.spec, optionalField "status" p.status].flatten

/-! ## Events -/

/-- A reference to an object in the fields of another one. -/
structure ObjectReference where
  apiVersion : Option String := none
  kind : Option String := none
  inNamespace : Option String := none
  name : Option String := none
  uid : Option String := none
deriving DecidableEq, Inhabited

/-- The component that reports an event and the host where it runs. -/
structure EventSource where
  component : Option String
  host : Option String
deriving DecidableEq

/-- Something that happened to an object. -/
structure Event where
  metadata : ObjectMeta
  involvedObject : ObjectReference
  message : Option String
  reason : Option String
  type : Option String
  firstTimestamp : Option Instant
  lastTimestamp : Option Instant
  source : Option EventSource
  count : Option Int
deriving DecidableEq

instance : JsonDecode ObjectReference where
  decode? j := do
    let f ← j.fields?
    let apiVersion ← optional? f "apiVersion"
    let kind ← optional? f "kind"
    let inNamespace ← optional? f "namespace"
    let name ← optional? f "name"
    let uid ← optional? f "uid"
    some { apiVersion, kind, inNamespace, name, uid }

instance : JsonEncode ObjectReference where
  encode r := record [optionalField "apiVersion" r.apiVersion, optionalField "kind" r.kind,
    optionalField "name" r.name, optionalField "namespace" r.inNamespace, optionalField "uid" r.uid]

instance : JsonDecode EventSource where
  decode? j := do
    let f ← j.fields?
    let component ← optional? f "component"
    let host ← optional? f "host"
    some { component, host }

instance : JsonEncode EventSource where
  encode s := record [optionalField "component" s.component, optionalField "host" s.host]

instance : Resource Event where
  apiVersion := "v1"
  kind := "Event"
  metadata := Event.metadata
  ofFields? metadata f := do
    let involvedObject ← orDefault? f "involvedObject"
    let message ← optional? f "message"
    let reason ← optional? f "reason"
    let type ← optional? f "type"
    let firstTimestamp ← optional? f "firstTimestamp"
    let lastTimestamp ← optional? f "lastTimestamp"
    let source ← optional? f "source"
    let count ← optional? f "count"
    some { metadata, involvedObject, message, reason, type, firstTimestamp, lastTimestamp, source,
           count }
  toFields e := [optionalField "count" e.count, optionalField "firstTimestamp" e.firstTimestamp,
    requiredField "involvedObject" e.involvedObject, optionalField "lastTimestamp" e.lastTimestamp,
    optionalField "message" e.message, optionalField "reason" e.reason,
    optionalField "source" e.source, optionalField "type" e.type].flatten

end ClusterView

import ClusterView.Cluster.Kind.LabelSelector
import ClusterView.Cluster.Kind.PodTemplate
import ClusterView.Cluster.Object

/-!
# Workloads: deployments, jobs and replication controllers
-/

namespace ClusterView

open Json

/-! ## Deployments -/

/-- A count, or a text such as a percentage. -/
inductive IntOrString where
  | int (value : Int)
  | string (value : String)
deriving DecidableEq

/-- How many pods may be added and missing while pods are replaced. -/
structure RollingUpdate where
  maxSurge : Option IntOrString
  maxUnavailable : Option IntOrString
deriving DecidableEq

/-- How pods are replaced by new ones. -/
structure DeploymentStrategy where
  type : Option String
  rollingUpdate : Option RollingUpdate
deriving DecidableEq

/-- What a deployment asks for. -/
structure DeploymentSpec where
  selector : LabelSelector := default
  template : PodTemplate := default
  replicas : Option Int := none
  minReadySeconds : Option Int := none
  revisionHistoryLimit : Option Int := none
  strategy : Option DeploymentStrategy := none
deriving DecidableEq, Inhabited

/-- An observation about a deployment. -/
structure DeploymentCondition where
  type : String
  status : String
  reason : Option String
  message : Option String
  lastUpdateTime : Option Instant
  lastTransitionTime : Option Instant
deriving DecidableEq

/-- The state of a deployment. -/
structure DeploymentStatus where
  availableReplicas : Option Int
  readyReplicas : Option Int
  replicas : Option Int
  unavailableReplicas : Option Int
  updatedReplicas : Option Int
  conditions : Option (List DeploymentCondition)
deriving DecidableEq

/-- A deployment. -/
structure Deployment where
  metadata : ObjectMeta
  spec : Option DeploymentSpec
  status : Option DeploymentStatus
deriving DecidableEq

instance : JsonDecode IntOrString where
  decode?
    | .string s => some (.string s)
    | j => (decode? j).map .int

instance : JsonEncode IntOrString where
  encode
    | .int n => .ofInt n
    | .string s => .string s

instance : JsonDecode RollingUpdate where
  decode? j := do
    let f ← j.fields?
    let maxSurge ← optional? f "maxSurge"
    let maxUnavailable ← optional? f "maxUnavailable"
    some { maxSurge, maxUnavailable }

instance : JsonEncode RollingUpdate where
  encode r := record [optionalField "maxSurge" r.maxSurge,
    optionalField "maxUnavailable" r.maxUnavailable]

instance : JsonDecode DeploymentStrategy where
  decode? j := do
    let f ← j.fields?
    let type ← optional? f "type"
    let rollingUpdate ← optional? f "rollingUpdate"
    some { type, rollingUpdate }

instance : JsonEncode DeploymentStrategy where
  encode s := record [optionalField "rollingUpdate" s.rollingUpdate, optionalField "type" s.type]

instance : JsonDecode DeploymentSpec where
  decode? j := do
    let f ← j.fields?
    let selector ← orDefault? f "selector"
    let template ← orDefault? f "template"
    let replicas ← optional? f "replicas"
    let minReadySeconds ← optional? f "minReadySeconds"
    let revisionHistoryLimit ← optional? f "revisionHistoryLimit"
    let strategy ← optional? f "strategy"
    some { selector, template, replicas, minReadySeconds, revisionHistoryLimit, strategy }

instance : JsonEncode DeploymentSpec where
  encode s := record [optionalField "minReadySeconds" s.minReadySeconds,
    optionalField "replicas" s.replicas,
    optionalField "revisionHistoryLimit" s.revisionHistoryLimit,
    requiredField "selector" s.selector, optionalField "strategy" s.strategy,
    requiredField "template" s.template]

instance : JsonDecode DeploymentCondition where
  decode? j := do
    let f ← j.fields?
    let type ← orDefault? f "type"
    let status ← orDefault? f "status"
    let reason ← optional? f "reason"
    let message ← optional? f "message"
    let lastUpdateTime ← optional? f "lastUpdateTime"
    let lastTransitionTime ← optional? f "lastTransitionTime"
    some { type, status, reason, message, lastUpdateTime, lastTransitionTime }

instance : JsonEncode DeploymentCondition where
  encode c := record [optionalField "lastTransitionTime" c.lastTransitionTime,
    optionalField "lastUpdateTime" c.lastUpdateTime, optionalField "message" c.message,
    optionalField "reason" c.reason, requiredField "status" c.status, requiredField "type" c.type]

instance : JsonDecode DeploymentStatus where
  decode? j := do
    let f ← j.fields?
    let availableReplicas ← optional? f "availableReplicas"
    let readyReplicas ← optional? f "readyReplicas"
    let replicas ← optional? f "replicas"
    let unavailableReplicas ← optional? f "unavailableReplicas"
    let updatedReplicas ← optional? f "updatedReplicas"
    let conditions ← optional? f "conditions"
    some { availableReplicas, readyReplicas, replicas, unavailableReplicas, updatedReplicas,
           conditions }

instance : JsonEncode DeploymentStatus where
  encode s := record [optionalField "availableReplicas" s.availableReplicas,
    optionalField "conditions" s.conditions, optionalField "readyReplicas" s.readyReplicas,
    optionalField "replicas" s.replicas, optionalField "unavailableReplicas" s.unavailableReplicas,
    optionalField "updatedReplicas" s.updatedReplicas]

instance : Resource Deployment where
  apiVersion := "apps/v1"
  kind := "Deployment"
  metadata := Deployment.metadata
  ofFields? metadata f := do
    let spec ← optional? f "spec"
    let status ← optional? f "status"
    some { metadata, spec, status }
  toFields d := [optionalField "spec" d.spec, optionalField "status" d.status].flatten

/-! ## Jobs -/

/-- What a job asks for. -/
structure JobSpec where
  completions : Option Int
  parallelism : Option Int
  backoffLimit : Option Int
  template : PodTemplate
deriving DecidableEq

/-- An observation about a job. -/
structure JobCondition where
  type : String
  status : String
  lastProbeTime : Option Instant
  lastTransitionTime : Option Instant
  message : Option String
  reason : Option String
deriving DecidableEq

/-- The state of a job. -/
structure JobStatus where
  succeeded : Option Int
  startTime : Option Instant
  completionTime : Option Instant
  conditions : Option (List JobCondition)
deriving DecidableEq

/-- A job. -/
structure Job where
  metadata : ObjectMeta
  spec : Option JobSpec
  status : Option JobStatus
deriving DecidableEq

instance : JsonDecode JobSpec where
  decode? j := do
    let f ← j.fields?
    let completions ← optional? f "completions"
    let parallelism ← optional? f "parallelism"
    let backoffLimit ← optional? f "backoffLimit"
    let template ← orDefault? f "template"
    some { completions, parallelism, backoffLimit, template }

instance : JsonEncode JobSpec where
  encode s := record [optionalField "backoffLimit" s.backoffLimit,
    optionalField "completions" s.completions, optionalField "parallelism" s.parallelism,
    requiredField "template" s.template]

instance : JsonDecode JobCondition where
  decode? j := do
    let f ← j.fields?
    let type ← orDefault? f "type"
    let status ← orDefault? f "status"
    let lastProbeTime ← optional? f "lastProbeTime"
    let lastTransitionTime ← optional? f "lastTransitionTime"
    let message ← optional? f "message"
    let reason ← optional? f "reason"
    some { type, status, lastProbeTime, lastTransitionTime, message, reason }

instance : JsonEncode JobCondition where
  encode c := record [optionalField "lastProbeTime" c.lastProbeTime,
    optionalField "lastTransitionTime" c.lastTransitionTime, optionalField "message" c.message,
    optionalField "reason" c.reason, requiredField "status" c.status, requiredField "type" c.type]

instance : JsonDecode JobStatus where
  decode? j := do
    let f ← j.fields?
    let succeeded ← optional? f "succeeded"
    let startTime ← optional? f "startTime"
    let completionTime ← optional? f "completionTime"
    let conditions ← optional? f "conditions"
    some { succeeded, startTime, completionTime, conditions }

instance : JsonEncode JobStatus where
  encode s := record [optionalField "completionTime" s.completionTime,
    optionalField "conditions" s.conditions, optionalField "startTime" s.startTime,
    optionalField "succeeded" s.succeeded]

instance : Resource Job where
  apiVersion := "batch/v1"
  kind := "Job"
  metadata := Job.metadata
  ofFields? metadata f := do
    let spec ← optional? f "spec"
    let status ← optional? f "status"
    some { metadata, spec, status }
  toFields j := [optionalField "spec" j.spec, optionalField "status" j.status].flatten

/-! ## Replication controllers -/

/-- What a replication controller asks for. -/
structure ReplicationControllerSpec where
  replicas : Option Int
  selector : Option (StringMap String)
  template : Option PodTemplate
deriving DecidableEq

/-- The state of a replication controller. -/
structure ReplicationControllerStatus where
  replicas : Int
  availableReplicas : Option Int
  readyReplicas : Option Int
deriving DecidableEq

/-- A replication controller. -/
structure ReplicationController where
  metadata : ObjectMeta
  spec : Option ReplicationControllerSpec
  status : Option ReplicationControllerStatus
deriving DecidableEq

instance : JsonDecode ReplicationControllerSpec where
  decode? j := do
    let f ← j.fields?
    let replicas ← optional? f "replicas"
    let selector ← optional? f "selector"
    let template ← optional? f "template"
    some { replicas, selector, template }

instance : JsonEncode ReplicationControllerSpec where
  encode s := record [optionalField "replicas" s.replicas, optionalField "selector" s.selector,
    optionalField "template" s.template]

instance : JsonDecode ReplicationControllerStatus where
  decode? j := do
    let f ← j.fields?
    let replicas ← orDefault? f "replicas"
    let availableReplicas ← optional? f "availableReplicas"
    let readyReplicas ← optional? f "readyReplicas"
    some { replicas, availableReplicas, readyReplicas }

instance : JsonEncode ReplicationControllerStatus where
  encode s := record [optionalField "availableReplicas" s.availableReplicas,
    optionalField "readyReplicas" s.readyReplicas, requiredField "replicas" s.replicas]

instance : Resource ReplicationController where
  apiVersion := "v1"
  kind := "ReplicationController"
  metadata := ReplicationController.metadata
  ofFields? metadata f := do
    let spec ← optional? f "spec"
    let status ← optional? f "status"
    some { metadata, spec, status }
  toFields r := [optionalField "spec" r.spec, optionalField "status" r.status].flatten

end ClusterView

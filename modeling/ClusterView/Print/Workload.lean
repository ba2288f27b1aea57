import ClusterView.Cluster.Kind.Workload
import ClusterView.Print.Page
import ClusterView.Print.Pods
import ClusterView.Print.Selectors

/-!
# Printing deployments, jobs and replication controllers

The page of a workload shows its configuration and status, its pods and conditions, its pod template
and its events.
-/

namespace ClusterView

/-! ## Deployments -/

/-- The text of a count or a text; where none is set, a quarter. -/
def surgeText : Option IntOrString → String
  | some (.int n) => Text.ofInt n
  | some (.string s) => s
  | none => "25%"

namespace Deployment

/-- What the deployment asks for; nothing when it is not set. -/
def specOrDefault (d : Deployment) : DeploymentSpec := d.spec.getD {}

/-- A count of the status. -/
def statusCount (d : Deployment) (count : DeploymentStatus → Option Int) : Option Int :=
  d.status.bind count

/-- How deployments are shown in a table. -/
def listView : ListView Deployment where
  input := "deployment list"
  title := "Deployments"
  emptyContent := "We couldn't find any deployments!"
  columns := ["Name", "Labels", "Status", "Age", "Containers", "Selector"]
  cells :=
    [("Status", fun d =>
        .text (ratioText (d.statusCount (·.availableReplicas)) (d.statusCount (·.replicas)))),
     ("Age", ageOf),
     ("Containers", fun d => containerImages (d.spec.map (·.template))),
     ("Selector", fun d => .selectors d.specOrDefault.selector.shown)]
  columns_eq := rfl
  nodup_columns := by decide

/-- The action that edits the number of replicas. -/
def editAction (d : Deployment) : Action where
  name := "Edit"
  title := "Deployment Editor"
  fields :=
    [.number "Replicas" "replicas" (Text.ofInt (d.specOrDefault.replicas.getD 1)),
     .hidden "group" "apps", .hidden "version" "v1", .hidden "kind" "Deployment",
     .hidden "name" (Resource.displayName d), .hidden "namespace" (d.metadata.inNamespace.getD ""),
     .hidden "action" "deployment/configuration"]

/-- The strategy of a deployment that sets none. -/
def rollingUpdateType : String := "RollingUpdate"

/-- The sections of the configuration. -/
def configurationSections (d : Deployment) : List (Summary.Section Component) :=
  let spec := d.specOrDefault
  let type := (spec.strategy.bind (·.type)).getD rollingUpdateType
  let rolling := spec.strategy.bind (·.rollingUpdate)
  let surge := surgeText (rolling.bind (·.maxSurge))
  let unavailable := surgeText (rolling.bind (·.maxUnavailable))
  let count (header : String) (value : Option Int) : List (Summary.Section Component) :=
    value.toList.map fun n => .ofText header (Text.ofInt n)
  [.ofText "Deployment Strategy" type] ++
    (if type = rollingUpdateType then
      [.ofText "Rolling Update Strategy"
        ("Max Surge " ++ surge ++ ", Max Unavailable " ++ unavailable)]
     else []) ++
    [⟨"Selectors", .selectors spec.selector.shown⟩,
     .ofText "Min Ready Seconds" (countText spec.minReadySeconds)] ++
    count "Revision History Limit" spec.revisionHistoryLimit ++ count "Replicas" spec.replicas

/-- The summary of the configuration with the actions of some generators. -/
def configurationWith (generators : List (Deployment → List Action)) (d : Deployment) :
    Summary Component :=
  { title := "Configuration"
    sections := d.configurationSections
    actions := generators.flatMap fun actions => actions d }

/-- The summary of the configuration. -/
def configuration : Deployment → Summary Component := configurationWith [fun d => [d.editAction]]

/-- The summary of the replica counts. -/
def statusSummary (d : Deployment) : Summary Component :=
  let count (header : String) (value : DeploymentStatus → Option Int) : Summary.Section Component :=
    .ofText header (countText (d.statusCount value))
  .ofSections "Status"
    [count "Available Replicas" (·.availableReplicas), count "Ready Replicas" (·.readyReplicas),
     count "Total Replicas" (·.replicas), count "Unavailable Replicas" (·.unavailableReplicas),
     count "Updated Replicas" (·.updatedReplicas)]

/-- The table of the conditions. -/
def conditionsTable (d : Deployment) : Except PrintError (Table Component) :=
  let row (c : DeploymentCondition) : Table.Row Component :=
    .ofCells [("Type", .text c.type), ("Reason", .text (c.reason.getD "")),
      ("Status", .text c.status), ("Message", .text (c.message.getD "")),
      ("Last Update", timestampOf c.lastUpdateTime),
      ("Last Transition", timestampOf c.lastTransitionTime)]
  liftM (Table.ofRows "Conditions" "There are no deployment conditions!"
    (Table.columnsNamed
      ["Type", "Reason", "Status", "Message", "Last Update", "Last Transition"])
    (((d.status.bind (·.conditions)).getD []).map row))

/-- The table of the pods with the labels of the pod template, without their labels. -/
def podsTable (d : Deployment) (o : PrintOptions) : Except PrintError (Table Component) :=
  ClusterView.podsTable (.ofResource d) (d.spec.bind (·.template.labels)) o.withoutLabels

/-- The page of a deployment. -/
def page (d : Deployment) (o : PrintOptions) : Page :=
  { Page.ofResource d with
    config := some d.configuration
    status := some d.statusSummary
    items := [⟨.full, (d.podsTable o).map .table⟩, ⟨.full, d.conditionsTable.map .table⟩]
    podTemplate := d.spec.map (·.template)
    events := true }

/-- Prints a deployment, which may be missing. -/
def print (o : PrintOptions) (input : Option Deployment) : Except PrintError Component := do
  ((← orMissing "deployment" input).page o).print o

end Deployment

/-! ## Jobs -/

namespace Job

/-- How jobs are shown in a table. -/
def listView : ListView Job where
  input := "job list"
  title := "Jobs"
  emptyContent := "We couldn't find any jobs!"
  columns := ["Name", "Labels", "Completions", "Successful", "Age"]
  cells :=
    [("Completions", fun j => .text (orNotSet ((j.spec.bind (·.completions)).map Text.ofInt))),
     ("Successful", fun j => .text (countText (j.status.bind (·.succeeded)))),
     ("Age", ageOf)]
  columns_eq := rfl
  nodup_columns := by decide

/-- The summary of the limits. -/
def configuration (j : Job) : Summary Component :=
  let limit (header : String) (value : JobSpec → Option Int) : Summary.Section Component :=
    .ofText header (orNotSet ((j.spec.bind value).map Text.ofInt))
  .ofSections "Configuration"
    [limit "Back Off Limit" (·.backoffLimit), limit "Completions" (·.completions),
     limit "Parallelism" (·.parallelism)]

/-- The summary of the start, the end and the successes. -/
def statusSummary (j : Job) : Summary Component :=
  let time (header : String) (value : JobStatus → Option Instant) :
      List (Summary.Section Component) :=
    (j.status.bind value).toList.map fun t => ⟨header, timestampOf (some t)⟩
  .ofSections "Status" (time "Started" (·.startTime) ++ time "Completed" (·.completionTime) ++
    [.ofText "Succeeded" (countText (j.status.bind (·.succeeded)))])

/-- The conditions, none when they are not set. -/
def conditions (j : Job) : List JobCondition := (j.status.bind (·.conditions)).getD []

/-- The table of some conditions. -/
def conditionsTable (conditions : List JobCondition) : Except PrintError (Table Component) :=
  let row (c : JobCondition) : Table.Row Component :=
    .ofCells [("Type", .text c.type), ("Last Probe", timestampOf c.lastProbeTime),
      ("Last Transition", timestampOf c.lastTransitionTime), ("Status", .text c.status),
      ("Message", .text (c.message.getD "")), ("Reason", .text (c.reason.getD ""))]
  liftM (Table.ofRows "Conditions" "There are no job conditions!"
    (Table.columnsNamed ["Type", "Last Probe", "Last Transition", "Status", "Message", "Reason"])
    (conditions.map row))

/-- The table of the pods with the labels of the pod template. -/
def podsTable (j : Job) (o : PrintOptions) : Except PrintError (Table Component) :=
  ClusterView.podsTable (.ofResource j) (j.spec.bind (·.template.labels)) o

/-- Whether one of the owners of a job is an object, by type and name. -/
def isOwnedBy (j : Job) (owner : Reference) : Bool :=
  j.metadata.owners.any fun o =>
    o.apiVersion == owner.apiVersion && o.kind == owner.kind && o.name == owner.name

/-- The table of the jobs in the namespace of an object that it owns, without their labels. -/
def ownedTable (owner : Reference) (o : PrintOptions) : Except PrintError (Table Component) := do
  let query : Query := { apiVersion := "batch/v1", kind := "Job", inNamespace := owner.inNamespace }
  let jobs ← o.store.listAs Job query
  listView.print o.withoutLabels (jobs.filter fun j => j.isOwnedBy owner)

/-- The page of a job. -/
def page (j : Job) (o : PrintOptions) : Page :=
  { Page.ofResource j with
    config := some j.configuration
    status := some j.statusSummary
    items :=
      [⟨.full, (j.podsTable o).map .table⟩, ⟨.full, (conditionsTable j.conditions).map .table⟩]
    podTemplate := j.spec.map (·.template)
    events := true }

/-- Prints a job, which may be missing. -/
def print (o : PrintOptions) (input : Option Job) : Except PrintError Component := do
  ((← orMissing "job" input).page o).print o

end Job

/-! ## Replication controllers -/

namespace ReplicationController

/-- The pairs that select the pods, if any are set. -/
def selector (r : ReplicationController) : Option (StringMap String) := r.spec.bind (·.selector)

/-- The template of the pods, if it is set. -/
def template (r : ReplicationController) : Option PodTemplate := r.spec.bind (·.template)

/-- How replication controllers are shown in a table. -/
def listView : ListView ReplicationController where
  input := "replication controller list"
  title := "ReplicationControllers"
  emptyContent := "We couldn't find any replication controllers!"
  columns := ["Name", "Labels", "Status", "Age", "Containers", "Selector"]
  cells :=
    [("Status", fun r =>
        .text (ratioText (r.status.bind (·.availableReplicas)) (r.status.map (·.replicas)))),
     ("Age", ageOf),
     ("Containers", fun r => containerImages r.template),
     ("Selector", fun r => .selectors (shownLabels r.selector))]
  columns_eq := rfl
  nodup_columns := by decide

/-- The summary of the configuration. -/
def configuration (r : ReplicationController) (o : PrintOptions) :
    Except PrintError (Summary Component) := do
  let controller ←
    match ObjectMeta.controllerOf r.metadata.owners with
    | some owner => do
      let link ← o.link.forOwner (.ofResource r) owner
      pure [⟨"Controlled By", .link link⟩]
    | none => pure []
  let desired := (r.spec.bind (·.replicas)).toList.map fun desired =>
    Summary.Section.ofText "Replica Status"
      ("Current " ++ countText (r.status.bind (·.readyReplicas)) ++ " / Desired " ++
        Text.ofInt desired)
  return .ofSections "Configuration"
    (controller ++ desired ++ [.ofText "Replicas" (countText (r.status.map (·.replicas)))])

/-- The quadrant of the phases of the controlled pods. -/
def statusQuadrant (r : ReplicationController) (store : ObjectStore) :
    Except PrintError Quadrant := do
  let pods ← listPods r.metadata.inNamespace { matchLabels := r.selector } r.metadata.uid store
  let phases := PodPhases.ofPods pods
  return { title := "Status"
           northWest := ⟨"Running", phases.running.repr⟩
           northEast := ⟨"Waiting", phases.waiting.repr⟩
           southWest := ⟨"Succeeded", phases.succeeded.repr⟩
           southEast := ⟨"Failed", phases.failed.repr⟩ }

/-- The table of the pods that the controller selects. -/
def podsTable (r : ReplicationController) (o : PrintOptions) :
    Except PrintError (Table Component) :=
  ClusterView.podsTable (.ofResource r) r.selector o

/-- The page of a replication controller. -/
def page (r : ReplicationController) (o : PrintOptions) : Except PrintError Page := do
  let configuration ← r.configuration o
  return { Page.ofResource r with
    config := some configuration
    items := [⟨.quarter, (r.statusQuadrant o.store).map .quadrant⟩,
      ⟨.full, (r.podsTable o).map .table⟩]
    podTemplate := r.template
    events := true }

/-- Prints a replication controller, which may be missing. -/
def print (o : PrintOptions) (input : Option ReplicationController) :
    Except PrintError Component := do
  let page ← (← orMissing "replication controller" input).page o
  page.print o

end ReplicationController

end ClusterView

import ClusterView.Cluster.Kind.Pod
import ClusterView.Print.ListView

/-!
# Pods of an object

`podsTable` shows the pods in the namespace of an object that carry given labels; `listPods` finds
those that a selector accepts and that an object controls, and `PodPhases` counts their phases.
-/

namespace ClusterView

/-! ## Tables of pods -/

namespace Pod

/-- The states of the pod's containers. -/
def containerStatuses (p : Pod) : List ContainerStatus :=
  (p.status.bind (·.containerStatuses)).getD []

/-- The phase in which the pod is, if it is known. -/
def phase (p : Pod) : Option String := p.status.bind (·.phase)

/-- The number of containers that are ready. -/
def readyCount (p : Pod) : Nat := (p.containerStatuses.filter (·.ready)).length

/-- The number of containers that the pod asks for. -/
def containerCount (p : Pod) : Nat :=
  match p.spec with
  | some spec => spec.containers.length
  | none => 0

/-- How often containers of the pod were started again, added up without a bound. -/
def restartCount (p : Pod) : Int :=
  p.containerStatuses.foldl (fun count s => count + s.restartCount) 0

end Pod

/-- How pods are shown in a table. -/
def podsView : ListView Pod where
  input := "pod list"
  title := "Pods"
  emptyContent := "We couldn't find any pods!"
  columns := ["Name", "Labels", "Ready", "Phase", "Restarts", "Node", "Age"]
  cells :=
    [("Ready", fun p => .text (p.readyCount.repr ++ "/" ++ p.containerCount.repr)),
     ("Phase", fun p => .text (p.phase.getD "")),
     ("Restarts", fun p => .ofInt p.restartCount),
     ("Node", fun p => .text ((p.spec.bind (·.nodeName)).getD "<not scheduled>")),
     ("Age", ageOf)]
  columns_eq := rfl
  nodup_columns := by decide

/-- The table of the pods in the namespace of an object whose labels contain the given ones. -/
def podsTable (object : Reference) (labels : Option (StringMap String)) (o : PrintOptions) :
    Except PrintError (Table Component) := do
  let query : Query :=
    { apiVersion := "v1", kind := "Pod", inNamespace := object.inNamespace
      selector := some (labels.getD ∅) }
  podsView.print o (← o.store.listAs Pod query)

/-! ## Controlled pods -/

/-- Whether the controller of a pod is the object with an identity; without one any pod is. -/
def Pod.isControlledBy (p : Pod) (uid : Option String) : Bool :=
  match uid with
  | none => true
  | some uid => (ObjectMeta.controllerOf p.metadata.owners).any fun owner => owner.uid == uid

/-- The pods in a namespace that a selector accepts and that the object with an identity
controls. -/
def listPods (inNamespace : Option String) (selector : LabelSelector) (uid : Option String)
    (store : ObjectStore) : Except PrintError (List Pod) := do
  let pods ← store.listAs Pod { apiVersion := "v1", kind := "Pod", inNamespace }
  return pods.filter fun p => selector.accepts p.metadata.labelMap && p.isControlledBy uid

/-- How many pods are in each phase. -/
structure PodPhases where
  running : Nat
  waiting : Nat
  succeeded : Nat
  failed : Nat
deriving DecidableEq

/-- Counts the phases of some pods; other phases are not counted. -/
def PodPhases.ofPods (pods : List Pod) : PodPhases :=
  let count (phase : String) : Nat := pods.countP fun p => p.phase == some phase
  { running := count "Running", waiting := count "Pending", succeeded := count "Succeeded",
    failed := count "Failed" }

end ClusterView

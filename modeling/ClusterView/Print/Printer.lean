import ClusterView.Print.ServiceAccount
import ClusterView.Print.Storage
import ClusterView.Print.Workload

/-!
# Printing any object

`printObject` and `printList` choose the printer by API version and kind.
-/

namespace ClusterView

/-- A type of objects that can be printed. -/
inductive PrintableKind where
  | deployment
  | job
  | configMap
  | replicationController
  | secret
  | serviceAccount
deriving DecidableEq

namespace PrintableKind

/-- The kind with an API version and a name. -/
def ofType? (apiVersion kind : String) : Option PrintableKind :=
  match apiVersion, kind with
  | "apps/v1", "Deployment" => some deployment
  | "batch/v1", "Job" => some job
  | "v1", "ConfigMap" => some configMap
  | "v1", "ReplicationController" => some replicationController
  | "v1", "Secret" => some secret
  | "v1", "ServiceAccount" => some serviceAccount
  | _, _ => none

/-- Prints the page of an object of the kind. -/
def print (k : PrintableKind) (o : PrintOptions) (object : Object) :
    Except PrintError Component := do
  match k with
  | deployment => Deployment.print o (some (← object.convert Deployment))
  | job => Job.print o (some (← object.convert Job))
  | configMap => ConfigMap.print o (some (← object.convert ConfigMap))
  | replicationController =>
    ReplicationController.print o (some (← object.convert ReplicationController))
  | secret => Secret.print o (some (← object.convert Secret))
  | serviceAccount => ServiceAccount.print o (some (← object.convert ServiceAccount))

/-- Converts objects, all of them or none, and prints their table. -/
def printAs {α : Type} [Resource α] (v : ListView α) (o : PrintOptions) (objects : List Object) :
    Except PrintError Component := do
  let list ← (objects.mapM (Object.convert α) : Except StoreError _)
  let table ← v.print o list
  return .table table

/-- Prints the table of some objects of the kind. -/
def printList (k : PrintableKind) (o : PrintOptions) (objects : List Object) :
    Except PrintError Component :=
  match k with
  | deployment => printAs Deployment.listView o objects
  | job => printAs Job.listView o objects
  | configMap => printAs ConfigMap.listView o objects
  | replicationController => printAs ReplicationController.listView o objects
  | secret => printAs Secret.listView o objects
  | serviceAccount => printAs ServiceAccount.listView o objects

end PrintableKind

/-- The kind with an API version and a name, or the error that nothing prints it. -/
def printableKind (apiVersion kind : String) : Except PrintError PrintableKind :=
  match PrintableKind.ofType? apiVersion kind with
  | some k => .ok k
  | none => .error (.unsupportedKind apiVersion kind)

/-- Prints the page of an object, which may be missing. -/
def printObject (o : PrintOptions) (input : Option Object) : Except PrintError Component := do
  let object ← orMissing "object" input
  let types ← orMissing "object type" object.types
  (← printableKind types.apiVersion types.kind).print o object

/-- Prints the table of some objects of a type. -/
def printList (o : PrintOptions) (apiVersion kind : String) (objects : List Object) :
    Except PrintError Component := do
  (← printableKind apiVersion kind).printList o objects

end ClusterView

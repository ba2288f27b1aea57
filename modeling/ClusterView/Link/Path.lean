import ClusterView.Link.Generator

/-!
# Links as overview paths

An object that lives in a namespace is linked as `base/namespace/<namespace>/<section>/<name>`, one
that does not as `base/cluster-overview/<section>/<name>`. The section is that of its group and
kind.
-/

namespace ClusterView

/-- The section of the overview that shows the objects of a group and kind. -/
def viewSections : List ((String × String) × String) :=
  [(("", "Pod"), "workloads/pods"),
   (("apps", "Deployment"), "workloads/deployments"),
   (("apps", "ReplicaSet"), "workloads/replica-sets"),
   (("apps", "DaemonSet"), "workloads/daemon-sets"),
   (("apps", "StatefulSet"), "workloads/stateful-sets"),
   (("", "ReplicationController"), "workloads/replication-controllers"),
   (("batch", "Job"), "workloads/jobs"),
   (("batch", "CronJob"), "workloads/cron-jobs"),
   (("", "Service"), "discovery-and-load-balancing/services"),
   (("networking.k8s.io", "Ingress"), "discovery-and-load-balancing/ingresses"),
   (("", "ConfigMap"), "config-and-storage/config-maps"),
   (("", "Secret"), "config-and-storage/secrets"),
   (("", "ServiceAccount"), "config-and-storage/service-accounts"),
   (("", "PersistentVolumeClaim"), "config-and-storage/persistent-volume-claims"),
   (("rbac.authorization.k8s.io", "Role"), "rbac/roles"),
   (("rbac.authorization.k8s.io", "RoleBinding"), "rbac/role-bindings"),
   (("rbac.authorization.k8s.io", "ClusterRole"), "rbac/cluster-roles"),
   (("rbac.authorization.k8s.io", "ClusterRoleBinding"), "rbac/cluster-role-bindings"),
   (("", "Namespace"), "namespaces"),
   (("", "Node"), "nodes"),
   (("", "PersistentVolume"), "storage/persistent-volumes")]

/-- The section of the overview that shows the objects of a type. -/
def viewSection? (apiVersion kind : String) : Option String :=
  viewSections.lookup ((splitApiVersion apiVersion).1, kind)

/-- The path of an object that lives in a namespace. -/
def namespacedPath (base ns viewSection name : String) : String :=
  base ++ "/namespace/" ++ ns ++ "/" ++ viewSection ++ "/" ++ name

/-- The path of an object that lives in no namespace. -/
def clusterPath (base viewSection name : String) : String :=
  base ++ "/cluster-overview/" ++ viewSection ++ "/" ++ name

/-- Links below a base path, whose slashes at the end are dropped. -/
def pathLinks (base : String) : LinkGenerator where
  link t :=
    if t.name = "" then .error (.missingName t.kind)
    else
      match viewSection? t.apiVersion t.kind with
      | none => .error (.unsupportedKind t.apiVersion t.kind)
      | some viewSection =>
        if isClusterScoped t.apiVersion t.kind then
          .ok ⟨t.text, clusterPath (Text.trimEnd '/' base) viewSection t.name⟩
        else
          match t.inNamespace with
          | none | some "" => .error (.missingNamespace t.kind t.name)
          | some ns => .ok ⟨t.text, namespacedPath (Text.trimEnd '/' base) ns viewSection t.name⟩

end ClusterView

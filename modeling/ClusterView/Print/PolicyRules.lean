import ClusterView.Cluster.Kind.Access
import ClusterView.Cluster.Kind.Storage
import ClusterView.Print.Basic

/-!
# The rules granted to a service account

A service account has the rules of the roles that bindings grant to it or to one of its groups:
those of the bindings of its namespace, and then those of the cluster. `PolicyRule.row` shows a
rule.
-/

namespace ClusterView

/-! ## Subjects of bindings -/

/-- The group of all service accounts. -/
def allServiceAccounts : String := "system:serviceaccounts"

/-- The group of the service accounts of a namespace. -/
def serviceAccountsOf (ns : String) : String := allServiceAccounts ++ ":" ++ ns

/-- Whether a service account is a subject of a binding or belongs to a group that is. -/
def ServiceAccount.isSubject (a : ServiceAccount) (s : Subject) : Bool :=
  let ns := a.metadata.inNamespace.getD ""
  if s.kind = "ServiceAccount" then
    s.name == Resource.displayName a && s.inNamespace == some ns
  else if s.kind = "Group" then s.name == allServiceAccounts || s.name == serviceAccountsOf ns
  else false

/-! ## Rules of bound roles -/

/-- The query for the role that a binding in a scope grants; other references grant nothing. -/
def RoleRef.query? (r : RoleRef) (scope : Option String) : Option Query :=
  if r.kind = "Role" then
    some { apiVersion := accessVersion, kind := "Role", inNamespace := scope, name := some r.name }
  else if r.kind = "ClusterRole" then
    some { apiVersion := accessVersion, kind := "ClusterRole", name := some r.name }
  else none

/-- The rules of the role that a binding in a scope grants; none if the role is not there. -/
def grantedRules (store : ObjectStore) (scope : Option String) (r : RoleRef) :
    Except PrintError (List PolicyRule) := do
  match r.query? scope with
  | none => return []
  | some query =>
    match ← store.get query with
    | none => return []
    | some object =>
      if r.kind = "ClusterRole" then
        let role ← object.convert ClusterRole
        return role.rules.getD []
      else
        let role ← object.convert Role
        return role.rules.getD []

/-- The rules that the bindings of a query grant to a service account, binding after binding. -/
def boundRules (α : Type) [Resource α] (roleRef : α → RoleRef)
    (subjects : α → Option (List Subject))
    (a : ServiceAccount) (store : ObjectStore) (scope : Option String) (query : Query) :
    Except PrintError (List PolicyRule) := do
  let bindings ← store.list query
  let rules ← bindings.mapM fun object => do
    let binding ← object.convert α
    if ((subjects binding).getD []).any a.isSubject then grantedRules store scope (roleRef binding)
    else return []
  return rules.flatten

/-- The rules granted to a service account. -/
def ServiceAccount.policyRules (a : ServiceAccount) (store : ObjectStore) :
    Except PrintError (List PolicyRule) := do
  let ns := a.metadata.inNamespace
  let own ← boundRules RoleBinding (·.roleRef) (·.subjects) a store ns
    { apiVersion := accessVersion, kind := "RoleBinding", inNamespace := ns }
  let everywhere ← boundRules ClusterRoleBinding (·.roleRef) (·.subjects) a store none
    { apiVersion := accessVersion, kind := "ClusterRoleBinding" }
  return own ++ everywhere

/-! ## Tables of rules -/

namespace PolicyRule

/-- The resources of a rule with their groups: each resource in each group, the core group not
named. -/
def resourceTexts (r : PolicyRule) : List String :=
  let groups := r.apiGroups.getD []
  (r.resources.getD []).flatMap fun resource =>
    if groups.isEmpty then [resource]
    else groups.map fun group => if group = "" then resource else resource ++ "." ++ group

/-- The row of a rule. -/
def row (r : PolicyRule) : Table.Row Component :=
  .ofCells [("Resources", .text (joinOrNone ", " r.resourceTexts)),
    ("Non-Resource URLs", .text (joinOrNone ", " (r.nonResourceUrls.getD []))),
    ("Resource Names", .text (joinOrNone ", " (r.resourceNames.getD []))),
    ("Verbs", .text (joinOrNone ", " r.verbs))]

/-- The table of some rules. -/
def table (rules : List PolicyRule) : Except PrintError (Table Component) :=
  liftM (Table.ofRows "Policy Rules" "There are no policy rules!"
    (Table.columnsNamed ["Resources", "Non-Resource URLs", "Resource Names", "Verbs"])
    (rules.map row))

end PolicyRule

/-- The table of the rules granted to a service account. -/
def ServiceAccount.policyRulesTable (a : ServiceAccount) (store : ObjectStore) :
    Except PrintError (Table Component) := do
  PolicyRule.table (← a.policyRules store)

end ClusterView

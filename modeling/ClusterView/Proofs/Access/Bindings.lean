import ClusterView.Print.PolicyRules
import ClusterView.Proofs.Outcome

/-!
# Bindings and the roles they find

The rules of a service account are those of the bindings of its namespace (`ownRules`) and of the
cluster (`everywhereRules`), and both are made binding by binding (`bindingRules`). What a binding
grants depends on the store through the role that it refers to, and on no role if it does not name
the account (`boundRules_orFails`).
-/

namespace ClusterView

open Outcome

variable {a b : ObjectStore} {fault : PrintError → Prop}

/-! ## Queries for roles -/

/-- A role is looked for in the scope, a cluster role everywhere, and nothing else at all. -/
theorem RoleRef.query?_eq_some_iff {r : RoleRef} {scope : Option String} {q : Query} :
    r.query? scope = some q ↔
      (r.kind = "Role" ∧ q = ⟨accessVersion, "Role", scope, some r.name, none⟩) ∨
        (r.kind = "ClusterRole" ∧ q = ⟨accessVersion, "ClusterRole", none, some r.name, none⟩) := by
  unfold query?
  split
  · next hkind => simp [hkind, eq_comm]
  · next hrole =>
    split
    · next hkind => simp [hkind, eq_comm]
    · next hclusterRole => simp [hrole, hclusterRole]

theorem RoleRef.apiVersion_of_query? {r : RoleRef} {scope : Option String} {q : Query}
    (hq : r.query? scope = some q) : q.apiVersion = accessVersion := by
  obtain ⟨-, rfl⟩ | ⟨-, rfl⟩ := query?_eq_some_iff.1 hq
  · rfl
  · rfl

theorem grantedRules_orFails {scope : Option String} {r : RoleRef}
    (h : ∀ q, r.query? scope = some q →
      OrFails (fun e => fault (.store e)) (a.get q) (b.get q)) :
    OrFails fault (grantedRules a scope r) (grantedRules b scope r) := by
  unfold grantedRules
  cases hq : r.query? scope with
  | none => exact .refl _
  | some q => exact (h q hq).mapError.bind fun _ _ => .refl _

/-! ## Bindings -/

section

variable {α : Type} [Resource α] {roleRef : α → RoleRef} {subjects : α → Option (List Subject)}
  {x : ServiceAccount} {scope : Option String}

/-- The rules that an object grants to a service account as a binding. -/
def bindingRules (α : Type) [Resource α] (roleRef : α → RoleRef)
    (subjects : α → Option (List Subject)) (x : ServiceAccount) (store : ObjectStore)
    (scope : Option String) (object : Object) : Except PrintError (List PolicyRule) := do
  let binding ← object.convert α
  if ((subjects binding).getD []).any x.isSubject then grantedRules store scope (roleRef binding)
  else return []

theorem bindingRules_of_convert {store : ObjectStore} {object : Object} {binding : α}
    (h : object.convert α = .ok binding) : bindingRules α roleRef subjects x store scope object =
      if ((subjects binding).getD []).any x.isSubject then
        grantedRules store scope (roleRef binding)
      else .ok [] := by
  unfold bindingRules
  rw [h]
  rfl

theorem bindingRules_orFails {object : Object}
    (h : ∀ binding, object.convert α = .ok binding →
      ((subjects binding).getD []).any x.isSubject = true →
        ∀ q, (roleRef binding).query? scope = some q →
          OrFails (fun e => fault (.store e)) (a.get q) (b.get q)) :
    OrFails fault (bindingRules α roleRef subjects x a scope object)
      (bindingRules α roleRef subjects x b scope object) := by
  cases hconvert : object.convert α with
  | error e =>
    unfold bindingRules
    rw [hconvert]
    exact .refl _
  | ok binding =>
    rw [bindingRules_of_convert hconvert, bindingRules_of_convert hconvert]
    split
    · next hsubject => exact grantedRules_orFails (h binding hconvert hsubject)
    · exact .refl _

theorem boundRules_eq (store : ObjectStore) (q : Query) :
    boundRules α roleRef subjects x store scope q = do
      let objects ← store.list q
      let rules ← objects.mapM (bindingRules α roleRef subjects x store scope)
      return rules.flatten := rfl

/-- Bindings grant the same, or fail as the list of them or the role of one that names the account
does. -/
theorem boundRules_orFails {q : Query}
    (hlist : OrFails (fun e => fault (.store e)) (a.list q) (b.list q))
    (hget : ∀ objects, b.list q = .ok objects → ∀ object ∈ objects, ∀ binding,
      object.convert α = .ok binding → ((subjects binding).getD []).any x.isSubject = true →
        ∀ q', (roleRef binding).query? scope = some q' →
          OrFails (fun e => fault (.store e)) (a.get q') (b.get q')) :
    OrFails fault (boundRules α roleRef subjects x a scope q)
      (boundRules α roleRef subjects x b scope q) := by
  rw [boundRules_eq, boundRules_eq]
  refine hlist.mapError.bind fun objects hobjects => ?_
  have hrules : OrFails fault (objects.mapM (bindingRules α roleRef subjects x a scope))
      (objects.mapM (bindingRules α roleRef subjects x b scope)) :=
    .mapM (List.forall₂_same.2 fun object hobject =>
      bindingRules_orFails (hget objects (liftM_store_eq_ok_iff.1 hobjects) object hobject))
  exact hrules.bind fun _ _ => .refl _

/-- Bindings grant the same if those that name the account find the same roles. -/
theorem boundRules_congr {q : Query} (hlist : a.list q = b.list q)
    (hget : ∀ objects, b.list q = .ok objects → ∀ object ∈ objects, ∀ binding,
      object.convert α = .ok binding → ((subjects binding).getD []).any x.isSubject = true →
        ∀ q', (roleRef binding).query? scope = some q' → a.get q' = b.get q') :
    boundRules α roleRef subjects x a scope q = boundRules α roleRef subjects x b scope q := by
  have hrules : OrFails (fun _ => False) (boundRules α roleRef subjects x a scope q)
      (boundRules α roleRef subjects x b scope q) := by
    refine boundRules_orFails (.of_eq hlist) ?_
    intro objects hobjects object hobject binding hconvert hsubject q' hq'
    exact .of_eq (hget objects hobjects object hobject binding hconvert hsubject q' hq')
  exact hrules.eq_of_never

end

/-! ## Service accounts -/

/-- The query for the bindings of a namespace. -/
def roleBindingsIn (ns : Option String) : Query :=
  { apiVersion := accessVersion, kind := "RoleBinding", inNamespace := ns }

/-- The query for the bindings of the cluster. -/
def clusterRoleBindings : Query := { apiVersion := accessVersion, kind := "ClusterRoleBinding" }

namespace ServiceAccount

variable (x : ServiceAccount)

/-- The rules of the bindings of the namespace of a service account. -/
def ownRules (store : ObjectStore) : Except PrintError (List PolicyRule) :=
  boundRules RoleBinding (·.roleRef) (·.subjects) x store x.metadata.inNamespace
    (roleBindingsIn x.metadata.inNamespace)

/-- The rules of the bindings of the cluster. -/
def everywhereRules (store : ObjectStore) : Except PrintError (List PolicyRule) :=
  boundRules ClusterRoleBinding (·.roleRef) (·.subjects) x store none clusterRoleBindings

theorem policyRules_eq (store : ObjectStore) : x.policyRules store = do
    let own ← x.ownRules store
    let everywhere ← x.everywhereRules store
    return own ++ everywhere := rfl

theorem policyRules_orFails (hown : OrFails fault (x.ownRules a) (x.ownRules b))
    (heverywhere : OrFails fault (x.everywhereRules a) (x.everywhereRules b)) :
    OrFails fault (x.policyRules a) (x.policyRules b) := by
  rw [policyRules_eq, policyRules_eq]
  exact hown.bind fun _ _ => heverywhere.bind fun _ _ => .refl _

/-- Rules are found among roles and bindings. -/
theorem policyRules_orFails_of_access
    (hlist : ∀ q : Query, q.apiVersion = accessVersion →
      OrFails (fun e => fault (.store e)) (a.list q) (b.list q))
    (hget : ∀ q : Query, q.apiVersion = accessVersion →
      OrFails (fun e => fault (.store e)) (a.get q) (b.get q)) :
    OrFails fault (x.policyRules a) (x.policyRules b) := by
  have hrole : ∀ (r : RoleRef) scope q, r.query? scope = some q →
      OrFails (fun e => fault (.store e)) (a.get q) (b.get q) :=
    fun r scope q hq => hget q (r.apiVersion_of_query? hq)
  exact x.policyRules_orFails
    (boundRules_orFails (hlist _ rfl) fun _ _ _ _ binding _ _ => hrole binding.roleRef _)
    (boundRules_orFails (hlist _ rfl) fun _ _ _ _ binding _ _ => hrole binding.roleRef _)

end ServiceAccount

end ClusterView

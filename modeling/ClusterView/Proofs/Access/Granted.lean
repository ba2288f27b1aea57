import ClusterView.Proofs.Access.Bindings
import ClusterView.Store.Memory

/-!
# The rules granted by a store in memory

`RoleRules` says which rules a reference to a role means in a scope, and `Grants` which of them a
binding grants to a service account. The rules of an account are what the bindings of its namespace
and then those of the cluster grant, each once and in the order of the store
(`policyRules_eq_ok_iff`). The scope matters to references of kind `Role` only, so if the bindings
of the cluster refer to cluster roles, all of them may be read in the namespace of the account
(`policyRules_eq_ok_iff_granted`).
-/

namespace ClusterView

open Outcome

/-! ## Subjects -/

/-- Whether a subject is a service account of a namespace or a group that it belongs to. -/
def ServiceAccount.NamedBy (x : ServiceAccount) (ns : String) (s : Subject) : Prop :=
  (s.kind = "ServiceAccount" ∧ s.name = Resource.displayName x ∧ s.inNamespace = some ns) ∨
    (s.kind = "Group" ∧
      (s.name = "system:serviceaccounts" ∨ s.name = "system:serviceaccounts:" ++ ns))

theorem serviceAccountsOf_eq (ns : String) :
    serviceAccountsOf ns = "system:serviceaccounts:" ++ ns := by
  rfl

theorem ServiceAccount.isSubject_iff {x : ServiceAccount} {ns : String}
    (hns : x.metadata.inNamespace = some ns) {s : Subject} :
    x.isSubject s = true ↔ x.NamedBy ns s := by
  unfold isSubject NamedBy
  rw [hns, ← serviceAccountsOf_eq]
  split
  · next hkind => simp [hkind]
  · next hkind =>
    split
    · next hgroup => simp [hgroup, allServiceAccounts]
    · next hgroup => simp [hkind, hgroup]

/-! ## Roles -/

namespace MemoryStore

/-- The objects of a kind of roles or bindings, in the order of the store. -/
def access (s : MemoryStore) (kind : String) : List Object :=
  s.objects.filter fun x => x.types = some ⟨accessVersion, kind⟩

/-- The first role of a kind with a name, in a namespace if there is one. -/
def firstRole (s : MemoryStore) (kind : String) (scope : Option String) (name : String) :
    Option Object :=
  (s.access kind).find? fun x =>
    (∀ ns ∈ scope, x.metadata.inNamespace = some ns) ∧ x.metadata.name = some name

theorem get?_eq_firstRole (s : MemoryStore) (kind : String) (scope : Option String)
    (name : String) :
    s.get? { apiVersion := accessVersion, kind, inNamespace := scope, name := some name } =
      s.firstRole kind scope name := by
  unfold get? firstRole access
  rw [List.find?_filter]
  congr 1
  funext x
  rw [Bool.eq_iff_iff, Query.selects_iff]
  simp

end MemoryStore

/-- The rules of a role that is found, and none if there is no role. -/
inductive FoundRules (α : Type) [Resource α] (rulesOf : α → Option (List PolicyRule)) :
    Option Object → List PolicyRule → Prop
  | missing : FoundRules α rulesOf none []
  | found {object : Object} {role : α} (h : object.as? α = some role) :
      FoundRules α rulesOf (some object) ((rulesOf role).getD [])

/-- The rules that a reference means in a scope: those of the first role that it finds. -/
inductive RoleRules (s : MemoryStore) (scope : Option String) (r : RoleRef) :
    List PolicyRule → Prop
  | role {rules : List PolicyRule} (hkind : r.kind = "Role")
      (h : FoundRules Role (·.rules) (s.firstRole "Role" scope r.name) rules) :
      RoleRules s scope r rules
  | clusterRole {rules : List PolicyRule} (hkind : r.kind = "ClusterRole")
      (h : FoundRules ClusterRole (·.rules) (s.firstRole "ClusterRole" none r.name) rules) :
      RoleRules s scope r rules
  | other (hrole : r.kind ≠ "Role") (hclusterRole : r.kind ≠ "ClusterRole") : RoleRules s scope r []

/-- The rules of a role that is found, with an error if it has another shape. -/
def foundRules (α : Type) [Resource α] (rulesOf : α → Option (List PolicyRule))
    (first : Option Object) : Except PrintError (List PolicyRule) :=
  match first with
  | none => .ok []
  | some object => (object.convert α).mapError .store >>= fun role => .ok ((rulesOf role).getD [])

theorem foundRules_eq_ok_iff {α : Type} [Resource α] {rulesOf : α → Option (List PolicyRule)}
    {first : Option Object} {rules : List PolicyRule} :
    foundRules α rulesOf first = .ok rules ↔ FoundRules α rulesOf first rules := by
  cases first with
  | none =>
    constructor
    · intro h
      cases h
      exact .missing
    · rintro ⟨⟩
      rfl
  | some object =>
    simp only [foundRules, bind_eq_ok_iff, mapError_eq_ok_iff, Object.convert_eq_ok_iff]
    constructor
    · rintro ⟨role, hrole, ⟨⟩⟩
      exact .found hrole
    · intro h
      cases h with
      | found hrole => exact ⟨_, hrole, rfl⟩

section

variable {s : MemoryStore} {scope : Option String} {r : RoleRef} {rules : List PolicyRule}

theorem grantedRules_of_role (hkind : r.kind = "Role") : grantedRules s.toObjectStore scope r =
    foundRules Role (·.rules) (s.firstRole "Role" scope r.name) := by
  simp only [grantedRules, RoleRef.query?, hkind, String.reduceEq, reduceIte,
    MemoryStore.toObjectStore, liftM_store_ok, ok_bind, MemoryStore.get?_eq_firstRole]
  cases s.firstRole "Role" scope r.name with
  | none => rfl
  | some object => rfl

theorem grantedRules_of_clusterRole (hkind : r.kind = "ClusterRole") :
    grantedRules s.toObjectStore scope r =
      foundRules ClusterRole (·.rules) (s.firstRole "ClusterRole" none r.name) := by
  simp only [grantedRules, RoleRef.query?, hkind, String.reduceEq, reduceIte,
    MemoryStore.toObjectStore, liftM_store_ok, ok_bind, MemoryStore.get?_eq_firstRole]
  cases s.firstRole "ClusterRole" none r.name with
  | none => rfl
  | some object => rfl

theorem grantedRules_of_other {store : ObjectStore} (hrole : r.kind ≠ "Role")
    (hclusterRole : r.kind ≠ "ClusterRole") : grantedRules store scope r = .ok [] := by
  simp only [grantedRules, RoleRef.query?, if_neg hrole, if_neg hclusterRole]
  rfl

/-- The rules of a role are found exactly if they are those that the reference means. -/
theorem grantedRules_eq_ok_iff :
    grantedRules s.toObjectStore scope r = .ok rules ↔ RoleRules s scope r rules := by
  constructor
  · intro h
    by_cases hrole : r.kind = "Role"
    · rw [grantedRules_of_role hrole] at h
      exact .role hrole (foundRules_eq_ok_iff.1 h)
    by_cases hclusterRole : r.kind = "ClusterRole"
    · rw [grantedRules_of_clusterRole hclusterRole] at h
      exact .clusterRole hclusterRole (foundRules_eq_ok_iff.1 h)
    · rw [grantedRules_of_other hrole hclusterRole] at h
      cases h
      exact .other hrole hclusterRole
  · intro h
    cases h with
    | role hkind h => rw [grantedRules_of_role hkind, foundRules_eq_ok_iff.2 h]
    | clusterRole hkind h => rw [grantedRules_of_clusterRole hkind, foundRules_eq_ok_iff.2 h]
    | other hrole hclusterRole => exact grantedRules_of_other hrole hclusterRole

/-- The scope does not matter to references to cluster roles. -/
theorem RoleRules.of_clusterRole {scope' : Option String} (hkind : r.kind = "ClusterRole")
    (h : RoleRules s scope r rules) : RoleRules s scope' r rules := by
  rw [← grantedRules_eq_ok_iff, grantedRules_of_clusterRole hkind] at h ⊢
  exact h

end

/-! ## Bindings -/

/-- The rules that a binding grants to a service account of a namespace in a scope. -/
inductive Grants (s : MemoryStore) (x : ServiceAccount) (ns : String) (scope : Option String)
    (r : RoleRef) (subjects : List Subject) : List PolicyRule → Prop
  | named {rules : List PolicyRule} (hnamed : ∃ u ∈ subjects, x.NamedBy ns u)
      (hrules : RoleRules s scope r rules) : Grants s x ns scope r subjects rules
  | notNamed (hnamed : ¬∃ u ∈ subjects, x.NamedBy ns u) : Grants s x ns scope r subjects []

theorem Grants.of_clusterRole {s : MemoryStore} {x : ServiceAccount} {ns : String}
    {scope scope' : Option String} {r : RoleRef} {subjects : List Subject}
    {rules : List PolicyRule} (hkind : r.kind = "ClusterRole")
    (h : Grants s x ns scope r subjects rules) : Grants s x ns scope' r subjects rules := by
  cases h with
  | named hnamed hrules => exact .named hnamed (hrules.of_clusterRole hkind)
  | notNamed hnamed => exact .notNamed hnamed

section

variable {s : MemoryStore} {x : ServiceAccount} {ns : String} {scope : Option String}
  {rules : List PolicyRule} {α : Type} [Resource α] {roleRef : α → RoleRef}
  {subjects : α → Option (List Subject)} (hns : x.metadata.inNamespace = some ns)
include hns

/-- The rules of a binding are found exactly if they are those that it grants. -/
theorem bindingRules_eq_ok_iff {object : Object} :
    bindingRules α roleRef subjects x s.toObjectStore scope object = .ok rules ↔
      ∃ b, object.as? α = some b ∧
        Grants s x ns scope (roleRef b) ((subjects b).getD []) rules := by
  have hany : ∀ b, ((subjects b).getD []).any x.isSubject = true ↔
      ∃ u ∈ (subjects b).getD [], x.NamedBy ns u := by
    intro b
    simp only [List.any_eq_true, ServiceAccount.isSubject_iff hns]
  constructor
  · intro h
    obtain ⟨b, hb, -⟩ := bind_eq_ok_iff.1 h
    have hconvert := liftM_store_eq_ok_iff.1 hb
    rw [bindingRules_of_convert hconvert] at h
    refine ⟨b, Object.convert_eq_ok_iff.1 hconvert, ?_⟩
    by_cases hnamed : ∃ u ∈ (subjects b).getD [], x.NamedBy ns u
    · rw [if_pos ((hany b).2 hnamed)] at h
      exact .named hnamed (grantedRules_eq_ok_iff.1 h)
    · rw [if_neg (mt (hany b).1 hnamed)] at h
      cases h
      exact .notNamed hnamed
  · rintro ⟨b, hb, h⟩
    rw [bindingRules_of_convert (Object.convert_eq_ok_iff.2 hb)]
    cases h with
    | named hnamed hrules => rw [if_pos ((hany b).2 hnamed), grantedRules_eq_ok_iff.2 hrules]
    | notNamed hnamed => rw [if_neg (mt (hany b).1 hnamed)]

/-- The rules of bindings are what they grant, one after the other. -/
theorem boundRules_eq_ok_iff {q : Query} :
    boundRules α roleRef subjects x s.toObjectStore scope q = .ok rules ↔
      ∃ granted, List.Forall₂ (fun object rules => ∃ b, object.as? α = some b ∧
        Grants s x ns scope (roleRef b) ((subjects b).getD []) rules) (s.list q) granted ∧
          rules = granted.flatten := by
  simp only [boundRules_eq, MemoryStore.toObjectStore, liftM_store_ok, ok_bind, bind_eq_ok_iff,
    pure_eq_ok_iff, mapM_eq_ok_iff]
  refine exists_congr fun granted => and_congr ?_ eq_comm
  refine Iff.of_eq (congrArg (List.Forall₂ · _ _) ?_)
  funext object rules
  exact propext (bindingRules_eq_ok_iff hns)

end

/-! ## Service accounts -/

namespace MemoryStore

variable (s : MemoryStore)

theorem list_roleBindingsIn (ns : String) : s.list (roleBindingsIn (some ns)) =
    (s.access "RoleBinding").filter fun o => o.metadata.inNamespace = some ns := by
  unfold list access
  rw [List.filter_filter]
  refine congrArg (List.filter · _) ?_
  funext x
  rw [Bool.eq_iff_iff, Query.selects_iff]
  simp [roleBindingsIn, and_comm]

theorem list_clusterRoleBindings :
    s.list ClusterView.clusterRoleBindings = s.access "ClusterRoleBinding" := by
  unfold list access
  refine congrArg (List.filter · _) ?_
  funext x
  rw [Bool.eq_iff_iff, Query.selects_iff]
  simp [ClusterView.clusterRoleBindings]

end MemoryStore

/-- A binding of a namespace grants some rules to a service account. -/
def GrantsInNamespace (s : MemoryStore) (x : ServiceAccount) (ns : String) (object : Object)
    (rules : List PolicyRule) : Prop :=
  ∃ b, object.as? RoleBinding = some b ∧
    Grants s x ns (some ns) b.roleRef (b.subjects.getD []) rules

/-- A binding of the cluster grants some rules to a service account in a scope. -/
def GrantsEverywhere (s : MemoryStore) (x : ServiceAccount) (ns : String) (scope : Option String)
    (object : Object) (rules : List PolicyRule) : Prop :=
  ∃ b, object.as? ClusterRoleBinding = some b ∧
    Grants s x ns scope b.roleRef (b.subjects.getD []) rules

section

variable {s : MemoryStore} {x : ServiceAccount} {ns : String} {rules : List PolicyRule}
  (hns : x.metadata.inNamespace = some ns)
include hns

/-- The rules of a service account are what the bindings of its namespace grant and then what those
of the cluster grant without a scope. -/
theorem policyRules_eq_ok_iff : x.policyRules s.toObjectStore = .ok rules ↔ ∃ own everywhere,
    List.Forall₂ (GrantsInNamespace s x ns)
      ((s.access "RoleBinding").filter fun o => o.metadata.inNamespace = some ns) own ∧
    List.Forall₂ (GrantsEverywhere s x ns none) (s.access "ClusterRoleBinding") everywhere ∧
    rules = own.flatten ++ everywhere.flatten := by
  simp only [ServiceAccount.policyRules_eq, bind_eq_ok_iff, pure_eq_ok_iff]
  unfold ServiceAccount.ownRules ServiceAccount.everywhereRules
  simp only [boundRules_eq_ok_iff hns, hns, MemoryStore.list_roleBindingsIn,
    MemoryStore.list_clusterRoleBindings]
  constructor
  · rintro ⟨_, ⟨own, hown, rfl⟩, _, ⟨everywhere, heverywhere, rfl⟩, rfl⟩
    exact ⟨own, everywhere, hown, heverywhere, rfl⟩
  · rintro ⟨own, everywhere, hown, heverywhere, rfl⟩
    exact ⟨_, ⟨own, hown, rfl⟩, _, ⟨everywhere, heverywhere, rfl⟩, rfl⟩

/-- **The rules of a service account are those granted to it.** If the bindings of the cluster refer
to cluster roles, every reference is resolved in the namespace of the account. -/
theorem policyRules_eq_ok_iff_granted
    (hclusterRole : ∀ object ∈ s.access "ClusterRoleBinding", ∀ b,
      object.as? ClusterRoleBinding = some b → b.roleRef.kind = "ClusterRole") :
    x.policyRules s.toObjectStore = .ok rules ↔ ∃ own everywhere,
      List.Forall₂ (GrantsInNamespace s x ns)
        ((s.access "RoleBinding").filter fun o => o.metadata.inNamespace = some ns) own ∧
      List.Forall₂ (GrantsEverywhere s x ns (some ns)) (s.access "ClusterRoleBinding") everywhere ∧
      rules = own.flatten ++ everywhere.flatten := by
  have hscope : ∀ {scope scope' : Option String} {everywhere : List (List PolicyRule)},
      List.Forall₂ (GrantsEverywhere s x ns scope) (s.access "ClusterRoleBinding") everywhere →
        List.Forall₂ (GrantsEverywhere s x ns scope') (s.access "ClusterRoleBinding")
          everywhere := by
    intro scope scope' everywhere h
    have hboth := (List.forall₂_and_left _ _).2 ⟨hclusterRole, h⟩
    exact hboth.imp fun object rules ⟨hkind, b, hb, hgrants⟩ =>
      ⟨b, hb, hgrants.of_clusterRole (hkind b hb)⟩
  rw [policyRules_eq_ok_iff hns]
  constructor
  · rintro ⟨own, everywhere, hown, heverywhere, hrules⟩
    exact ⟨own, everywhere, hown, hscope heverywhere, hrules⟩
  · rintro ⟨own, everywhere, hown, heverywhere, hrules⟩
    exact ⟨own, everywhere, hown, hscope heverywhere, hrules⟩

end

/-- An object for access control. -/
def accessObject (kind name : String) (ns : Option String) (fields : List (String × Json)) :
    Object where
  types := some ⟨accessVersion, kind⟩
  metadata := { name := some name, inNamespace := ns }
  fields

/-- A rule that allows to do something to resources of the core group. -/
def ruleJson (verb resource : String) : Json :=
  .object [("apiGroups", .array [.string ""]), ("resources", .array [.string resource]),
    ("verbs", .array [.string verb])]

/-- A reference to a role. -/
def roleRefJson (kind name : String) : Json :=
  .object [("kind", .string kind), ("name", .string name)]

/-- The service account `builder`. -/
def builder : ServiceAccount where
  metadata := { name := some "builder", inNamespace := some "default" }
  imagePullSecrets := none
  secrets := none

/-- A store where `builder` may read pods of its namespace and, as every service account, nodes. -/
def builderStore : MemoryStore where
  objects :=
    [accessObject "ClusterRole" "viewer" none [("rules", .array [ruleJson "list" "nodes"])],
      accessObject "ClusterRoleBinding" "viewers" none
        [("roleRef", roleRefJson "ClusterRole" "viewer"),
          ("subjects", .array [.object [("kind", .string "Group"),
            ("name", .string "system:serviceaccounts")]])],
      accessObject "Role" "reader" (some "default") [("rules", .array [ruleJson "get" "pods"])],
      accessObject "RoleBinding" "readers" (some "default")
        [("roleRef", roleRefJson "Role" "reader"),
          ("subjects", .array [.object [("kind", .string "ServiceAccount"),
            ("name", .string "builder"), ("namespace", .string "default")]])]]

/-- The two rules of `builder` are granted by its two bindings. -/
theorem policyRules_builder :
    let rules : List PolicyRule :=
      [⟨some [""], none, none, some ["pods"], ["get"]⟩,
        ⟨some [""], none, none, some ["nodes"], ["list"]⟩]
    builder.policyRules builderStore.toObjectStore = .ok rules ∧ ∃ own everywhere,
      List.Forall₂ (GrantsInNamespace builderStore builder "default")
        ((builderStore.access "RoleBinding").filter fun o =>
          o.metadata.inNamespace = some "default") own ∧
      List.Forall₂ (GrantsEverywhere builderStore builder "default" (some "default"))
        (builderStore.access "ClusterRoleBinding") everywhere ∧
      rules = own.flatten ++ everywhere.flatten := by
  have hclusterRole : ∀ object ∈ builderStore.access "ClusterRoleBinding", ∀ b,
      object.as? ClusterRoleBinding = some b → b.roleRef.kind = "ClusterRole" := by
    decide
  refine ⟨rfl, (policyRules_eq_ok_iff_granted (x := builder) rfl hclusterRole).1 rfl⟩

end ClusterView

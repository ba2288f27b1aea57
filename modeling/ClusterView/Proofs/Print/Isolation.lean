import ClusterView.Link.Path
import ClusterView.Proofs.Access.Granted
import ClusterView.Proofs.Print.Answers
import ClusterView.Proofs.Store.Order

/-!
# Printing in a namespace

Whatever the page of an object asks, it asks for objects of the namespace of the object, for cluster
roles or for bindings of the cluster (`NamespaceQuery`). So objects elsewhere do not matter to it
(`printObject_eq_of_sameVisibleIn`), neither by what they are nor by their place in the store nor by
a shape that their type does not have. A binding of the cluster to a role would look for the role in
every namespace, so there must be none.
-/

namespace ClusterView

open Outcome

/-! ## What is visible in a namespace -/

/-- Whether an object lives in a namespace, or is a cluster role or a binding of the cluster by its
kind. -/
def Object.isVisibleIn (ns : String) (x : Object) : Bool :=
  x.metadata.inNamespace = some ns ||
    x.types.any fun t => t.kind = "ClusterRole" || t.kind = "ClusterRoleBinding"

/-- Objects of which the same are visible in a namespace, in the same order. -/
def SameVisibleIn (ns : String) (objects objects' : List Object) : Prop :=
  objects.filter (Object.isVisibleIn ns) = objects'.filter (Object.isVisibleIn ns)

/-- Whether bindings of the cluster refer to cluster roles only. -/
def BindClusterRoles (objects : List Object) : Prop :=
  ∀ x ∈ objects, x.types = some ⟨accessVersion, "ClusterRoleBinding"⟩ →
    ∀ b, x.as? ClusterRoleBinding = some b → b.roleRef.kind = "ClusterRole"

/-- What the page of an object of a namespace asks for. -/
inductive NamespaceQuery (ns : String) : Query → Prop
  | inNamespace {q : Query} (h : q.inNamespace = some ns) : NamespaceQuery ns q
  | clusterRole {q : Query} (h : q.kind = "ClusterRole") : NamespaceQuery ns q
  | clusterRoleBinding {q : Query} (h : q.kind = "ClusterRoleBinding") : NamespaceQuery ns q

theorem NamespaceQuery.isVisibleIn_of_selects {ns : String} {q : Query} (hq : NamespaceQuery ns q)
    {x : Object} (hx : q.selects x = true) : x.isVisibleIn ns = true := by
  obtain ⟨htypes, hns, -⟩ := Query.selects_iff.1 hx
  cases hq with
  | inNamespace h => simp [Object.isVisibleIn, hns ns h]
  | clusterRole h => simp [Object.isVisibleIn, htypes, h]
  | clusterRoleBinding h => simp [Object.isVisibleIn, htypes, h]

theorem WorkloadQuery.namespaceQuery {ns : String} {q : Query} (h : WorkloadQuery (some ns) q) :
    NamespaceQuery ns q := by
  cases h with
  | pods selector => exact .inNamespace rfl
  | events => exact .inNamespace rfl

/-- Stores of objects of which the same are visible in a namespace agree on what is asked there. -/
theorem SameVisibleIn.agreeOn {ns : String} {objects objects' : List Object}
    (h : SameVisibleIn ns objects objects') :
    ObjectStore.AgreeOn (NamespaceQuery ns) (MemoryStore.ofObjects objects).toObjectStore
      (MemoryStore.ofObjects objects').toObjectStore := by
  have hstores : (MemoryStore.ofObjects objects).objects.filter (Object.isVisibleIn ns) =
      (MemoryStore.ofObjects objects').objects.filter (Object.isVisibleIn ns) := by
    rw [MemoryStore.filter_ofObjects, MemoryStore.filter_ofObjects, h]
  have hlist : ∀ q, NamespaceQuery ns q →
      (MemoryStore.ofObjects objects).list q = (MemoryStore.ofObjects objects').list q :=
    fun q hq => MemoryStore.list_eq_of_filter_eq hstores fun x => hq.isVisibleIn_of_selects
  refine ⟨fun q hq => congrArg Except.ok (hlist q hq), fun q hq => congrArg Except.ok ?_⟩
  rw [MemoryStore.get?_eq_head?, MemoryStore.get?_eq_head?, hlist q hq]

theorem BindClusterRoles.of_list {objects : List Object} (h : BindClusterRoles objects)
    {x : Object} (hx : x ∈ (MemoryStore.ofObjects objects).list clusterRoleBindings)
    {b : ClusterRoleBinding} (hb : x.convert ClusterRoleBinding = .ok b) :
    b.roleRef.kind = "ClusterRole" := by
  obtain ⟨hmem, hselects⟩ := List.mem_filter.1 hx
  exact h x (List.mem_mergeSort.1 hmem) (Query.selects_iff.1 hselects).1 b
    (Object.convert_eq_ok_iff.1 hb)

/-! ## Service accounts -/

section

variable {a b : ObjectStore} {ns : String} (h : ObjectStore.AgreeOn (NamespaceQuery ns) a b)
  {x : ServiceAccount} (hns : x.metadata.inNamespace = some ns)
include h hns

theorem ServiceAccount.ownRules_eq_of_agreeOn : x.ownRules a = x.ownRules b := by
  unfold ownRules
  rw [hns]
  refine boundRules_congr (h.list _ (.inNamespace rfl)) fun _ _ _ _ b _ _ q hq => h.get q ?_
  obtain ⟨-, rfl⟩ | ⟨-, rfl⟩ := RoleRef.query?_eq_some_iff.1 hq
  · exact .inNamespace rfl
  · exact .clusterRole rfl

omit hns in
theorem ServiceAccount.everywhereRules_eq_of_agreeOn
    (hbind : ∀ objects, b.list clusterRoleBindings = .ok objects → ∀ object ∈ objects, ∀ binding,
      object.convert ClusterRoleBinding = .ok binding → binding.roleRef.kind = "ClusterRole") :
    x.everywhereRules a = x.everywhereRules b := by
  refine boundRules_congr (h.list _ (.clusterRoleBinding rfl)) ?_
  intro objects hobjects object hobject binding hconvert _ q hq
  have hkind := hbind objects hobjects object hobject binding hconvert
  obtain ⟨hrole, rfl⟩ | ⟨-, rfl⟩ := RoleRef.query?_eq_some_iff.1 hq
  · simp [hkind] at hrole
  · exact h.get _ (.clusterRole rfl)

end

/-! ## Printing -/

/-- A config map or a secret is printed without a store. -/
theorem printObject_eq_of_types {o : PrintOptions} (a b : ObjectStore) {x : Object}
    (h : x.types = some ⟨"v1", "ConfigMap"⟩ ∨ x.types = some ⟨"v1", "Secret"⟩) :
    printObject (o.withStore a) (some x) = printObject (o.withStore b) (some x) := by
  obtain h | h := h
  · simp only [printObject, orMissing, ok_bind, h]
    rfl
  · simp only [printObject, orMissing, ok_bind, h]
    rfl

/-- An object is printed alike over stores that agree on what is asked in its namespace. -/
theorem printObject_eq_of_agreeOn {o : PrintOptions} {a b : ObjectStore} {ns : String}
    (h : ObjectStore.AgreeOn (NamespaceQuery ns) a b)
    (hbind : ∀ objects, b.list clusterRoleBindings = .ok objects → ∀ object ∈ objects, ∀ binding,
      object.convert ClusterRoleBinding = .ok binding → binding.roleRef.kind = "ClusterRole")
    {x : Object} (hns : x.metadata.inNamespace = some ns) :
    printObject (o.withStore a) (some x) = printObject (o.withStore b) (some x) := by
  have haccount : ∀ {account : ServiceAccount}, x.convert ServiceAccount = .ok account →
      account.metadata.inNamespace = some ns := by
    intro account hconvert
    exact (congrArg ObjectMeta.inNamespace (Object.metadata_of_convert hconvert)).trans hns
  have hprint : OrFails (fun _ => False) (printObject (o.withStore a) (some x))
      (printObject (o.withStore b) (some x)) := by
    refine printObject_orFails fun y hy k => ?_
    obtain rfl := Option.some.inj hy
    refine k.print_orFails x ?_ (fun account hconvert => ?_) fun account hconvert => ?_
    · rw [hns]
      exact (h.mono fun q hq => hq.namespaceQuery).answersLike
    -- A service account asks in its own namespace, which conversion leaves that of the object.
    · refine ServiceAccount.tokenLinks_orFails fun q hq => .of_eq (h.list q (.inNamespace ?_))
      exact hq.trans (haccount hconvert)
    · exact account.policyRules_orFails
        (.of_eq (ServiceAccount.ownRules_eq_of_agreeOn h (haccount hconvert)))
        (.of_eq (ServiceAccount.everywhereRules_eq_of_agreeOn h hbind))
  exact hprint.eq_of_never

/-- **Printing is isolated by namespaces.** Two stores may differ in what is not visible in the
namespace of an object, and the object is printed alike; config maps and secrets are printed alike
over any two stores. -/
theorem printObject_eq_of_sameVisibleIn (o : PrintOptions) :
    (∀ ns objects objects', SameVisibleIn ns objects objects' → BindClusterRoles objects' →
      ∀ x : Object, x.metadata.inNamespace = some ns →
        printObject (o.withStore (MemoryStore.ofObjects objects).toObjectStore) (some x) =
          printObject (o.withStore (MemoryStore.ofObjects objects').toObjectStore) (some x)) ∧
    ∀ (a b : ObjectStore) (x : Object),
      x.types = some ⟨"v1", "ConfigMap"⟩ ∨ x.types = some ⟨"v1", "Secret"⟩ →
        printObject (o.withStore a) (some x) = printObject (o.withStore b) (some x) := by
  refine ⟨fun ns objects objects' hsame hbind x hns => ?_, fun a b x => printObject_eq_of_types a b⟩
  refine printObject_eq_of_agreeOn hsame.agreeOn (fun found hfound y hy b hb => ?_) hns
  obtain rfl := Except.ok.inj hfound
  exact hbind.of_list hy hb

/-- Objects of another namespace: a secret that cannot be read, and a role and a binding that are
named as those of `builderStore`. -/
def strangers : List Object :=
  [⟨some ⟨"v1", "Secret"⟩, { name := some "token", inNamespace := some "another" },
      [("data", .string "none")]⟩,
    accessObject "Role" "reader" (some "another") [("rules", .array [ruleJson "delete" "pods"])],
    accessObject "RoleBinding" "readers" (some "another")
      [("roleRef", roleRefJson "Role" "reader"),
        ("subjects", .array [.object [("kind", .string "ServiceAccount"),
          ("name", .string "builder"), ("namespace", .string "default")]])]]

/-- The account `builder` has the same page with them and without them, and a config map has the
same page where nothing can be asked. -/
theorem printObject_strangers :
    let o : PrintOptions :=
      { store := MemoryStore.empty.toObjectStore, link := pathLinks "/overview"
        plugins := PluginRegistry.empty.toManager }
    let account := Resource.toObject builder
    let settings : Object :=
      ⟨some ⟨"v1", "ConfigMap"⟩, { name := some "settings", inNamespace := some "default" }, []⟩
    let refusing : ObjectStore :=
      { list := fun q => .error (.unanswered q.text "refused")
        get := fun q => .error (.unanswered q.text "refused") }
    (∃ page, printObject
        (o.withStore (MemoryStore.ofObjects (strangers ++ builderStore.objects)).toObjectStore)
        (some account) = .ok page ∧
      printObject (o.withStore (MemoryStore.ofObjects builderStore.objects).toObjectStore)
        (some account) = .ok page) ∧
    printObject (o.withStore refusing) (some settings) =
      printObject (o.withStore MemoryStore.empty.toObjectStore) (some settings) := by
  intro o account settings refusing
  have hsame : SameVisibleIn "default" (strangers ++ builderStore.objects) builderStore.objects :=
    rfl
  have hbind : BindClusterRoles builderStore.objects := by
    unfold BindClusterRoles
    decide
  have hsorted : MemoryStore.ofObjects builderStore.objects = builderStore :=
    congrArg MemoryStore.mk (List.mergeSort_of_pairwise (by decide))
  have hprint := printObject_eq_of_sameVisibleIn o
  refine ⟨?_, hprint.2 refusing MemoryStore.empty.toObjectStore settings (.inl rfl)⟩
  rw [hprint.1 "default" _ _ hsame hbind account rfl, hsorted]
  exact ⟨_, rfl, rfl⟩

end ClusterView

import ClusterView.Proofs.Access.Granted
import ClusterView.Proofs.Store.Order

/-!
# Roles of other namespaces

The bindings of a namespace find roles of that namespace and cluster roles only, and so do the
bindings of the cluster that refer to cluster roles. A binding of the cluster that refers to a role
has no namespace to look in (`BindsRole`), and finds the first role of that name wherever it is.
Only such a binding can bring rules of another namespace to a service account
(`permits_iff_not_leaks`), and only with one do roles of other namespaces matter
(`policyRules_foreign`).
-/

namespace ClusterView

open Outcome Json

/-! ## Where rules come from -/

/-- Whether a store has a rule in a cluster role or in a role of a namespace. -/
def MemoryStore.Permits (s : MemoryStore) (ns : String) (rule : PolicyRule) : Prop :=
  (∃ object ∈ s.access "ClusterRole", ∃ role, object.as? ClusterRole = some role ∧
    rule ∈ role.rules.getD []) ∨
  ∃ object ∈ s.access "Role", object.metadata.inNamespace = some ns ∧
    ∃ role, object.as? Role = some role ∧ rule ∈ role.rules.getD []

/-- A binding of the cluster that names a service account and refers to a role. -/
structure BindsRole (s : MemoryStore) (x : ServiceAccount) (ns : String) (b : ClusterRoleBinding) :
    Prop where
  mem : ∃ object ∈ s.access "ClusterRoleBinding", object.as? ClusterRoleBinding = some b
  named : ∃ u ∈ b.subjects.getD [], x.NamedBy ns u
  kind : b.roleRef.kind = "Role"

/-- Some binding of the cluster finds a role of another namespace, with a rule that neither a
cluster role nor a role of the namespace has. -/
def Leaks (s : MemoryStore) (x : ServiceAccount) (ns : String) : Prop :=
  ∃ b, BindsRole s x ns b ∧ ∃ object role, s.firstRole "Role" none b.roleRef.name = some object ∧
    object.metadata.inNamespace ≠ some ns ∧ object.as? Role = some role ∧
      ∃ rule ∈ role.rules.getD [], ¬s.Permits ns rule

theorem MemoryStore.of_firstRole_eq_some {s : MemoryStore} {kind name : String}
    {scope : Option String} {object : Object} (h : s.firstRole kind scope name = some object) :
    object ∈ s.access kind ∧ (∀ ns ∈ scope, object.metadata.inNamespace = some ns) ∧
      object.metadata.name = some name := by
  have hsatisfies := List.find?_some h
  simp only [decide_eq_true_eq] at hsatisfies
  exact ⟨List.mem_of_find?_eq_some h, hsatisfies⟩

theorem FoundRules.exists_of_mem {α : Type} [Resource α] {rulesOf : α → Option (List PolicyRule)}
    {first : Option Object} {rules : List PolicyRule} (h : FoundRules α rulesOf first rules)
    {rule : PolicyRule} (hrule : rule ∈ rules) : ∃ object role, first = some object ∧
      object.as? α = some role ∧ rule ∈ (rulesOf role).getD [] := by
  cases h with
  | missing => cases hrule
  | found has => exact ⟨_, _, rfl, has, hrule⟩

section

variable {s : MemoryStore} {x : ServiceAccount} {ns : String} {r : RoleRef}
  {rules : List PolicyRule} {rule : PolicyRule}

/-- References that are resolved in a namespace find rules of that namespace or of the cluster. -/
theorem RoleRules.permits (h : RoleRules s (some ns) r rules) (hrule : rule ∈ rules) :
    s.Permits ns rule := by
  cases h with
  | role hkind h =>
    obtain ⟨object, role, hfirst, has, hmem⟩ := h.exists_of_mem hrule
    obtain ⟨haccess, hns, -⟩ := MemoryStore.of_firstRole_eq_some hfirst
    exact .inr ⟨object, haccess, hns ns rfl, role, has, hmem⟩
  | clusterRole hkind h =>
    obtain ⟨object, role, hfirst, has, hmem⟩ := h.exists_of_mem hrule
    exact .inl ⟨object, (MemoryStore.of_firstRole_eq_some hfirst).1, role, has, hmem⟩
  | other => cases hrule

/-- Without a scope only references to roles find rules of other namespaces. -/
theorem RoleRules.permits_or_foreign (h : RoleRules s none r rules) (hrule : rule ∈ rules) :
    s.Permits ns rule ∨ r.kind = "Role" ∧ ∃ object role,
      s.firstRole "Role" none r.name = some object ∧ object.metadata.inNamespace ≠ some ns ∧
        object.as? Role = some role ∧ rule ∈ role.rules.getD [] := by
  cases h with
  | role hkind h =>
    obtain ⟨object, role, hfirst, has, hmem⟩ := h.exists_of_mem hrule
    by_cases hns : object.metadata.inNamespace = some ns
    · exact .inl (.inr ⟨object, (MemoryStore.of_firstRole_eq_some hfirst).1, hns, role, has, hmem⟩)
    · exact .inr ⟨hkind, object, role, hfirst, hns, has, hmem⟩
  | clusterRole hkind h =>
    obtain ⟨object, role, hfirst, has, hmem⟩ := h.exists_of_mem hrule
    exact .inl (.inl ⟨object, (MemoryStore.of_firstRole_eq_some hfirst).1, role, has, hmem⟩)
  | other => cases hrule

/-- What a binding to a role finds is among the rules of the bindings of the cluster. -/
theorem BindsRole.exists_roleRules {b : ClusterRoleBinding} (hb : BindsRole s x ns b)
    {everywhere : List (List PolicyRule)}
    (h : List.Forall₂ (GrantsEverywhere s x ns none) (s.access "ClusterRoleBinding") everywhere) :
    ∃ rules ∈ everywhere,
      FoundRules Role (·.rules) (s.firstRole "Role" none b.roleRef.name) rules := by
  obtain ⟨object, hobject, has⟩ := hb.mem
  have hfound : ∀ rules, GrantsEverywhere s x ns none object rules →
      FoundRules Role (·.rules) (s.firstRole "Role" none b.roleRef.name) rules := by
    rintro rules ⟨b', hb', hgrants⟩
    obtain rfl : b = b' := Option.some.inj (has.symm.trans hb')
    cases hgrants with
    | named _ hrules =>
      cases hrules with
      | role _ h => exact h
      | clusterRole hkind _ => simp [hb.kind] at hkind
      | other hrole _ => exact absurd hb.kind hrole
    | notNamed hnamed => exact absurd hb.named hnamed
  obtain ⟨rules, hrules, hgrants⟩ := exists_right_of_mem h hobject
  exact ⟨rules, hrules, hfound rules hgrants⟩

/-- The rules of a service account are all permitted unless a binding of the cluster brings one of
another namespace. -/
theorem permits_iff_not_leaks (hns : x.metadata.inNamespace = some ns)
    (h : x.policyRules s.toObjectStore = .ok rules) :
    (∀ rule ∈ rules, s.Permits ns rule) ↔ ¬Leaks s x ns := by
  obtain ⟨own, everywhere, hown, heverywhere, rfl⟩ := (policyRules_eq_ok_iff hns).1 h
  constructor
  · rintro hall ⟨b, hb, object, role, hfirst, -, has, rule, hrule, hnot⟩
    obtain ⟨rules, hrules, hfound⟩ := hb.exists_roleRules heverywhere
    rw [hfirst] at hfound
    cases hfound with
    | found has' =>
      obtain rfl := Option.some.inj (has.symm.trans has')
      exact hnot (hall rule (List.mem_append_right _ (List.mem_flatten_of_mem hrules hrule)))
  · intro hnot rule hrule
    rcases List.mem_append.1 hrule with hrule | hrule
    · obtain ⟨rules, hrules, hrule⟩ := List.mem_flatten.1 hrule
      obtain ⟨object, -, b, -, hgrants⟩ := exists_left_of_mem hown hrules
      cases hgrants with
      | named _ hrules => exact hrules.permits hrule
      | notNamed => cases hrule
    · obtain ⟨rules, hrules, hrule⟩ := List.mem_flatten.1 hrule
      obtain ⟨object, hobject, b, has, hgrants⟩ := exists_left_of_mem heverywhere hrules
      cases hgrants with
      | named hnamed hrules =>
        refine (hrules.permits_or_foreign hrule).elim id fun ⟨hkind, role, hrole⟩ => ?_
        obtain ⟨r, hfirst, hforeign, hr, hmem⟩ := hrole
        by_contra hnot'
        exact hnot ⟨b, ⟨⟨object, hobject, has⟩, hnamed, hkind⟩, role, r, hfirst, hforeign, hr, rule,
          hmem, hnot'⟩
      | notNamed => cases hrule

end

/-! ## Changes to roles of other namespaces -/

/-- Whether an object is a role outside of a namespace. -/
def Object.isForeignRole (ns : String) (x : Object) : Bool :=
  x.types = some ⟨accessVersion, "Role"⟩ && x.metadata.inNamespace ≠ some ns

/-- Objects that are the same but for roles outside of a namespace. -/
def SameButForeignRoles (ns : String) (objects objects' : List Object) : Prop :=
  (objects.filter fun x => !x.isForeignRole ns) = objects'.filter fun x => !x.isForeignRole ns

theorem SameButForeignRoles.ofObjects {ns : String} {objects objects' : List Object}
    (h : SameButForeignRoles ns objects objects') :
    SameButForeignRoles ns (MemoryStore.ofObjects objects).objects
      (MemoryStore.ofObjects objects').objects := by
  unfold SameButForeignRoles at h ⊢
  rw [MemoryStore.filter_ofObjects, MemoryStore.filter_ofObjects, h]

section

variable {s s' : MemoryStore} {x : ServiceAccount} {ns : String}

/-- What asks for no role of another namespace is not affected by them. -/
theorem list_eq_of_sameButForeignRoles (h : SameButForeignRoles ns s.objects s'.objects) {q : Query}
    (hq : q.kind ≠ "Role" ∨ q.inNamespace = some ns) : s.list q = s'.list q := by
  refine MemoryStore.list_eq_of_filter_eq h fun x hx => ?_
  obtain ⟨htypes, hns, -⟩ := Query.selects_iff.1 hx
  rcases hq with hkind | hns'
  · simp [Object.isForeignRole, htypes, hkind]
  · simp [Object.isForeignRole, hns ns hns']

theorem get?_eq_of_sameButForeignRoles (h : SameButForeignRoles ns s.objects s'.objects) {q : Query}
    (hq : q.kind ≠ "Role" ∨ q.inNamespace = some ns) : s.get? q = s'.get? q := by
  rw [MemoryStore.get?_eq_head?, MemoryStore.get?_eq_head?, list_eq_of_sameButForeignRoles h hq]

theorem access_eq_of_sameButForeignRoles (h : SameButForeignRoles ns s.objects s'.objects) :
    s.access "ClusterRoleBinding" = s'.access "ClusterRoleBinding" := by
  rw [← MemoryStore.list_clusterRoleBindings, ← MemoryStore.list_clusterRoleBindings]
  exact list_eq_of_sameButForeignRoles h (.inl (by decide))

theorem RoleRef.of_query? {r : RoleRef} {scope : Option String} {q : Query}
    (h : r.query? scope = some q) :
    q.kind ≠ "Role" ∨ (r.kind = "Role" ∧ q.inNamespace = scope) := by
  obtain ⟨hkind, rfl⟩ | ⟨-, rfl⟩ := query?_eq_some_iff.1 h
  · exact .inr ⟨hkind, rfl⟩
  · exact .inl (by simp)

/-- Without bindings of the cluster to roles, roles of other namespaces do not matter. -/
theorem policyRules_eq_of_sameButForeignRoles (hns : x.metadata.inNamespace = some ns)
    (h : SameButForeignRoles ns s.objects s'.objects) (hnone : ∀ b, ¬BindsRole s' x ns b) :
    x.policyRules s.toObjectStore = x.policyRules s'.toObjectStore := by
  have hlist : ∀ q : Query, (q.kind ≠ "Role" ∨ q.inNamespace = some ns) →
      s.toObjectStore.list q = s'.toObjectStore.list q :=
    fun q hq => congrArg Except.ok (list_eq_of_sameButForeignRoles h hq)
  have hget : ∀ q : Query, (q.kind ≠ "Role" ∨ q.inNamespace = some ns) →
      s.toObjectStore.get q = s'.toObjectStore.get q :=
    fun q hq => congrArg Except.ok (get?_eq_of_sameButForeignRoles h hq)
  have hown : x.ownRules s.toObjectStore = x.ownRules s'.toObjectStore := by
    unfold ServiceAccount.ownRules
    have hkind : (roleBindingsIn x.metadata.inNamespace).kind ≠ "Role" := by simp [roleBindingsIn]
    refine boundRules_congr (hlist _ (.inl hkind)) fun _ _ _ _ b _ _ q hq => hget q ?_
    exact (RoleRef.of_query? hq).imp id fun hrole => hrole.2.trans hns
  have heverywhere : x.everywhereRules s.toObjectStore = x.everywhereRules s'.toObjectStore := by
    unfold ServiceAccount.everywhereRules
    refine boundRules_congr (hlist _ (.inl (by decide))) ?_
    intro objects hobjects object hobject b has hnamed q hq
    refine hget q ((RoleRef.of_query? hq).imp id fun hrole => absurd ?_ (hnone b))
    refine ⟨⟨object, ?_, Object.convert_eq_ok_iff.1 has⟩, ?_, hrole.1⟩
    · rw [← MemoryStore.list_clusterRoleBindings, Except.ok.inj hobjects]
      exact hobject
    · simpa only [List.any_eq_true, ServiceAccount.isSubject_iff hns] using hnamed
  rw [ServiceAccount.policyRules_eq, ServiceAccount.policyRules_eq, hown, heverywhere]

end

/-! ## A role that is found first -/

/-- A role without a namespace that has a number of empty rules. -/
def decoyRole (name : String) (n : Nat) : Object where
  types := some ⟨accessVersion, "Role"⟩
  metadata := { name := some name }
  fields := [("rules", .array (List.replicate n (.object [])))]

theorem decoyRole_as? (name : String) (n : Nat) : (decoyRole name n).as? Role =
    some ⟨(decoyRole name n).metadata,
      some (List.replicate n ⟨none, none, none, none, []⟩)⟩ := by
  have hrules : (List.replicate n (.object [])).mapM (decode? : Json → Option PolicyRule) =
      some (List.replicate n ⟨none, none, none, none, []⟩) := by
    induction n with
    | zero => rfl
    | succ n ih =>
      rw [List.replicate_succ, List.mapM_cons, ih]
      rfl
  have hfield : optional? (decoyRole name n).fields "rules" =
      some (some (List.replicate n (⟨none, none, none, none, []⟩ : PolicyRule))) := by
    change ((List.replicate n (.object [])).mapM (decode? : Json → Option PolicyRule)).map some = _
    rw [hrules]
    rfl
  change (optional? (decoyRole name n).fields "rules" >>= fun rules =>
    some (⟨(decoyRole name n).metadata, rules⟩ : Role)) = _
  rw [hfield]
  rfl

/-- A role without a namespace is found before all roles of its name that are given after it. -/
theorem firstRole_decoyRole (name : String) (n : Nat) (objects : List Object) :
    (MemoryStore.ofObjects (decoyRole name n :: objects)).firstRole "Role" none name =
      some (decoyRole name n) := by
  let isNamed : Object → Bool := fun x =>
    x.types = some ⟨accessVersion, "Role"⟩ && x.metadata.name = some name
  have hfirst : ∀ s : MemoryStore,
      s.firstRole "Role" none name = (s.objects.filter isNamed).head? := by
    intro s
    unfold MemoryStore.firstRole MemoryStore.access
    rw [List.find?_filter, List.head?_filter]
    congr 1
    funext y
    simp [isNamed]
  have hle : ∀ y ∈ objects.filter isNamed, (decoyRole name n).le y = true := by
    intro y hy
    have hname : y.metadata.name = some name := by
      have hnamed := (List.mem_filter.1 hy).2
      simp only [isNamed, Bool.and_eq_true, decide_eq_true_eq] at hnamed
      exact hnamed.2
    have hdisplay : y.displayName = (decoyRole name n).displayName := by
      simp [Object.displayName, ObjectMeta.displayName, hname, decoyRole]
    rw [Object.le_iff]
    by_cases hns : y.metadata.inNamespace = none
    · exact .inl ⟨hns.symm, hdisplay ▸ String.le_refl _⟩
    · exact .inr ⟨Ne.symm hns, rfl⟩
  have hdecoy : isNamed (decoyRole name n) = true := by simp [isNamed, decoyRole]
  rw [hfirst, MemoryStore.filter_ofObjects, List.filter_cons_of_pos hdecoy]
  exact StableSort.head?_mergeSort_cons Object.le_trans Object.le_total hle

theorem PolicyRule.length_rows_of_table {rules : List PolicyRule} {t : Table Component}
    (h : PolicyRule.table rules = .ok t) : t.rows.length = rules.length := by
  have hrows := (Table.addAll_eq_ok_iff.1 (liftM_view_eq_ok_iff.1 h)).2
  simp [hrows, Table.empty]

section

variable {x : ServiceAccount} {ns : String}

/-- With a binding of the cluster to a role there is another table than any given one, by a role of
another namespace. -/
theorem BindsRole.exists_other_table (hns : x.metadata.inNamespace = some ns)
    {objects : List Object} {b : ClusterRoleBinding}
    (hb : BindsRole (.ofObjects objects) x ns b) (table : Table Component) :
    ∃ objects', SameButForeignRoles ns objects' objects ∧
      x.policyRulesTable (MemoryStore.ofObjects objects').toObjectStore ≠ .ok table := by
  let decoy := decoyRole b.roleRef.name (table.rows.length + 1)
  have hsame : SameButForeignRoles ns (decoy :: objects) objects := by
    simp [SameButForeignRoles, Object.isForeignRole, decoy, decoyRole]
  refine ⟨decoy :: objects, hsame, fun htable => ?_⟩
  obtain ⟨rules, hrules, htable⟩ := bind_eq_ok_iff.1 htable
  obtain ⟨own, everywhere, -, heverywhere, rfl⟩ := (policyRules_eq_ok_iff hns).1 hrules
  have hb' : BindsRole (.ofObjects (decoy :: objects)) x ns b := by
    refine ⟨?_, hb.named, hb.kind⟩
    rw [access_eq_of_sameButForeignRoles hsame.ofObjects]
    exact hb.mem
  obtain ⟨granted, hmem, hfound⟩ := hb'.exists_roleRules heverywhere
  have hlength : granted.length = table.rows.length + 1 := by
    rw [firstRole_decoyRole] at hfound
    cases hfound with
    | found has =>
      rw [decoyRole_as?] at has
      obtain rfl := Option.some.inj has
      simp
  have hle := (List.sublist_flatten_of_mem hmem).length_le
  have hrows := PolicyRule.length_rows_of_table htable
  rw [List.length_append] at hrows
  omega

/-- **Rules of other namespaces come through bindings of the cluster to roles only.** The rules of a
service account are those of cluster roles and of roles of its namespace exactly if no such binding
finds a rule elsewhere. Roles of other namespaces never change the table exactly if there is no such
binding. -/
theorem policyRules_foreign (hns : x.metadata.inNamespace = some ns) (objects : List Object) :
    let s := MemoryStore.ofObjects objects
    (∀ rules, x.policyRules s.toObjectStore = .ok rules →
      ((∀ rule ∈ rules, s.Permits ns rule) ↔ ¬Leaks s x ns)) ∧
    (∀ table, x.policyRulesTable s.toObjectStore = .ok table →
      ((∀ objects', SameButForeignRoles ns objects' objects →
        x.policyRulesTable (MemoryStore.ofObjects objects').toObjectStore = .ok table) ↔
          ∀ b, ¬BindsRole s x ns b)) ∧
    ((∀ b, ¬BindsRole s x ns b) → ∀ objects', SameButForeignRoles ns objects' objects →
      x.policyRulesTable (MemoryStore.ofObjects objects').toObjectStore =
        x.policyRulesTable s.toObjectStore) := by
  intro s
  have hunchanged : (∀ b, ¬BindsRole s x ns b) → ∀ objects',
      SameButForeignRoles ns objects' objects →
        x.policyRulesTable (MemoryStore.ofObjects objects').toObjectStore =
          x.policyRulesTable s.toObjectStore := by
    intro hnone objects' hsame
    unfold ServiceAccount.policyRulesTable
    rw [policyRules_eq_of_sameButForeignRoles hns hsame.ofObjects hnone]
  refine ⟨fun rules => permits_iff_not_leaks hns, fun table htable => ⟨?_, ?_⟩, hunchanged⟩
  · intro hall b hb
    obtain ⟨objects', hsame, hother⟩ := hb.exists_other_table hns table
    exact hother (hall objects' hsame)
  · intro hnone objects' hsame
    rw [hunchanged hnone objects' hsame, htable]

end

/-- A role of another namespace. -/
def strangeRole : Object :=
  accessObject "Role" "pod-reader" (some "strange") [("rules", .array [ruleJson "get" "pods"])]

/-- A binding of the cluster that refers to a role. -/
def strangeBinding : Object :=
  accessObject "ClusterRoleBinding" "pod-readers" none
    [("roleRef", roleRefJson "Role" "pod-reader"),
      ("subjects", .array [.object [("kind", .string "ServiceAccount"),
        ("name", .string "builder"), ("namespace", .string "default")]])]

/-- Without such a binding the role of another namespace does not matter. -/
theorem policyRulesTable_strangeRole :
    builder.policyRulesTable
        (MemoryStore.ofObjects (strangeRole :: builderStore.objects)).toObjectStore =
      builder.policyRulesTable (MemoryStore.ofObjects builderStore.objects).toObjectStore := by
  have hkind : ∀ object ∈ builderStore.objects, ∀ b,
      object.as? ClusterRoleBinding = some b → b.roleRef.kind ≠ "Role" := by decide
  have hnone : ∀ b, ¬BindsRole (.ofObjects builderStore.objects) builder "default" b := by
    rintro b ⟨⟨object, hobject, has⟩, -, hrole⟩
    have hmem := List.mem_mergeSort.1 (List.mem_filter.1 hobject).1
    exact hkind object hmem b has hrole
  exact (policyRules_foreign (x := builder) rfl builderStore.objects).2.2 hnone _ rfl

/-- With it the account gets a rule that no cluster role and no role of its namespace has. -/
theorem policyRules_strangeBinding :
    let s := MemoryStore.ofObjects [strangeBinding, strangeRole]
    let rule : PolicyRule := ⟨some [""], none, none, some ["pods"], ["get"]⟩
    builder.policyRules s.toObjectStore = .ok [rule] ∧ ¬s.Permits "default" rule := by
  intro s rule
  have hs : s = ⟨[strangeBinding, strangeRole]⟩ :=
    congrArg MemoryStore.mk (List.mergeSort_of_pairwise (by decide))
  rw [hs]
  refine ⟨rfl, ?_⟩
  rintro (⟨object, hobject, -⟩ | ⟨object, hobject, hns, -⟩)
  · simp [MemoryStore.access, strangeBinding, strangeRole, accessObject] at hobject
  · obtain rfl : object = strangeRole := by
      simpa [MemoryStore.access, strangeBinding, strangeRole, accessObject] using hobject
    simp [strangeRole, accessObject] at hns

end ClusterView

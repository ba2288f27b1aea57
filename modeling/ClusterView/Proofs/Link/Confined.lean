import ClusterView.Proofs.Page.ServiceAccount
import ClusterView.Proofs.Print.Links
import ClusterView.Proofs.Print.Printable
import ClusterView.Proofs.Secret.Concealed

/-!
# Links stay in the namespace

Every link of a page is made for something in the namespace of its object (`Link.LeadsInto`): for
an owner, for a pod or a token that a query for the namespace found, or for a secret by its name. A
path that is made so is in the namespace or leads to what lives in none
(`Link.LeadsInto.isConfined`), and it ends with what the link shows: `links_confined`.
-/

namespace ClusterView

open Outcome

/-! ## Links into a namespace -/

/-- A generator made a link for something in a namespace, and the link shows its name. -/
def Link.LeadsInto (g : LinkGenerator) (ns : Option String) (l : Link) : Prop :=
  ∃ t : LinkTarget, g.link t = .ok l ∧ t.inNamespace = ns ∧ t.text = t.name

section Origins

variable {o : PrintOptions}

theorem forOwner_leadsInto (object : Reference) {ns : Option String}
    (hns : object.inNamespace = ns) (owner : OwnerReference) :
    Yields (Link.LeadsInto o.link ns) (o.link.forOwner object owner) :=
  fun _ h => ⟨_, h, hns, rfl⟩

theorem nameLink_leadsInto {α : Type} [Resource α] {r : α} {ns : Option String}
    (hns : (Resource.metadata r).inNamespace = ns) :
    Yields (Link.LeadsInto o.link ns) (nameLink r o) :=
  fun _ h => ⟨_, mapError_eq_ok_iff.1 h, hns, rfl⟩

theorem secretLink_leadsInto {inNamespace ns : Option String} (hns : inNamespace = ns)
    (name : String) :
    Yields (Component.AllLinks (Link.LeadsInto o.link ns)) (secretLink o inNamespace name) := by
  refine .bind fun l hl => .ok (Component.allLinks_link.2 ?_)
  exact ⟨_, mapError_eq_ok_iff.1 hl, hns, rfl⟩

end Origins

/-! ## Lists of a namespace -/

/-- What a query for a namespace finds is in the namespace. -/
theorem inNamespace_of_mem_list {α : Type} [Resource α] [LawfulResource α] {s : MemoryStore}
    {q : Query} {ns : String} (hns : q.inNamespace = some ns) {x : Object} (hx : x ∈ s.list q)
    {r : α} (hr : x.convert α = .ok r) : (Resource.metadata r).inNamespace = some ns := by
  have hselects : q.selects x = true := (List.mem_filter.1 hx).2
  rw [Object.metadata_of_convert hr]
  exact (Query.selects_iff_asks.1 hselects).inNamespace ns hns

/-- The pods of a page are those of its namespace. -/
theorem podsTable_allLinks {s : MemoryStore} {o : PrintOptions} (hstore : o.store = s.toObjectStore)
    (object : Reference) {ns : String} (hns : object.inNamespace = some ns)
    (labels : Option (StringMap String)) :
    Yields (Table.AllLinks (Link.LeadsInto o.link (some ns)))
      (podsTable object labels o) := by
  refine .bind fun pods hpods => ListView.print_allLinks (by simp [podsView]) fun pod hpod => ?_
  rw [liftM_store_eq_ok_iff, hstore] at hpods
  obtain ⟨x, hx, hconvert⟩ := exists_left_of_mem (mapM_eq_ok_iff.1 hpods) hpod
  exact nameLink_leadsInto (inNamespace_of_mem_list hns hx hconvert)

/-! ## Objects -/

section Objects

variable {s : MemoryStore} {o : PrintOptions} {ns : String}

theorem Deployment.configurationSections_allLinks {P : Link → Prop} (d : Deployment) :
    ∀ part ∈ d.configurationSections, part.content.AllLinks P := by
  simp only [configurationSections, List.forall_mem_append, List.forall_mem_map,
    List.forall_mem_cons]
  refine ⟨⟨⟨⟨by simp, ?_⟩, by simp⟩, by simp⟩, by simp⟩
  split <;> simp

theorem Deployment.page_allLinks (hstore : o.store = s.toObjectStore) {d : Deployment}
    (hns : d.metadata.inNamespace = some ns) :
    (d.page o).AllLinks (Link.LeadsInto o.link (some ns)) where
  config := by
    rintro _ ⟨⟩
    exact d.configurationSections_allLinks
  status := by
    rintro _ ⟨⟩
    simp [statusSummary]
  items := by
    have hpods := podsTable_allLinks (o := o.withoutLabels) hstore (.ofResource d) hns
      (d.spec.bind (·.template.labels))
    exact List.forall_mem_cons.2 ⟨Page.table_allLinks hpods,
      List.forall_mem_singleton.2 (Page.table_allLinks d.conditionsTable_allLinks)⟩

theorem Job.page_allLinks (hstore : o.store = s.toObjectStore) {j : Job}
    (hns : j.metadata.inNamespace = some ns) :
    (j.page o).AllLinks (Link.LeadsInto o.link (some ns)) where
  config := by
    rintro _ ⟨⟩
    simp [configuration]
  status := by
    rintro _ ⟨⟩
    simp only [statusSummary, Summary.allLinks_ofSections, List.forall_mem_append,
      List.forall_mem_map]
    simp
  items := by
    have hpods := podsTable_allLinks hstore (.ofResource j) hns (j.spec.bind (·.template.labels))
    exact List.forall_mem_cons.2 ⟨Page.table_allLinks hpods,
      List.forall_mem_singleton.2 (Page.table_allLinks (conditionsTable_allLinks j.conditions))⟩

theorem ConfigMap.page_allLinks {P : Link → Prop} (c : ConfigMap) : c.page.AllLinks P where
  config := by
    rintro _ ⟨⟩
    simp [configuration]
  status := by
    rintro _ ⟨⟩
  items := List.forall_mem_singleton.2 (Page.table_allLinks c.dataTable_allLinks)

theorem Secret.page_allLinks {P : Link → Prop} (c : Secret) : c.page.AllLinks P where
  config := by
    rintro _ ⟨⟩
    simp [configuration]
  status := by
    rintro _ ⟨⟩
  items := List.forall_mem_singleton.2 (Page.table_allLinks c.dataTable_allLinks)

theorem ReplicationController.configuration_allLinks {r : ReplicationController}
    (hns : r.metadata.inNamespace = some ns) :
    Yields (Summary.AllLinks (Link.LeadsInto o.link (some ns)))
      (r.configuration o) := by
  simp only [configuration]
  split
  next owner _ =>
    refine .bind fun l hl => .ok ?_
    have hl := forOwner_leadsInto (.ofResource r) hns owner l (mapError_eq_ok_iff.1 hl)
    simp only [Summary.allLinks_ofSections, List.forall_mem_append, List.forall_mem_map]
    exact ⟨⟨List.forall_mem_singleton.2 (Component.allLinks_link.2 hl), by simp⟩, by simp⟩
  · refine .ok ?_
    simp only [Summary.allLinks_ofSections, List.forall_mem_append, List.forall_mem_map]
    simp

theorem ReplicationController.pageWith_allLinks (hstore : o.store = s.toObjectStore)
    {r : ReplicationController} (hns : r.metadata.inNamespace = some ns)
    {configuration : Summary Component}
    (hconfiguration : configuration.AllLinks (Link.LeadsInto o.link (some ns))) :
    (r.pageWith o configuration).AllLinks (Link.LeadsInto o.link (some ns)) where
  config := by
    rintro _ ⟨⟩
    exact hconfiguration
  status := by
    rintro _ ⟨⟩
  items := by
    have hpods := podsTable_allLinks hstore (.ofResource r) hns r.selector
    refine List.forall_mem_cons.2
      ⟨fun c hc => ?_, List.forall_mem_singleton.2 (Page.table_allLinks hpods)⟩
    obtain ⟨q, -, rfl⟩ := map_eq_ok_iff.1 hc
    exact Component.allLinks_quadrant q

/-- The secrets that hold a token of a service account are those of its namespace. -/
theorem ServiceAccount.tokenLinks_allLinks (hstore : o.store = s.toObjectStore)
    {a : ServiceAccount} (hns : a.metadata.inNamespace = some ns) :
    Yields (fun links => ∀ c ∈ links, c.AllLinks (Link.LeadsInto o.link (some ns)))
      (a.tokenLinks o) := by
  refine .bind fun objects hobjects => .bind fun links hlinks => .ok ?_
  rw [liftM_store_eq_ok_iff, hstore] at hobjects
  obtain rfl := Except.ok.inj hobjects
  simp only [List.forall_mem_flatten]
  refine Yields.mapM (S := fun links => ∀ c ∈ links, c.AllLinks (Link.LeadsInto o.link (some ns)))
    (fun x hx => .bind fun secret hsecret => ?_) links hlinks
  have hsecretns := inNamespace_of_mem_list hns hx (liftM_store_eq_ok_iff.1 hsecret)
  split
  · refine .bind fun c hc => .ok (List.forall_mem_singleton.2 ?_)
    exact secretLink_leadsInto hsecretns _ c hc
  · exact .ok (by simp)

theorem ServiceAccount.linkSection_allLinks {P : Link → Prop} (header : String)
    {links : List Component} (h : ∀ c ∈ links, c.AllLinks P) :
    ∀ part ∈ linkSection header links, part.content.AllLinks P := by
  unfold linkSection
  split
  · simp
  · exact List.forall_mem_singleton.2 (Component.allLinks_list.2 h)

theorem ServiceAccount.configuration_allLinks (hstore : o.store = s.toObjectStore)
    {a : ServiceAccount} (hns : a.metadata.inNamespace = some ns) :
    Yields (Summary.AllLinks (Link.LeadsInto o.link (some ns)))
      (a.configuration o) := by
  unfold configuration
  refine .bind fun pull hpull => .bind fun mountable hmountable => .bind fun tokens htokens =>
    .ok ?_
  have hpull := Yields.mapM (fun n _ => secretLink_leadsInto hns n.name) pull hpull
  have hmountable := Yields.mapM (fun n _ => secretLink_leadsInto hns n) mountable hmountable
  have htokens := tokenLinks_allLinks hstore hns tokens htokens
  simp only [Summary.allLinks_ofSections, List.forall_mem_append]
  exact ⟨⟨linkSection_allLinks _ hpull, linkSection_allLinks _ hmountable⟩,
    linkSection_allLinks _ htokens⟩

theorem ServiceAccount.page_allLinks {P : Link → Prop} (a : ServiceAccount)
    {configuration : Summary Component} (hconfiguration : configuration.AllLinks P) :
    (({} : ServiceAccountPage).page a o configuration).AllLinks P where
  config := by
    rintro _ ⟨⟩
    exact hconfiguration
  status := by
    rintro _ ⟨⟩
  items := by
    have hrules : Yields (Table.AllLinks P) (a.policyRulesTable o.store) :=
      .bind fun rules _ => PolicyRule.table_allLinks rules
    exact List.forall_mem_singleton.2 (Page.table_allLinks hrules)

/-- The links of a page lead into the namespace of its object. -/
theorem PrintableKind.print_allLinks (hstore : o.store = s.toObjectStore)
    (hadded : ∀ y, Yields (PluginContent.AllLinks (Link.LeadsInto o.link (some ns)))
      (o.plugins.content y)) {x : Object} (hns : x.metadata.inNamespace = some ns)
    (k : PrintableKind) :
    Yields (Component.AllLinks (Link.LeadsInto o.link (some ns))) (k.print o x) := by
  have hread {α : Type} [Resource α] [LawfulResource α] {r : α}
      (hr : liftM (x.convert α) = (.ok r : Except PrintError α)) :
      (Resource.metadata r).inNamespace = some ns := by
    rw [Object.metadata_of_convert (liftM_store_eq_ok_iff.1 hr), hns]
  cases k with
  | deployment =>
    exact .bind fun d hd => Page.print_allLinks (p := d.page o)
      (Deployment.page_allLinks hstore (hread hd)) (forOwner_leadsInto _ (hread hd)) (hadded _)
  | job =>
    exact .bind fun j hj => Page.print_allLinks (p := j.page o)
      (Job.page_allLinks hstore (hread hj)) (forOwner_leadsInto _ (hread hj)) (hadded _)
  | configMap =>
    exact .bind fun c hc => Page.print_allLinks (p := c.page) c.page_allLinks
      (forOwner_leadsInto _ (hread hc)) (hadded _)
  | secret =>
    exact .bind fun c hc => Page.print_allLinks (p := c.page) c.page_allLinks
      (forOwner_leadsInto _ (hread hc)) (hadded _)
  | replicationController =>
    refine .bind fun r hr => ?_
    rw [ReplicationController.print_eq]
    refine .bind fun configuration hconfiguration => ?_
    have hlinks :=
      ReplicationController.configuration_allLinks (hread hr) configuration hconfiguration
    exact Page.print_allLinks (p := r.pageWith o configuration)
      (ReplicationController.pageWith_allLinks hstore (hread hr) hlinks)
      (forOwner_leadsInto _ (hread hr)) (hadded _)
  | serviceAccount =>
    refine .bind fun a ha c hc => ?_
    obtain ⟨configuration, hconfiguration, hprint⟩ := ServiceAccount.print_eq_ok_iff.1 hc
    have hlinks :=
      ServiceAccount.configuration_allLinks hstore (hread ha) configuration hconfiguration
    exact Page.print_allLinks (a.page_allLinks hlinks) (forOwner_leadsInto _ (hread ha)) (hadded _)
      c hprint

end Objects

/-! ## Paths -/

/-- A link does not leave a namespace: its path is in the namespace or in the part of the overview
for what lives in none, and ends with the text of the link as the name. -/
structure Link.IsConfined (base ns : String) (l : Link) : Prop where
  starts : (∃ rest, l.path = Text.trimEnd '/' base ++ "/namespace/" ++ ns ++ "/" ++ rest) ∨
    ∃ rest, l.path = Text.trimEnd '/' base ++ "/cluster-overview/" ++ rest
  ends : ∃ start, l.path = start ++ "/" ++ l.text
  text_ne : l.text ≠ ""

theorem Link.LeadsInto.isConfined {base ns : String} {l : Link}
    (h : l.LeadsInto (pathLinks base) (some ns)) : l.IsConfined base ns := by
  obtain ⟨⟨_, apiVersion, kind, name, text⟩, hl, rfl, htext⟩ := h
  obtain rfl : text = name := htext
  simp only [pathLinks] at hl
  split at hl
  · cases hl
  next hname =>
    split at hl
    · cases hl
    next viewSection _ =>
      split at hl
      · obtain rfl := Except.ok.inj hl
        exact ⟨.inr ⟨viewSection ++ "/" ++ text, by simp [clusterPath, String.append_assoc]⟩,
          ⟨_, rfl⟩, hname⟩
      · split at hl
        · cases hl
        · cases hl
        next hns =>
          obtain rfl := Except.ok.inj hl
          obtain rfl := Option.some.inj hns
          exact ⟨.inl ⟨viewSection ++ "/" ++ text, by simp [namespacedPath, String.append_assoc]⟩,
            ⟨_, rfl⟩, hname⟩

/-- **Links do not leave the namespace.** Where links are paths and plugins add nothing, every link
on the page of an object, at any depth, is a path in the namespace of the object or one in no
namespace. -/
theorem links_confined {s : MemoryStore} {registry : PluginRegistry} {o : PrintOptions}
    {base ns : String} (hstore : o.store = s.toObjectStore) (hlink : o.link = pathLinks base)
    (hplugins : o.plugins = registry.toManager)
    (hsilent : ∀ p ∈ registry.plugins.values, p.service = .silent) {x : Object}
    (hns : x.metadata.inNamespace = some ns) {c : Component}
    (hprint : printObject o (some x) = .ok c) : ∀ l, c.Shows l → l.IsConfined base ns := by
  have hadded : ∀ y, Yields (PluginContent.AllLinks (Link.LeadsInto o.link (some ns)))
      (o.plugins.content y) := by
    intro y added hy
    rw [hplugins] at hy
    obtain rfl := Except.ok.inj ((PluginRegistry.content_of_silent hsilent y).symm.trans hy)
    exact ⟨by simp, by simp, by simp⟩
  simp only [printObject, orMissing, ok_bind, bind_eq_ok_iff] at hprint
  obtain ⟨_, -, k, -, hk⟩ := hprint
  intro l hl
  have hleads := PrintableKind.print_allLinks hstore hadded hns k c hk l hl
  rw [hlink] at hleads
  exact hleads.isConfined

/-- A service account that has a secret for pulling images and is controlled by a node. -/
def pullingAccount : Object where
  types := some ⟨"v1", "ServiceAccount"⟩
  metadata :=
    { name := some "builder", inNamespace := some "default"
      ownerReferences := some [⟨"v1", "Node", "worker", "node-1", some true, none⟩] }
  fields := [("imagePullSecrets", .array [.object [("name", .string "registry")]])]

/-- The secret is linked in the namespace, and the node in none. -/
theorem links_pullingAccount :
    let o : PrintOptions := ⟨MemoryStore.empty.toObjectStore, pathLinks "/overview/",
      PluginRegistry.empty.toManager, true, true⟩
    let secret : Link :=
      ⟨"registry", "/overview/namespace/default/config-and-storage/secrets/registry"⟩
    let node : Link := ⟨"worker", "/overview/cluster-overview/nodes/worker"⟩
    ∃ c, printObject o (some pullingAccount) = .ok c ∧ c.Shows secret ∧ c.Shows node ∧
      ∀ l, c.Shows l → l.IsConfined "/overview/" "default" := by
  intro o secret node
  let configuration : Summary Component :=
    .ofSections "Configuration" [⟨"Image Pull Secrets", .list (.titled "" [.link secret])⟩]
  let metadata : Summary Component :=
    .ofSections "Metadata" [⟨"Age", .timestamp 0⟩, ⟨"Controlled By", .link node⟩]
  let rules : Table Component := .empty "Policy Rules" "There are no policy rules!"
    (Table.columnsNamed ["Resources", "Non-Resource URLs", "Resource Names", "Verbs"])
  let page : Layout Component := ⟨"Summary", [Page.sectionOf .half (.summary configuration),
    Page.sectionOf .half (.summary metadata), Page.sectionOf .full (.table rules)]⟩
  have hprint : printObject o (some pullingAccount) = .ok (.layout page) := rfl
  have hsilent : ∀ p ∈ PluginRegistry.empty.plugins.values, p.service = .silent :=
    fun _ hp => absurd hp List.not_mem_nil
  refine ⟨_, hprint, ?_, ?_, links_confined rfl rfl rfl hsilent rfl hprint⟩
  · exact .layout (.head _) (.head _) (.summary (.head _) (.list (.head _) .link))
  · exact .layout (.tail _ (.head _)) (.head _) (.summary (.tail _ (.head _)) .link)

end ClusterView

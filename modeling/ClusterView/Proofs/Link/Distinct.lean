import ClusterView.Proofs.Link.Path

/-!
# Links tell objects apart

A path ends with a name behind a section, and the section of an object that lives in a namespace
follows the namespace. Names and namespaces have no slash, so all three can be read off a path,
whatever words they are (`namespacedPath_inj`, `clusterPath_inj`), and no two groups and kinds have
the same section (`viewSection?_inj`). So two objects are linked by the same path exactly if the
overview takes them for one (`path_eq_iff_sameObject`): it does not tell the versions of a group
apart, nor the namespaces that are given for what lives in none.
-/

namespace ClusterView

/-! ## Paths -/

section Paths

variable {base ns ns' viewSection viewSection' name name' : String}

theorem clusterPath_inj (hname : '/' ∉ name.toList) (hname' : '/' ∉ name'.toList) :
    clusterPath base viewSection name = clusterPath base viewSection' name' ↔
      viewSection = viewSection' ∧ name = name' := by
  rw [clusterPath, clusterPath, Text.append_slash_inj_last hname hname', String.append_right_inj]

theorem namespacedPath_inj (hns : '/' ∉ ns.toList) (hns' : '/' ∉ ns'.toList)
    (hname : '/' ∉ name.toList) (hname' : '/' ∉ name'.toList) :
    namespacedPath base ns viewSection name = namespacedPath base ns' viewSection' name' ↔
      ns = ns' ∧ viewSection = viewSection' ∧ name = name' := by
  have hstart : base ++ "/namespace/" ++ ns ++ "/" ++ viewSection =
      base ++ "/namespace/" ++ ns' ++ "/" ++ viewSection' ↔
        ns = ns' ∧ viewSection = viewSection' := by
    rw [← Text.append_slash_inj_first hns hns']
    simp only [String.append_assoc, String.append_right_inj]
  rw [namespacedPath, namespacedPath, Text.append_slash_inj_last hname hname', hstart, and_assoc]

/-- What lives in a namespace and what lives in none are shown in different parts. -/
theorem namespacedPath_ne_clusterPath :
    namespacedPath base ns viewSection name ≠ clusterPath base viewSection' name' := by
  intro h
  simp only [namespacedPath, clusterPath, String.append_assoc, String.append_right_inj] at h
  -- The parts differ in the letter behind their slash.
  have hletter := congrArg (fun path => path.toList[1]?) h
  simp at hletter

end Paths

/-! ## Sections -/

theorem mem_viewSections {apiVersion kind viewSection : String}
    (h : viewSection? apiVersion kind = some viewSection) :
    (((splitApiVersion apiVersion).1, kind), viewSection) ∈ viewSections := by
  obtain ⟨earlier, later, heq, -⟩ := List.lookup_eq_some_iff.1 h
  rw [heq]
  exact List.mem_append_right _ List.mem_cons_self

/-- No two groups and kinds are shown in the same section. -/
theorem viewSection?_inj {apiVersion apiVersion' kind kind' viewSection : String}
    (h : viewSection? apiVersion kind = some viewSection)
    (h' : viewSection? apiVersion' kind' = some viewSection) :
    (splitApiVersion apiVersion).1 = (splitApiVersion apiVersion').1 ∧ kind = kind' := by
  have hsections : ∀ e ∈ viewSections, ∀ f ∈ viewSections, e.2 = f.2 → e.1 = f.1 := by decide
  exact Prod.mk.inj (hsections _ (mem_viewSections h) _ (mem_viewSections h') rfl)

/-! ## Targets -/

namespace LinkTarget

variable {base : String} {t u : LinkTarget}

/-- The group of the object, empty for the core group. -/
def group (t : LinkTarget) : String := (splitApiVersion t.apiVersion).1

/-- Whether the object lives in no namespace. -/
def isClusterScoped (t : LinkTarget) : Bool := ClusterView.isClusterScoped t.apiVersion t.kind

/-- Whether neither the name nor the namespace has a slash. -/
structure IsPlain (t : LinkTarget) : Prop where
  name : '/' ∉ t.name.toList
  inNamespace : ∀ ns, t.inNamespace = some ns → '/' ∉ ns.toList

/-- Whether two targets are one object to the overview. -/
structure SameObject (t u : LinkTarget) : Prop where
  name : t.name = u.name
  kind : t.kind = u.kind
  group : t.group = u.group
  /-- The namespaces are the same, unless both live in none. -/
  inNamespace : t.isClusterScoped = true ∧ u.isClusterScoped = true ∨ t.inNamespace = u.inNamespace

/-- The path by which a target is linked. -/
inductive LeadsTo (base : String) (t : LinkTarget) : String → Prop
  | namespaced {ns viewSection : String}
      (hview : viewSection? t.apiVersion t.kind = some viewSection)
      (hscope : t.isClusterScoped = false) (hns : t.inNamespace = some ns) :
      LeadsTo base t (namespacedPath (Text.trimEnd '/' base) ns viewSection t.name)
  | cluster {viewSection : String} (hview : viewSection? t.apiVersion t.kind = some viewSection)
      (hscope : t.isClusterScoped = true) :
      LeadsTo base t (clusterPath (Text.trimEnd '/' base) viewSection t.name)

theorem leadsTo_of_link {l : Link} (h : (pathLinks base).link t = .ok l) :
    t.LeadsTo base l.path := by
  simp only [pathLinks] at h
  split at h
  · cases h
  · split at h
    · cases h
    next viewSection hview =>
      split at h
      next hscope =>
        obtain rfl := Except.ok.inj h
        exact .cluster hview hscope
      next hscope =>
        split at h
        · cases h
        · cases h
        next ns _ hns =>
          obtain rfl := Except.ok.inj h
          exact .namespaced hview (Bool.eq_false_iff.2 hscope) hns

/-- The scope of an object is that of its group and kind. -/
theorem SameObject.isClusterScoped_eq (h : t.SameObject u) :
    t.isClusterScoped = u.isClusterScoped := by
  have hgroup : (splitApiVersion t.apiVersion).1 = (splitApiVersion u.apiVersion).1 := h.group
  simp only [isClusterScoped, ClusterView.isClusterScoped, hgroup, h.kind]

theorem SameObject.viewSection?_eq (h : t.SameObject u) :
    viewSection? t.apiVersion t.kind = viewSection? u.apiVersion u.kind := by
  have hgroup : (splitApiVersion t.apiVersion).1 = (splitApiVersion u.apiVersion).1 := h.group
  simp only [viewSection?, hgroup, h.kind]

/-- One object is linked by one path. -/
theorem SameObject.path_eq (h : t.SameObject u) {path path' : String} (ht : t.LeadsTo base path)
    (hu : u.LeadsTo base path') : path = path' := by
  have hscopes := h.isClusterScoped_eq
  have hsections := h.viewSection?_eq
  cases ht with
  | namespaced hview hscope hns =>
    cases hu with
    | namespaced hview' hscope' hns' =>
      have hsame : t.inNamespace = u.inNamespace :=
        h.inNamespace.resolve_left fun hcluster => by simp [hscope] at hcluster
      obtain rfl := Option.some.inj (hview.symm.trans (hsections.trans hview'))
      obtain rfl := Option.some.inj (hns.symm.trans (hsame.trans hns'))
      rw [h.name]
    | cluster hview' hscope' => cases hscope.symm.trans (hscopes.trans hscope')
  | cluster hview hscope =>
    cases hu with
    | namespaced hview' hscope' hns' => cases hscope.symm.trans (hscopes.trans hscope')
    | cluster hview' hscope' =>
      obtain rfl := Option.some.inj (hview.symm.trans (hsections.trans hview'))
      rw [h.name]

/-- What is linked by one path is one object. -/
theorem LeadsTo.sameObject {path : String} (ht : t.LeadsTo base path) (hu : u.LeadsTo base path)
    (htplain : t.IsPlain) (huplain : u.IsPlain) : t.SameObject u := by
  generalize hpath : path = path' at hu
  cases ht with
  | namespaced hview hscope hns =>
    cases hu with
    | namespaced hview' hscope' hns' =>
      obtain ⟨rfl, rfl, hname⟩ := (namespacedPath_inj (htplain.inNamespace _ hns)
        (huplain.inNamespace _ hns') htplain.name huplain.name).1 hpath
      obtain ⟨hgroup, hkind⟩ := viewSection?_inj hview hview'
      exact ⟨hname, hkind, hgroup, .inr (hns.trans hns'.symm)⟩
    | cluster hview' hscope' => exact absurd hpath namespacedPath_ne_clusterPath
  | cluster hview hscope =>
    cases hu with
    | namespaced hview' hscope' hns' => exact absurd hpath.symm namespacedPath_ne_clusterPath
    | cluster hview' hscope' =>
      obtain ⟨rfl, hname⟩ := (clusterPath_inj htplain.name huplain.name).1 hpath
      obtain ⟨hgroup, hkind⟩ := viewSection?_inj hview hview'
      exact ⟨hname, hkind, hgroup, .inl ⟨hscope, hscope'⟩⟩

end LinkTarget

/-- **Links tell objects apart.** Of two objects that are linked, without slashes in their names and
namespaces, the paths are the same exactly if the objects have the same name, kind and group, and
the same namespace unless both live in none. -/
theorem path_eq_iff_sameObject {base : String} {t u : LinkTarget} {l m : Link}
    (hl : (pathLinks base).link t = .ok l) (hm : (pathLinks base).link u = .ok m)
    (ht : t.IsPlain) (hu : u.IsPlain) : l.path = m.path ↔ t.SameObject u := by
  have htpath := LinkTarget.leadsTo_of_link hl
  have hupath := LinkTarget.leadsTo_of_link hm
  constructor
  · intro h
    rw [← h] at hupath
    exact htpath.sameObject hupath ht hu
  · intro h
    exact h.path_eq htpath hupath

/-- The target for an object of a type that is named `pods`, in the namespace `workloads`. -/
def podsTarget (apiVersion kind : String) : LinkTarget :=
  ⟨some "workloads", apiVersion, kind, "pods", kind⟩

theorem podsTarget_isPlain (apiVersion kind : String) : (podsTarget apiVersion kind).IsPlain where
  name := by simp [podsTarget]
  inNamespace := by simp [podsTarget]

/-- Deployments of two versions are linked by one path, a node and a namespace by two. -/
theorem paths_of_pods :
    let links := pathLinks "/overview/"
    (∃ l m, links.link (podsTarget "apps/v1" "Deployment") = .ok l ∧
      links.link (podsTarget "apps/v1beta1" "Deployment") = .ok m ∧ l.path = m.path) ∧
    ∃ l m, links.link (podsTarget "v1" "Node") = .ok l ∧
      links.link (podsTarget "v1" "Namespace") = .ok m ∧ l.path ≠ m.path := by
  intro links
  have hl : links.link (podsTarget "apps/v1" "Deployment") =
      .ok ⟨"Deployment", "/overview/namespace/workloads/workloads/deployments/pods"⟩ := rfl
  have hm : links.link (podsTarget "apps/v1beta1" "Deployment") =
      .ok ⟨"Deployment", "/overview/namespace/workloads/workloads/deployments/pods"⟩ := rfl
  have hl' : links.link (podsTarget "v1" "Node") =
      .ok ⟨"Node", "/overview/cluster-overview/nodes/pods"⟩ := rfl
  have hm' : links.link (podsTarget "v1" "Namespace") =
      .ok ⟨"Namespace", "/overview/cluster-overview/namespaces/pods"⟩ := rfl
  have hplain := podsTarget_isPlain
  refine ⟨⟨_, _, hl, hm, ?_⟩, ⟨_, _, hl', hm', fun h => ?_⟩⟩
  · exact (path_eq_iff_sameObject hl hm (hplain _ _) (hplain _ _)).2
      ⟨rfl, rfl, by decide, .inr rfl⟩
  · have hsame := (path_eq_iff_sameObject hl' hm' (hplain _ _) (hplain _ _)).1 h
    exact absurd hsame.kind (by decide)

end ClusterView

import ClusterView.Proofs.Plugin.Merging
import ClusterView.Proofs.Print.Lists
import ClusterView.Proofs.Print.Tables
import ClusterView.Proofs.Store.Listing

/-!
# Objects that can be printed

The page of an object needs more than the object. Plugins have to answer, the controller has to be
linked, and what a store holds in the namespace of the object has to be readable: all events there,
and those pods that a table shows or a count looks at (`printable_iff`). Which pods are read before
their labels are looked at and which after makes the difference between the kinds.
-/

namespace ClusterView

open Outcome

/-! ## Links to owners -/

/-- Whether an owner of an object in a namespace has a path: its name is not empty, objects of its
type are shown, and they live in no namespace or there is one. -/
structure OwnerReference.HasPath (ns : Option String) (owner : OwnerReference) : Prop where
  name : owner.name ≠ ""
  viewSection : ∃ viewSection, viewSection? owner.apiVersion owner.kind = some viewSection
  inNamespace : isClusterScoped owner.apiVersion owner.kind = true ∨ ∃ n, ns = some n ∧ n ≠ ""

theorem OwnerReference.exists_forOwner_iff {base : String} {object : Reference}
    {owner : OwnerReference} :
    (∃ link, (pathLinks base).forOwner object owner = .ok link) ↔
      owner.HasPath object.inNamespace :=
  LinkGenerator.exists_link_iff.trans
    ⟨fun ⟨hname, hview, hns⟩ => ⟨hname, hview, hns⟩, fun ⟨hname, hview, hns⟩ => ⟨hname, hview, hns⟩⟩

/-! ## What a store holds in a namespace -/

/-- Whether an object is of a type and in a namespace, if one is given. -/
def Object.IsIn (t : TypeMeta) (ns : Option String) (x : Object) : Prop :=
  x.types = some t ∧ ∀ n ∈ ns, x.metadata.inNamespace = some n

/-- Whether an object carries all of some labels. -/
def Object.Carries (labels : Option (StringMap String)) (x : Object) : Prop :=
  ∀ key value, (labels.getD ∅).get? key = some value → x.metadata.labelMap.get? key = some value

namespace MemoryStore

variable (s : MemoryStore)

/-- Whether all objects of a kind in a namespace can be read. -/
def Readable (α : Type) [Resource α] (ns : Option String) : Prop :=
  ∀ y ∈ s.objects, y.IsIn (Resource.types α) ns → y.Converts α

/-- Whether all objects of a kind in a namespace that carry some labels can be read and linked. -/
def Listable (α : Type) [Resource α] (ns : Option String) (labels : Option (StringMap String)) :
    Prop :=
  ∀ y ∈ s.objects, y.IsIn (Resource.types α) ns → y.Carries labels →
    y.Converts α ∧ (Reference.ofType (Resource.types α) y).hasAddress = true

variable {s}

/-- What a query for a type in a namespace selects. -/
theorem mem_list_iff_isIn {t : TypeMeta} {ns : Option String} {y : Object} :
    y ∈ s.list ⟨t.apiVersion, t.kind, ns, none, none⟩ ↔ y ∈ s.objects ∧ y.IsIn t ns := by
  simp [list, Query.selects_iff, Object.IsIn]

/-- What a query for a type in a namespace selects that asks for labels. -/
theorem mem_list_iff_carries {t : TypeMeta} {ns : Option String}
    {labels : Option (StringMap String)} {y : Object} :
    y ∈ s.list ⟨t.apiVersion, t.kind, ns, none, some (labels.getD ∅)⟩ ↔
      y ∈ s.objects ∧ y.IsIn t ns ∧ y.Carries labels := by
  simp [list, Query.selects_iff, Object.IsIn, Object.Carries, labelsMatch_iff, and_assoc]

/-- The objects of a kind in a namespace are all read or none. -/
theorem exists_listAs_iff {α : Type} [Resource α] {ns : Option String} :
    (∃ rs, s.toObjectStore.listAs α ⟨Resource.apiVersion α, Resource.kind α, ns, none, none⟩ =
      .ok rs) ↔ s.Readable α ns := by
  refine exists_mapM_eq_ok_iff.trans ?_
  constructor
  · intro h y hy hin
    exact h y (mem_list_iff_isIn.2 ⟨hy, hin⟩)
  · intro h y hy
    obtain ⟨hmem, hin⟩ := (mem_list_iff_isIn (t := Resource.types α)).1 hy
    exact h y hmem hin

end MemoryStore

/-! ## Parts of a page -/

instance : LawfulResource Pod := ⟨fun _ _ => .bind fun _ => .bind fun _ => .some rfl⟩

section Link

variable {o : PrintOptions} {base : String} (hlink : o.link = pathLinks base)
include hlink

/-- What shows the controller of an object needs a path to it. -/
theorem exists_controlledBy_iff {α : Type} (object : Reference) {owners : List OwnerReference}
    {shownWith : List (Summary.Section Component) → α} :
    (∃ shown, (match ObjectMeta.controllerOf owners with
      | some owner => do
        let link ← o.link.forOwner object owner
        let controller ← pure [⟨"Controlled By", .link link⟩]
        pure (shownWith controller)
      | none => do
        let controller ← pure []
        pure (shownWith controller) : Except PrintError α) = .ok shown) ↔
      ∀ owner ∈ ObjectMeta.controllerOf owners, owner.HasPath object.inNamespace := by
  rw [hlink]
  cases ObjectMeta.controllerOf owners with
  | none => exact ⟨fun _ _ h => (nomatch h), fun _ => ⟨_, rfl⟩⟩
  | some owner =>
    simp only [Option.mem_some_iff, forall_eq', bind_eq_ok_iff]
    constructor
    · rintro ⟨_, link, h, -⟩
      exact OwnerReference.exists_forOwner_iff.1 ⟨link, mapError_eq_ok_iff.1 h⟩
    · intro h
      obtain ⟨link, hlink⟩ := OwnerReference.exists_forOwner_iff.2 h
      exact ⟨_, link, mapError_eq_ok_iff.2 hlink, _, rfl, rfl⟩

theorem exists_metadataSummary_iff {object : Reference} {m : ObjectMeta} :
    (∃ summary, metadataSummary object m o = .ok summary) ↔
      ∀ owner ∈ ObjectMeta.controllerOf m.owners, owner.HasPath object.inNamespace :=
  exists_controlledBy_iff hlink object

theorem ReplicationController.exists_configuration_iff {r : ReplicationController} :
    (∃ summary, r.configuration o = .ok summary) ↔
      ∀ owner ∈ ObjectMeta.controllerOf r.metadata.owners,
        owner.HasPath r.metadata.inNamespace :=
  exists_controlledBy_iff hlink (.ofResource r)

end Link

section Store

variable {s : MemoryStore} {o : PrintOptions} (hstore : o.store = s.toObjectStore)
include hstore

theorem exists_eventsTable_iff {object : Reference} :
    (∃ table, eventsTable object o = .ok table) ↔ s.Readable Event object.inNamespace := by
  simp only [eventsTable_eq, exists_map_eq_ok_iff, liftM_store_eq_ok_iff, hstore]
  exact MemoryStore.exists_listAs_iff

/-- To be counted, pods are read before they are selected. -/
theorem exists_listPods_iff (ns : Option String) (selector : LabelSelector)
    (uid : Option String) :
    (∃ pods, listPods ns selector uid o.store = .ok pods) ↔ s.Readable Pod ns := by
  simp only [listPods, exists_bind_eq_ok_iff, pure_eq_ok_iff, exists_eq', and_true,
    liftM_store_eq_ok_iff, hstore]
  exact MemoryStore.exists_listAs_iff

/-- To be shown, pods are selected before they are read, so that others do not matter. -/
theorem exists_podsTable_iff {base : String} (hlink : o.link = pathLinks base)
    {object : Reference} {labels : Option (StringMap String)} :
    (∃ table, podsTable object labels o = .ok table) ↔
      s.Listable Pod object.inNamespace labels := by
  let objects := s.list ⟨"v1", "Pod", object.inNamespace, none, some (labels.getD ∅)⟩
  have hprint : PrintableKind.printAs podsView o objects =
      (podsTable object labels o).map .table := by
    have hlist : o.store.listAs Pod ⟨"v1", "Pod", object.inNamespace, none,
        some (labels.getD ∅)⟩ = objects.mapM (Object.convert Pod) := by
      rw [hstore]
      rfl
    rw [podsTable, hlist, PrintableKind.printAs]
    cases objects.mapM (Object.convert Pod) with
    | error e => rfl
    | ok pods => cases podsView.print o pods <;> rfl
  have hanswers : (∃ c, PrintableKind.printAs podsView o objects = .ok c) ↔ _ :=
    (PrintableKind.printAs_answers podsView hlink ⟨⟨_, rfl⟩, rfl⟩).exists_ok_iff
  simp only [hprint, map_eq_ok_iff] at hanswers
  constructor
  · rintro ⟨table, htable⟩ y hy hin hcarries
    exact hanswers.1 ⟨_, table, htable, rfl⟩ y
      (MemoryStore.mem_list_iff_carries.2 ⟨hy, hin, hcarries⟩)
  · intro h
    obtain ⟨_, table, htable, -⟩ := hanswers.2 fun y hy => by
      obtain ⟨hmem, hin, hcarries⟩ :=
        (MemoryStore.mem_list_iff_carries (t := Resource.types Pod)).1 hy
      exact h y hmem hin hcarries
    exact ⟨table, htable⟩

end Store

/-! ## Pages -/

namespace Page

variable {p : Page} {o : PrintOptions}

theorem exists_eventSections_iff : (∃ events, p.eventSections o = .ok events) ↔
    (p.events = true → o.showEvents = true → ∃ table, eventsTable p.object o = .ok table) := by
  unfold eventSections
  split
  next hshown =>
    obtain ⟨hevents, hshow⟩ := Bool.and_eq_true_iff.1 hshown
    simp only [bind_eq_ok_iff, pure_eq_ok_iff, hevents, hshow, true_implies]
    constructor
    · rintro ⟨_, table, htable, -⟩
      exact ⟨table, htable⟩
    · rintro ⟨table, htable⟩
      exact ⟨_, table, htable, rfl⟩
  next hhidden =>
    refine ⟨fun _ hevents hshow => absurd ?_ hhidden, fun _ => ⟨[], rfl⟩⟩
    rw [hevents, hshow]
    rfl

/-- A page is printed exactly if all its parts can be made; its pod template always can. -/
theorem exists_print_iff : (∃ c, p.print o = .ok c) ↔
    (∃ added, o.plugins.content p.source = .ok added) ∧
    (∃ summary, metadataSummary p.object p.metadata o = .ok summary) ∧
    (∀ i ∈ p.items, ∃ c, i.content = .ok c) ∧
    (p.events = true → o.showEvents = true → ∃ table, eventsTable p.object o = .ok table) := by
  have hitems : (∃ items, makeItems p.items = .ok items) ↔
      ∀ i ∈ p.items, ∃ c, i.content = .ok c := by
    simp only [makeItems, exists_mapM_eq_ok_iff, exists_map_eq_ok_iff]
  rw [← hitems, ← exists_eventSections_iff]
  simp only [print, layout_eq, map_eq_ok_iff, bind_eq_ok_iff, liftM_plugin_eq_ok_iff]
  constructor
  · rintro ⟨_, _, ⟨added, hadded, summary, hsummary, items, hitems, _, -, events, hevents, -⟩, -⟩
    exact ⟨⟨added, hadded⟩, ⟨summary, hsummary⟩, ⟨items, hitems⟩, ⟨events, hevents⟩⟩
  · rintro ⟨⟨added, hadded⟩, ⟨summary, hsummary⟩, ⟨items, hitems⟩, ⟨events, hevents⟩⟩
    obtain ⟨template, htemplate⟩ := p.exists_templateItems
    exact ⟨_, _, ⟨added, hadded, summary, hsummary, items, hitems, template, htemplate, events,
      hevents, rfl⟩, rfl⟩

end Page

namespace PageItem

variable {α β : Type} {width width' : Width} {x : Except PrintError α} {y : Except PrintError β}
  {f : α → Component} {g : β → Component}

theorem forall_singleton_iff :
    (∀ i ∈ [(⟨width, x.map f⟩ : PageItem)], ∃ c, i.content = .ok c) ↔ ∃ a, x = .ok a := by
  rw [List.forall_mem_singleton, exists_map_eq_ok_iff]

theorem forall_pair_iff :
    (∀ i ∈ [(⟨width, x.map f⟩ : PageItem), ⟨width', y.map g⟩], ∃ c, i.content = .ok c) ↔
      (∃ a, x = .ok a) ∧ ∃ b, y = .ok b := by
  rw [List.forall_mem_cons, List.forall_mem_singleton, exists_map_eq_ok_iff, exists_map_eq_ok_iff]

end PageItem

/-- What the page of an object needs that is read as a resource. -/
structure Object.PageNeeds {α : Type} [Resource α] (x : Object) (plugins : PluginManager)
    (r : α) : Prop where
  /-- The object has the shape of its type. -/
  converts : x.convert α = .ok r
  /-- Plugins answer for the object as they get to see it. -/
  plugins : ∃ added, plugins.content (Resource.toObject r) = .ok added
  /-- The first owner that is marked as the controller has a path. -/
  controller : ∀ owner ∈ ObjectMeta.controllerOf x.metadata.owners,
    owner.HasPath x.metadata.inNamespace

/-- An object is printed once it is read as a resource. -/
theorem Object.exists_convert_bind_iff {α : Type} [Resource α] {x : Object}
    {print : α → Except PrintError Component} {needs : α → Prop}
    (hconverts : ∀ r, needs r → x.convert α = .ok r)
    (hprint : ∀ r, x.convert α = .ok r → ((∃ c, print r = .ok c) ↔ needs r)) :
    (∃ c, (liftM (x.convert α) >>= print : Except PrintError Component) = .ok c) ↔
      ∃ r, needs r := by
  simp only [exists_bind_eq_ok_iff, liftM_store_eq_ok_iff]
  constructor
  · rintro ⟨r, hr, h⟩
    exact ⟨r, (hprint r hr).1 h⟩
  · rintro ⟨r, h⟩
    exact ⟨r, hconverts r h, (hprint r (hconverts r h)).2 h⟩

/-- The page of a replication controller with its configuration. -/
def ReplicationController.pageWith (r : ReplicationController) (o : PrintOptions)
    (configuration : Summary Component) : Page :=
  { Page.ofResource r with
    config := some configuration
    items := [⟨.quarter, (r.statusQuadrant o.store).map .quadrant⟩,
      ⟨.full, (r.podsTable o).map .table⟩]
    podTemplate := r.template
    events := true }

theorem ReplicationController.page_eq (r : ReplicationController) (o : PrintOptions) :
    r.page o = (r.configuration o).map (r.pageWith o) := by
  unfold page
  cases r.configuration o <;> rfl

theorem ReplicationController.print_eq (r : ReplicationController) (o : PrintOptions) :
    ReplicationController.print o (some r) =
      r.configuration o >>= fun configuration => (r.pageWith o configuration).print o := by
  rw [print, orMissing, ok_bind, page_eq]
  cases r.configuration o <;> rfl

section Kinds

variable {α : Type} [Resource α] [LawfulResource α] {s : MemoryStore} {o : PrintOptions}
  (hstore : o.store = s.toObjectStore) {base : String} (hlink : o.link = pathLinks base)
  {x : Object}
include hstore hlink

/-- The page of a resource needs what any page needs, its items, and events if it shows them. -/
theorem Page.exists_print_iff_needs {r : α} (hr : x.convert α = .ok r) {p : Page}
    (hobject : p.object = .ofResource r) (hmetadata : p.metadata = Resource.metadata r)
    (hsource : p.source = Resource.toObject r) {needs : Prop}
    (hitems : (∀ i ∈ p.items, ∃ c, i.content = .ok c) ↔ needs) :
    (∃ c, p.print o = .ok c) ↔ x.PageNeeds o.plugins r ∧ needs ∧
      (p.events = true → o.showEvents = true → s.Readable Event x.metadata.inNamespace) := by
  have hread := Object.metadata_of_convert hr
  have hns : (Reference.ofResource r).inNamespace = x.metadata.inNamespace :=
    congrArg ObjectMeta.inNamespace hread
  rw [exists_print_iff, exists_metadataSummary_iff hlink, exists_eventsTable_iff hstore, hobject,
    hmetadata, hsource, hns, hread, hitems]
  constructor
  · rintro ⟨hplugins, hcontroller, hrest⟩
    exact ⟨⟨hr, hplugins, hcontroller⟩, hrest⟩
  · rintro ⟨hneeds, hrest⟩
    exact ⟨hneeds.plugins, hneeds.controller, hrest⟩

theorem exists_podsTable_iff_of_convert {r : α} (hr : x.convert α = .ok r)
    (labels : Option (StringMap String)) :
    (∃ table, podsTable (.ofResource r) labels o = .ok table) ↔
      s.Listable Pod x.metadata.inNamespace labels := by
  have hns : (Reference.ofResource r).inNamespace = x.metadata.inNamespace :=
    congrArg ObjectMeta.inNamespace (Object.metadata_of_convert hr)
  rw [exists_podsTable_iff hstore hlink, hns]

theorem Deployment.exists_print_iff {d : Deployment} (hd : x.convert Deployment = .ok d) :
    (∃ c, Deployment.print o (some d) = .ok c) ↔ x.PageNeeds o.plugins d ∧
      s.Listable Pod x.metadata.inNamespace (d.spec.bind (·.template.labels)) ∧
      (o.showEvents = true → s.Readable Event x.metadata.inNamespace) := by
  -- The pods are shown without their labels.
  have hpods : (∃ table, d.podsTable o = .ok table) ↔ _ :=
    exists_podsTable_iff_of_convert (o := o.withoutLabels) hstore hlink hd _
  have hpage := Page.exists_print_iff_needs hstore hlink hd (p := d.page o) rfl rfl rfl
    (PageItem.forall_pair_iff.trans (and_iff_left d.exists_conditionsTable))
  rw [hpods] at hpage
  exact hpage.trans (and_congr_right' (and_congr_right' (imp_iff_right rfl)))

theorem Job.exists_print_iff {j : Job} (hj : x.convert Job = .ok j) :
    (∃ c, Job.print o (some j) = .ok c) ↔ x.PageNeeds o.plugins j ∧
      s.Listable Pod x.metadata.inNamespace (j.spec.bind (·.template.labels)) ∧
      (o.showEvents = true → s.Readable Event x.metadata.inNamespace) := by
  have hpods : (∃ table, j.podsTable o = .ok table) ↔ _ :=
    exists_podsTable_iff_of_convert hstore hlink hj _
  have hpage := Page.exists_print_iff_needs hstore hlink hj (p := j.page o) rfl rfl rfl
    (PageItem.forall_pair_iff.trans (and_iff_left (exists_conditionsTable _)))
  rw [hpods] at hpage
  exact hpage.trans (and_congr_right' (and_congr_right' (imp_iff_right rfl)))

/-- The configuration links the controller as the metadata do. The pods are counted and shown, and
to be counted all of them are read. -/
theorem ReplicationController.exists_print_iff {r : ReplicationController}
    (hr : x.convert ReplicationController = .ok r) :
    (∃ c, ReplicationController.print o (some r) = .ok c) ↔ x.PageNeeds o.plugins r ∧
      (s.Readable Pod x.metadata.inNamespace ∧ s.Listable Pod x.metadata.inNamespace r.selector) ∧
      (o.showEvents = true → s.Readable Event x.metadata.inNamespace) := by
  have hread : r.metadata = x.metadata := Object.metadata_of_convert hr
  have hstatus : (∃ status, r.statusQuadrant o.store = .ok status) ↔
      s.Readable Pod x.metadata.inNamespace := by
    rw [← hread, ← exists_listPods_iff hstore _ { matchLabels := r.selector } r.metadata.uid]
    exact exists_map_eq_ok_iff
  have hpods : (∃ table, r.podsTable o = .ok table) ↔ _ :=
    exists_podsTable_iff_of_convert hstore hlink hr r.selector
  rw [print_eq, exists_bind_eq_ok_iff]
  have hpage (configuration : Summary Component) :=
    Page.exists_print_iff_needs hstore hlink hr (p := r.pageWith o configuration) rfl rfl rfl
      PageItem.forall_pair_iff
  simp only [hpage, hstatus, hpods]
  constructor
  · rintro ⟨_, -, hneeds, hitems, hevents⟩
    exact ⟨hneeds, hitems, hevents rfl⟩
  · rintro ⟨hneeds, hitems, hevents⟩
    obtain ⟨configuration, hconfiguration⟩ :=
      (exists_configuration_iff hlink).2 (hread ▸ hneeds.controller)
    exact ⟨configuration, hconfiguration, hneeds, hitems, fun _ => hevents⟩

theorem ConfigMap.exists_print_iff {c : ConfigMap} (hc : x.convert ConfigMap = .ok c) :
    (∃ page, ConfigMap.print o (some c) = .ok page) ↔ x.PageNeeds o.plugins c := by
  have hpage := Page.exists_print_iff_needs hstore hlink hc (p := c.page) rfl rfl rfl
    (PageItem.forall_singleton_iff.trans (iff_true_intro c.exists_dataTable))
  exact hpage.trans (and_iff_left ⟨trivial, fun h => nomatch h⟩)

theorem Secret.exists_print_iff {d : Secret} (hd : x.convert Secret = .ok d) :
    (∃ page, Secret.print o (some d) = .ok page) ↔ x.PageNeeds o.plugins d := by
  have hpage := Page.exists_print_iff_needs hstore hlink hd (p := d.page) rfl rfl rfl
    (PageItem.forall_singleton_iff.trans (iff_true_intro d.exists_dataTable))
  exact hpage.trans (and_iff_left ⟨trivial, fun h => nomatch h⟩)

end Kinds

theorem printObject_of_types {o : PrintOptions} {x : Object} {t : TypeMeta}
    (htypes : x.types = some t) {k : PrintableKind}
    (hkind : PrintableKind.ofType? t.apiVersion t.kind = some k) :
    printObject o (some x) = k.print o x := by
  simp only [printObject, orMissing, ok_bind, htypes, printableKind, hkind]

/-- The options with a store in memory and with paths as links. -/
def pathOptions (s : MemoryStore) (base : String) (plugins : PluginManager)
    (showLabels showEvents : Bool) : PrintOptions :=
  ⟨s.toObjectStore, pathLinks base, plugins, showLabels, showEvents⟩

/-- When an object can be printed, for each type but that of service accounts. -/
structure PrintableIff (s : MemoryStore) (plugins : PluginManager) (showEvents : Bool) (x : Object)
    (answer : Except PrintError Component) : Prop where
  deployment : x.types = some (Resource.types Deployment) →
    ((∃ page, answer = .ok page) ↔ ∃ d : Deployment, x.PageNeeds plugins d ∧
      s.Listable Pod x.metadata.inNamespace
        (d.spec.bind fun spec => spec.template.metadata.bind (·.labels)) ∧
      (showEvents = true → s.Readable Event x.metadata.inNamespace))
  job : x.types = some (Resource.types Job) →
    ((∃ page, answer = .ok page) ↔ ∃ j : Job, x.PageNeeds plugins j ∧
      s.Listable Pod x.metadata.inNamespace
        (j.spec.bind fun spec => spec.template.metadata.bind (·.labels)) ∧
      (showEvents = true → s.Readable Event x.metadata.inNamespace))
  /-- All pods are read to be counted, and those with the labels of the selector are shown. -/
  replicationController : x.types = some (Resource.types ReplicationController) →
    ((∃ page, answer = .ok page) ↔ ∃ r : ReplicationController, x.PageNeeds plugins r ∧
      (s.Readable Pod x.metadata.inNamespace ∧
        s.Listable Pod x.metadata.inNamespace (r.spec.bind (·.selector))) ∧
      (showEvents = true → s.Readable Event x.metadata.inNamespace))
  configMap : x.types = some (Resource.types ConfigMap) →
    ((∃ page, answer = .ok page) ↔ ∃ c : ConfigMap, x.PageNeeds plugins c)
  secret : x.types = some (Resource.types Secret) →
    ((∃ page, answer = .ok page) ↔ ∃ d : Secret, x.PageNeeds plugins d)
  /-- The plugins of a registry answer exactly if each does that covers the object. -/
  plugins : ∀ registry : PluginRegistry, plugins = registry.toManager → ∀ source,
    ((∃ added, plugins.content source = .ok added) ↔ ∀ name p, registry.get? name = some p →
      p.Covers source → ∃ added, p.service.content source = .ok added)

/-- **Which objects can be printed.** Over a store in memory and with paths as links, an object of a
type that has a page is printed exactly if it can be read, plugins answer, its controller has a
path, and all that its page looks at can be read and linked. -/
theorem printable_iff (s : MemoryStore) (base : String) (plugins : PluginManager)
    (showLabels showEvents : Bool) (x : Object) :
    PrintableIff s plugins showEvents x
      (printObject (pathOptions s base plugins showLabels showEvents) (some x)) where
  deployment htypes := by
    rw [printObject_of_types htypes (k := .deployment) rfl]
    exact Object.exists_convert_bind_iff (fun _ h => h.1.converts) fun d hd =>
      Deployment.exists_print_iff rfl rfl hd
  job htypes := by
    rw [printObject_of_types htypes (k := .job) rfl]
    exact Object.exists_convert_bind_iff (fun _ h => h.1.converts) fun j hj =>
      Job.exists_print_iff rfl rfl hj
  replicationController htypes := by
    rw [printObject_of_types htypes (k := .replicationController) rfl]
    exact Object.exists_convert_bind_iff (fun _ h => h.1.converts) fun r hr =>
      ReplicationController.exists_print_iff rfl rfl hr
  configMap htypes := by
    rw [printObject_of_types htypes (k := .configMap) rfl]
    exact Object.exists_convert_bind_iff (fun _ h => h.converts) fun c hc =>
      ConfigMap.exists_print_iff rfl rfl hc
  secret htypes := by
    rw [printObject_of_types htypes (k := .secret) rfl]
    exact Object.exists_convert_bind_iff (fun _ h => h.converts) fun d hd =>
      Secret.exists_print_iff rfl rfl hd
  plugins registry heq source := by
    rw [heq]
    exact PluginRegistry.exists_content_iff

end ClusterView

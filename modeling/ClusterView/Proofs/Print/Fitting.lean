import ClusterView.Proofs.Layout.Widths
import ClusterView.Proofs.Print.Lists
import ClusterView.Proofs.Print.Tables

/-!
# What is printed fits

Printing puts rows into tables and items into sections, and each of them could be refused. None is,
whatever a store, a link generator and plugins answer (`printing_fits`): the rows of a table have
the columns of the table, the summaries of a page share a section in halves, and all other items
are packed. `ViewsFit` says so of an outcome, and it is kept by each way in which outcomes are
composed.
-/

namespace ClusterView

open Outcome

/-- No view refused what was put into it. -/
def ViewsFit {α : Type} (x : Except PrintError α) : Prop := ∀ e, x ≠ .error (.view e)

/-! ## Chains of steps -/

namespace ViewsFit

variable {α β : Type} {x : Except PrintError α}

theorem ok (a : α) : ViewsFit (.ok a) := fun _ h => nomatch h

theorem of_exists_ok (h : ∃ a, x = .ok a) : ViewsFit x := by
  obtain ⟨a, rfl⟩ := h
  exact .ok a

theorem bind (h : ViewsFit x) {f : α → Except PrintError β} (hf : ∀ a, x = .ok a → ViewsFit (f a)) :
    ViewsFit (x >>= f) := by
  cases x with
  | error failure =>
    rintro e ⟨⟩
    exact h e rfl
  | ok a => exact hf a rfl

theorem map (h : ViewsFit x) (f : α → β) : ViewsFit (x.map f) := by
  cases x with
  | error failure =>
    rintro e ⟨⟩
    exact h e rfl
  | ok a => exact .ok _

theorem mapM {f : α → Except PrintError β} {xs : List α} (h : ∀ a ∈ xs, ViewsFit (f a)) :
    ViewsFit (xs.mapM f) := by
  intro e he
  obtain ⟨a, hfind, ha⟩ := mapM_eq_error_iff.1 he
  exact h a (List.mem_of_find?_eq_some hfind) e ha

/-- Errors of a store, of a link generator or of plugins are none of views. -/
theorem mapError {ε : Type} (wrap : ε → PrintError) (h : ∀ failure e, wrap failure ≠ .view e)
    (x : Except ε α) : ViewsFit (x.mapError wrap) := by
  cases x with
  | error failure =>
    rintro e he
    exact h failure e (Except.error.inj he)
  | ok a => exact .ok a

theorem store (x : Except StoreError α) : ViewsFit (liftM x) :=
  mapError .store (fun _ _ h => nomatch h) x

theorem link (x : Except LinkError α) : ViewsFit (liftM x) :=
  mapError .link (fun _ _ h => nomatch h) x

theorem plugin (x : Except PluginError α) : ViewsFit (liftM x) :=
  mapError .plugin (fun _ _ h => nomatch h) x

theorem orMissing (what : String) (input : Option α) : ViewsFit (orMissing what input) := by
  cases input with
  | none => exact fun _ h => nomatch h
  | some a => exact .ok a

end ViewsFit

/-! ## Lists -/

section Lists

variable {α : Type} [Resource α] (v : ListView α) (o : PrintOptions)

theorem ListView.print_fits (list : List α) : ViewsFit (v.print o list) := by
  rw [v.print_eq]
  refine .map (.mapM fun r _ => ?_) _
  rw [v.row_eq]
  exact (ViewsFit.link _).map _

theorem ListView.printInput_fits (input : Option (List α)) : ViewsFit (v.printInput o input) :=
  .bind (.orMissing _ _) fun list _ => v.print_fits o list

theorem PrintableKind.printAs_fits (objects : List Object) : ViewsFit (printAs v o objects) :=
  .bind (.store _) fun list _ => .bind (v.print_fits o list) fun _ _ => .ok _

end Lists

/-! ## Parts of pages -/

section Parts

variable (object : Reference) (o : PrintOptions)

theorem podsTable_fits (labels : Option (StringMap String)) :
    ViewsFit (podsTable object labels o) :=
  .bind (.store _) fun pods _ => podsView.print_fits o pods

theorem listPods_fits (ns : Option String) (selector : LabelSelector) (uid : Option String)
    (store : ObjectStore) : ViewsFit (listPods ns selector uid store) :=
  .bind (.store _) fun _ _ => .ok _

theorem Job.ownedTable_fits : ViewsFit (Job.ownedTable object o) :=
  .bind (.store _) fun _ _ => Job.listView.print_fits _ _

theorem eventsTable_fits : ViewsFit (eventsTable object o) := by
  rw [eventsTable_eq]
  exact (ViewsFit.store _).map _

theorem metadataSummary_fits (m : ObjectMeta) : ViewsFit (metadataSummary object m o) := by
  simp only [metadataSummary]
  split
  · exact .bind (.link _) fun _ _ => .ok _
  · exact .ok _

end Parts

/-! ## Pages -/

/-- A layout whose sections are at most as wide as the page. -/
def Layout.FitsPage {α : Type} (l : Layout α) : Prop := ∀ s ∈ l.sections, s.used ≤ Width.page

namespace Page

variable {p : Page} {o : PrintOptions}

theorem eventSections_fits (p : Page) (o : PrintOptions) : ViewsFit (p.eventSections o) := by
  unfold eventSections
  split
  · exact .bind (eventsTable_fits _ _) fun _ _ => .ok _
  · exact .ok _

/-- A page is refused nothing if its items are not. -/
theorem print_fits (h : ∀ i ∈ p.items, ViewsFit i.content) : ViewsFit (p.print o) := by
  unfold print
  rw [layout_eq]
  refine .map (.bind (.plugin _) fun added _ => ?_) _
  refine .bind (metadataSummary_fits _ _ _) fun metadata _ => ?_
  refine .bind (.mapM fun i hi => (h i hi).map _) fun items _ => ?_
  refine .bind (.of_exists_ok p.exists_templateItems) fun template _ => ?_
  exact .bind (eventSections_fits p o) fun events _ => .ok _

theorem print_fits_of_pair {first second : PageItem} (hitems : p.items = [first, second])
    (hfirst : ViewsFit first.content) (hsecond : ViewsFit second.content) :
    ViewsFit (p.print o) := by
  refine print_fits ?_
  rw [hitems]
  exact List.forall_mem_cons.2 ⟨hfirst, List.forall_mem_singleton.2 hsecond⟩

theorem summarySection_eq_placeAll (summaries : List (Summary Component)) :
    summarySection summaries = liftM ((summaries.map fun s =>
      (⟨.half, .summary s⟩ : Layout.Item Component)).foldlM Layout.Section.place .empty) := by
  rw [List.foldlM_map]
  rfl

/-- A section with some summaries of half the width, the widths summed in bytes; `none` where the
sum overflows. -/
def summarySectionInBytes? (summaries : List (Summary Component)) :
    Option (Except PrintError (Layout.Section Component)) :=
  (Layout.Section.empty.placeAllInBytes? (summaries.map fun s => ⟨.half, .summary s⟩)).map liftM

theorem summarySectionInBytes?_eq (summaries : List (Summary Component)) :
    summarySectionInBytes? summaries = some (summarySection summaries) := by
  rw [summarySectionInBytes?, Layout.Section.placeAllInBytes?_eq (Nat.zero_le _),
    summarySection_eq_placeAll]
  rfl

theorem used_le_of_summarySection {summaries : List (Summary Component)}
    {s : Layout.Section Component} (h : summarySection summaries = .ok s) :
    s.used ≤ Width.page := by
  rw [summarySection_eq_placeAll, liftM_view_eq_ok_iff] at h
  exact Layout.Section.used_le_of_placeAll (Nat.zero_le _) h

/-- The summaries of a page go into a section together. -/
theorem used_le_of_mem_summarySections {summaries : List (Summary Component)}
    (h : summaries.length ≤ 2) : ∀ s ∈ summarySections summaries, s.used ≤ Width.page := by
  intro s hs
  unfold summarySections at hs
  split at hs
  · cases hs
  · obtain rfl := List.mem_singleton.1 hs
    exact used_le_of_summarySection (summarySection_eq_ok h)

theorem used_sectionOf_le (width : Width) (c : Component) :
    (sectionOf width c).used ≤ Width.page := by
  have h := width.value_le_page
  simpa [sectionOf, Layout.Section.used] using h

theorem fitsPage_of_print {c : Component} (h : p.print o = .ok c) :
    ∃ l, c = .layout l ∧ l.FitsPage := by
  obtain ⟨l, hl, rfl⟩ := map_eq_ok_iff.1 h
  refine ⟨l, rfl, ?_⟩
  simp only [layout_eq, bind_eq_ok_iff, pure_eq_ok_iff] at hl
  obtain ⟨added, -, metadata, -, items, -, template, -, events, hevents, rfl⟩ := hl
  simp only [Layout.FitsPage, List.mem_append, List.mem_singleton]
  rintro s (hs | ((rfl | hs) | hs) | hs)
  · exact used_le_of_mem_summarySections (length_toList_append_le _ _) s hs
  · exact used_sectionOf_le _ _
  · exact (Layout.packing_packed _).used_le s hs
  · exact (Layout.packing_packed _).used_le s hs
  · unfold eventSections at hevents
    split at hevents
    · obtain ⟨table, -, htable⟩ := bind_eq_ok_iff.1 hevents
      obtain rfl := pure_eq_ok_iff.1 htable
      obtain rfl := List.mem_singleton.1 hs
      exact used_sectionOf_le _ _
    · obtain rfl := Except.ok.inj hevents
      cases hs

end Page

/-! ## Workloads and settings -/

section Objects

variable (o : PrintOptions)

theorem Deployment.print_fits (input : Option Deployment) :
    ViewsFit (Deployment.print o input) := by
  refine .bind (.orMissing _ _) fun d _ => Page.print_fits_of_pair rfl ?_ ?_
  · exact (podsTable_fits _ _ _).map _
  · exact (ViewsFit.of_exists_ok d.exists_conditionsTable).map _

theorem Job.print_fits (input : Option Job) : ViewsFit (Job.print o input) := by
  refine .bind (.orMissing _ _) fun j _ => Page.print_fits_of_pair rfl ?_ ?_
  · exact (podsTable_fits _ _ _).map _
  · exact (ViewsFit.of_exists_ok (exists_conditionsTable _)).map _

theorem ReplicationController.page_fits (r : ReplicationController) : ViewsFit (r.page o) := by
  refine .bind ?_ fun _ _ => .ok _
  simp only [configuration]
  split
  · exact .bind (.link _) fun _ _ => .ok _
  · exact .ok _

theorem ReplicationController.print_fits (input : Option ReplicationController) :
    ViewsFit (ReplicationController.print o input) := by
  refine .bind (.orMissing _ _) fun r _ => .bind (page_fits o r) fun p hp => ?_
  obtain ⟨configuration, -, hpage⟩ := bind_eq_ok_iff.1 hp
  obtain rfl := pure_eq_ok_iff.1 hpage
  refine Page.print_fits_of_pair rfl ?_ ?_
  · have hstatus : ViewsFit (r.statusQuadrant o.store) :=
      .bind (listPods_fits _ _ _ _) fun _ _ => .ok _
    exact hstatus.map _
  · exact (podsTable_fits _ _ _).map _

theorem ConfigMap.print_fits (input : Option ConfigMap) : ViewsFit (ConfigMap.print o input) := by
  refine .bind (.orMissing _ _) fun c _ => Page.print_fits (List.forall_mem_singleton.2 ?_)
  exact (ViewsFit.of_exists_ok c.exists_dataTable).map _

theorem Secret.print_fits (input : Option Secret) : ViewsFit (Secret.print o input) := by
  refine .bind (.orMissing _ _) fun s _ => Page.print_fits (List.forall_mem_singleton.2 ?_)
  exact (ViewsFit.of_exists_ok s.exists_dataTable).map _

/-! ## Service accounts -/

theorem secretLink_fits (ns : Option String) (name : String) : ViewsFit (secretLink o ns name) :=
  .bind (.link _) fun _ _ => .ok _

theorem ServiceAccount.tokenLinks_fits (a : ServiceAccount) : ViewsFit (a.tokenLinks o) := by
  refine .bind (.store _) fun objects _ => .bind (.mapM fun x _ => ?_) fun _ _ => .ok _
  refine .bind (.store _) fun secret _ => ?_
  split
  · exact .bind (secretLink_fits o _ _) fun _ _ => .ok _
  · exact .ok _

theorem ServiceAccount.configuration_fits (a : ServiceAccount) : ViewsFit (a.configuration o) :=
  .bind (.mapM fun _ _ => secretLink_fits o _ _) fun _ _ =>
    .bind (.mapM fun _ _ => secretLink_fits o _ _) fun _ _ =>
      .bind (tokenLinks_fits o a) fun _ _ => .ok _

theorem grantedRules_fits (store : ObjectStore) (scope : Option String) (r : RoleRef) :
    ViewsFit (grantedRules store scope r) := by
  simp only [grantedRules]
  split
  · exact .ok _
  · refine .bind (.store _) fun found _ => ?_
    split
    · exact .ok _
    · split
      · exact .bind (.store _) fun _ _ => .ok _
      · exact .bind (.store _) fun _ _ => .ok _

theorem boundRules_fits (α : Type) [Resource α] (roleRef : α → RoleRef)
    (subjects : α → Option (List Subject)) (a : ServiceAccount) (store : ObjectStore)
    (scope : Option String) (query : Query) :
    ViewsFit (boundRules α roleRef subjects a store scope query) := by
  refine .bind (.store _) fun bindings _ => .bind (.mapM fun x _ => ?_) fun _ _ => .ok _
  refine .bind (.store _) fun binding _ => ?_
  split
  · exact grantedRules_fits _ _ _
  · exact .ok _

theorem ServiceAccount.policyRules_fits (a : ServiceAccount) (store : ObjectStore) :
    ViewsFit (a.policyRules store) :=
  .bind (boundRules_fits _ _ _ _ _ _ _) fun _ _ =>
    .bind (boundRules_fits _ _ _ _ _ _ _) fun _ _ => .ok _

theorem ServiceAccount.policyRulesTable_fits (a : ServiceAccount) (store : ObjectStore) :
    ViewsFit (a.policyRulesTable store) :=
  .bind (policyRules_fits a store) fun rules _ => .of_exists_ok (PolicyRule.exists_table rules)

/-- The configuration and the status that plugins add go into a section together. -/
theorem length_configuration_status_le (config : Summary Component)
    (added : List (Summary.Section Component)) :
    (config :: if added.isEmpty then [] else [Summary.ofSections "Status" added]).length ≤ 2 := by
  split <;> simp

theorem ServiceAccount.print_fits (input : Option ServiceAccount) :
    ViewsFit (ServiceAccount.print o input) := by
  refine .bind (.orMissing _ _) fun a _ => .bind ?_ fun _ _ => .ok _
  refine .bind (.plugin _) fun added _ => .bind (configuration_fits o a) fun config _ => ?_
  refine .bind (.of_exists_ok ⟨_, Page.summarySection_eq_ok
    (length_configuration_status_le _ _)⟩) fun top _ => ?_
  refine .bind (metadataSummary_fits _ _ _) fun metadata _ => ?_
  refine .bind (.of_exists_ok ⟨_, Page.summarySection_eq_ok (by simp)⟩) fun middle _ => ?_
  refine .bind (policyRulesTable_fits a _) fun rules _ => ?_
  exact .bind (.of_exists_ok ⟨_, rfl⟩) fun bottom _ => .ok _

theorem ServiceAccount.fitsPage_of_print {input : Option ServiceAccount} {c : Component}
    (h : ServiceAccount.print o input = .ok c) : ∃ l, c = .layout l ∧ l.FitsPage := by
  obtain ⟨a, -, ha⟩ := bind_eq_ok_iff.1 h
  obtain ⟨l, hl, hc⟩ := bind_eq_ok_iff.1 ha
  obtain rfl := pure_eq_ok_iff.1 hc
  simp only [ServiceAccountPage.layout, bind_eq_ok_iff, pure_eq_ok_iff, liftM_view_eq_ok_iff] at hl
  obtain ⟨added, -, config, -, top, htop, metadata, -, middle, hmiddle, rules, -, bottom, hbottom,
    rfl⟩ := hl
  refine ⟨_, rfl, ?_⟩
  simp only [Layout.FitsPage, Layout.pack, Layout.addSection, Layout.empty, List.nil_append,
    List.mem_append, List.mem_singleton]
  rintro s (((rfl | rfl) | rfl) | hs)
  · exact Page.used_le_of_summarySection htop
  · exact Page.used_le_of_summarySection hmiddle
  · exact Layout.Section.used_le_of_place hbottom
  · exact (Layout.packing_packed _).used_le s hs

/-! ## Any object -/

theorem PrintableKind.print_fits (k : PrintableKind) (object : Object) :
    ViewsFit (k.print o object) := by
  cases k with
  | deployment => exact .bind (.store _) fun _ _ => Deployment.print_fits o _
  | job => exact .bind (.store _) fun _ _ => Job.print_fits o _
  | configMap => exact .bind (.store _) fun _ _ => ConfigMap.print_fits o _
  | replicationController => exact .bind (.store _) fun _ _ => ReplicationController.print_fits o _
  | secret => exact .bind (.store _) fun _ _ => Secret.print_fits o _
  | serviceAccount => exact .bind (.store _) fun _ _ => ServiceAccount.print_fits o _

theorem PrintableKind.printList_fits (k : PrintableKind) (objects : List Object) :
    ViewsFit (k.printList o objects) := by
  cases k <;> exact printAs_fits _ o objects

theorem PrintableKind.fitsPage_of_print {k : PrintableKind} {object : Object} {c : Component}
    (h : k.print o object = .ok c) : ∃ l, c = .layout l ∧ l.FitsPage := by
  cases k with
  | replicationController =>
    obtain ⟨r, -, hr⟩ := bind_eq_ok_iff.1 h
    obtain ⟨r', -, hr'⟩ := bind_eq_ok_iff.1 hr
    obtain ⟨p, -, hp⟩ := bind_eq_ok_iff.1 hr'
    exact Page.fitsPage_of_print hp
  | serviceAccount =>
    obtain ⟨a, -, ha⟩ := bind_eq_ok_iff.1 h
    exact ServiceAccount.fitsPage_of_print o ha
  | deployment | job | configMap | secret =>
    obtain ⟨r, -, hr⟩ := bind_eq_ok_iff.1 h
    exact Page.fitsPage_of_print hr

theorem printableKind_fits (apiVersion kind : String) :
    ViewsFit (printableKind apiVersion kind) := by
  unfold printableKind
  split
  · exact .ok _
  · exact fun _ h => nomatch h

theorem printObject_fits (input : Option Object) : ViewsFit (printObject o input) :=
  .bind (.orMissing _ _) fun object _ => .bind (.orMissing _ _) fun _ _ =>
    .bind (printableKind_fits _ _) fun k _ => k.print_fits o object

theorem printList_fits (apiVersion kind : String) (objects : List Object) :
    ViewsFit (printList o apiVersion kind objects) :=
  .bind (printableKind_fits _ _) fun k _ => k.printList_fits o objects

theorem fitsPage_of_printObject {input : Option Object} {c : Component}
    (h : printObject o input = .ok c) : ∃ l, c = .layout l ∧ l.FitsPage := by
  simp only [printObject, bind_eq_ok_iff] at h
  obtain ⟨object, -, types, -, k, -, hk⟩ := h
  exact PrintableKind.fitsPage_of_print o hk

/-- All that printing puts into views fits. -/
structure PrintingFits : Prop where
  object : ∀ input, ViewsFit (printObject o input)
  list : ∀ apiVersion kind objects, ViewsFit (printList o apiVersion kind objects)
  deployment : ∀ input, ViewsFit (Deployment.print o input)
  job : ∀ input, ViewsFit (Job.print o input)
  replicationController : ∀ input, ViewsFit (ReplicationController.print o input)
  configMap : ∀ input, ViewsFit (ConfigMap.print o input)
  secret : ∀ input, ViewsFit (Secret.print o input)
  serviceAccount : ∀ input, ViewsFit (ServiceAccount.print o input)
  /-- Any table of resources, among them those of the six kinds above. -/
  resources : ∀ {α : Type} [Resource α] (v : ListView α) input, ViewsFit (v.printInput o input)
  pods : ∀ object labels, ViewsFit (podsTable object labels o)
  jobs : ∀ owner, ViewsFit (Job.ownedTable owner o)
  rules : ∀ rules, ViewsFit (PolicyRule.table rules)
  plugins : ViewsFit (describePlugins o)
  /-- What is printed has sections of at most the width of the page. -/
  widths : ∀ input c, printObject o input = .ok c → ∃ l, c = .layout l ∧ l.FitsPage
  /-- Components get into a section as summaries side by side, as a table over the full width or
  as packed items. In bytes, no sum of widths overflows in any of the three. -/
  summarySums : ∀ summaries,
    Page.summarySectionInBytes? summaries = some (Page.summarySection summaries)
  tableSums : ∀ table : Table Component,
    (Layout.Section.empty : Layout.Section Component).placeInBytes? ⟨.full, .table table⟩ =
      some ((Layout.Section.empty : Layout.Section Component).place ⟨.full, .table table⟩)
  itemSums : ∀ (l : Layout Component) items, l.packInBytes? items = some (l.pack items)

/-- **Nothing that is printed is refused by a view.** Whatever a store, a link generator and plugins
answer, every row has only columns of its table and every item goes into its section. -/
theorem printing_fits : PrintingFits o where
  object := printObject_fits o
  list := printList_fits o
  deployment := Deployment.print_fits o
  job := Job.print_fits o
  replicationController := ReplicationController.print_fits o
  configMap := ConfigMap.print_fits o
  secret := Secret.print_fits o
  serviceAccount := ServiceAccount.print_fits o
  resources v input := v.printInput_fits o input
  pods object labels := podsTable_fits object o labels
  jobs owner := Job.ownedTable_fits owner o
  rules rules := .of_exists_ok (PolicyRule.exists_table rules)
  plugins := .bind (.of_exists_ok (exists_pluginTable _)) fun _ _ => .ok _
  widths _ _ h := fitsPage_of_printObject o h
  summarySums := Page.summarySectionInBytes?_eq
  tableSums _ := Layout.Section.placeInBytes?_eq (Nat.zero_le _) _
  itemSums l items := l.packInBytes?_eq items

end Objects

end ClusterView

import ClusterView.Proofs.Print.Lists
import ClusterView.Proofs.Print.Tables
import ClusterView.Proofs.View.Links

/-!
# The links of a page

Most of what a page shows are texts: conditions, data, rules, events and pod templates have no links
at all, so that any property holds of theirs. Links come from the controller of the object, from
lists of resources, from the parts that a page is made with and from plugins, and
`Page.print_allLinks` says that there are no others.
-/

namespace ClusterView

open Outcome

/-! ## Views without links -/

section Plain

variable {P : Link → Prop}

@[simp] theorem Component.allLinks_timestampOf (time : Option Instant) :
    (timestampOf time).AllLinks P :=
  allLinks_timestamp _

@[simp] theorem Component.allLinks_ageOf {α : Type} [Resource α] (r : α) : (ageOf r).AllLinks P :=
  allLinks_timestamp _

@[simp] theorem Component.allLinks_ofInt (n : Int) : (ofInt n).AllLinks P := allLinks_text _

/-- A table that is made of rows shows their links. -/
theorem Table.allLinks_ofRows {title emptyContent : String} {columns : List Column}
    {rows : List (Row Component)} (h : ∀ row ∈ rows, row.AllLinks P) :
    Yields (Table.AllLinks P)
      (liftM (ofRows title emptyContent columns rows) : Except PrintError _) := by
  intro t ht
  obtain ⟨-, rfl⟩ := addAll_eq_ok_iff.1 (liftM_view_eq_ok_iff.1 ht)
  exact h

theorem Table.allLinks_ofRows_map {β : Type} {title emptyContent : String} {columns : List Column}
    {cells : β → List (String × Component)} (h : ∀ b, ∀ cell ∈ cells b, cell.2.AllLinks P)
    (bs : List β) :
    Yields (Table.AllLinks P)
      (liftM (ofRows title emptyContent columns (bs.map fun b => .ofCells (cells b))) :
        Except PrintError _) :=
  allLinks_ofRows (List.forall_mem_map.2 fun b _ => Row.allLinks_ofCells (h b))

theorem environmentTable_allLinks (env : List EnvVar) :
    Yields (Table.AllLinks P) (environmentTable env) :=
  Table.allLinks_ofRows_map (fun _ => by simp) env

theorem Deployment.conditionsTable_allLinks (d : Deployment) :
    Yields (Table.AllLinks P) d.conditionsTable :=
  Table.allLinks_ofRows_map (fun _ => by simp) _

theorem Job.conditionsTable_allLinks (conditions : List JobCondition) :
    Yields (Table.AllLinks P) (conditionsTable conditions) :=
  Table.allLinks_ofRows_map (fun _ => by simp) conditions

theorem Secret.dataTable_allLinks (s : Secret) :
    Yields (Table.AllLinks P) s.dataTable :=
  Table.allLinks_ofRows_map (fun _ => by simp) s.keys

theorem ConfigMap.dataTable_allLinks (c : ConfigMap) :
    Yields (Table.AllLinks P) c.dataTable :=
  Table.allLinks_ofRows (List.forall_mem_append.2
    ⟨List.forall_mem_map.2 fun _ _ => Table.Row.allLinks_ofCells (by simp),
      List.forall_mem_map.2 fun _ _ => Table.Row.allLinks_ofCells (by simp)⟩)

theorem PolicyRule.table_allLinks (rules : List PolicyRule) :
    Yields (Table.AllLinks P) (table rules) :=
  Table.allLinks_ofRows_map (fun _ => by simp) rules

theorem eventsTable_allLinks (object : Reference) (o : PrintOptions) :
    Yields (Table.AllLinks P) (eventsTable object o) :=
  .bind fun _ _ => Table.allLinks_ofRows_map (fun _ => by simp) _

/-- The sections of a container before its environment. -/
def containerTexts (c : Container) : List (Summary.Section Component) :=
  let texts {α : Type} (header : String) (items : Option (List α)) (text : List α → String) :
      List (Summary.Section Component) :=
    match items with
    | none | some [] => []
    | some items => [.ofText header (text items)]
  let policy := c.imagePullPolicy.toList.map (.ofText "Image Pull Policy")
  .ofText "Image" (orNotSet c.image) :: policy ++
    texts "Ports" c.ports (fun ports => joinOrNone ", " (ports.map ContainerPort.text)) ++
    texts "Command" c.command (Text.join " ") ++ texts "Args" c.args (Text.join " ")

theorem containerTexts_allLinks (c : Container) :
    ∀ part ∈ containerTexts c, part.content.AllLinks P := by
  have htexts {α : Type} (header : String) (items : Option (List α)) (text : List α → String) :
      ∀ part ∈ (match items with
        | none | some [] => []
        | some items => [.ofText header (text items)] : List (Summary.Section Component)),
        part.content.AllLinks P := by
    split <;> simp
  simp only [containerTexts, List.forall_mem_append]
  exact ⟨⟨⟨by simp, htexts _ _ _⟩, htexts _ _ _⟩, htexts _ _ _⟩

/-- The section with the environment of a container; none where it is not set or empty. -/
def containerEnvironment (c : Container) : Except PrintError (List (Summary.Section Component)) :=
  match c.env with
  | none | some [] => .ok []
  | some env => (environmentTable env).map fun t => [⟨"Environment", .table t⟩]

theorem containerEnvironment_allLinks (c : Container) :
    Yields (fun parts => ∀ part ∈ parts, part.content.AllLinks P) (containerEnvironment c) := by
  unfold containerEnvironment
  split
  · exact .ok (by simp)
  · exact .ok (by simp)
  next env _ _ =>
    exact (environmentTable_allLinks env).map fun t ht =>
      List.forall_mem_singleton.2 (Component.allLinks_table.2 ht)

theorem containerSummary_eq (c : Container) : containerSummary c =
    (containerEnvironment c).map fun environment =>
      .ofSections ("Container " ++ c.name) (containerTexts c ++ environment) := by
  unfold containerSummary containerEnvironment
  rcases c.env with _ | (_ | ⟨v, env⟩)
  · rfl
  · rfl
  · dsimp only
    cases environmentTable (v :: env) <;> rfl

theorem containerSummary_allLinks (c : Container) :
    Yields (Summary.AllLinks P) (containerSummary c) := by
  rw [containerSummary_eq]
  exact (containerEnvironment_allLinks c).map fun parts hparts =>
    List.forall_mem_append.2 ⟨containerTexts_allLinks c, hparts⟩

theorem podTemplateItems_allLinks (t : PodTemplate) :
    Yields (fun items => ∀ item ∈ items, item.view.AllLinks P) (podTemplateItems t) := by
  refine .bind fun containers hcontainers => .ok (List.forall_mem_cons.2 ⟨?_, ?_⟩)
  · simp
  · refine Yields.mapM (S := fun item : Layout.Item Component => item.view.AllLinks P)
      (fun c _ => ?_) containers hcontainers
    exact .bind fun s hs => .ok (Component.allLinks_summary.2 (containerSummary_allLinks c s hs))

end Plain

/-! ## Lists -/

/-- A list whose own cells have no links shows the links to its resources. -/
theorem ListView.print_allLinks {α : Type} [Resource α] {v : ListView α} {o : PrintOptions}
    {P : Link → Prop} {list : List α} (hcells : ∀ c ∈ v.cells, ∀ r, (c.2 r).AllLinks P)
    (hlist : ∀ r ∈ list, Yields P (nameLink r o)) :
    Yields (Table.AllLinks P) (v.print o list) := by
  rw [print_eq]
  refine .map (.mapM (S := Table.Row.AllLinks P) fun r hr => ?_) fun rows hrows => hrows
  rw [row_eq]
  refine (hlist r hr).map fun l hl => Table.Row.allLinks_ofCells ?_
  simp only [ListView.cellsWith, List.cons_append, List.forall_mem_cons, List.forall_mem_append,
    List.forall_mem_map]
  refine ⟨Component.allLinks_link.2 hl, ?_, fun c hc => hcells c hc r⟩
  split <;> simp

/-! ## Pages -/

/-- Whether all links that plugins add have a property. -/
structure PluginContent.AllLinks (P : Link → Prop) (added : PluginContent) : Prop where
  config : ∀ part ∈ added.config, part.content.AllLinks P
  status : ∀ part ∈ added.status, part.content.AllLinks P
  items : ∀ item ∈ added.items, item.view.AllLinks P

/-- Whether all links of the parts of a page itself have a property. -/
structure Page.AllLinks (P : Link → Prop) (p : Page) : Prop where
  config : ∀ s ∈ p.config, s.AllLinks P
  status : ∀ s ∈ p.status, s.AllLinks P
  items : ∀ i ∈ p.items, Yields (Component.AllLinks P) i.content

section Pages

variable {P : Link → Prop} {o : PrintOptions}

theorem metadataSummary_allLinks {object : Reference} {m : ObjectMeta}
    (howner : ∀ owner, Yields P (o.link.forOwner object owner)) :
    Yields (Summary.AllLinks P) (metadataSummary object m o) := by
  have htexts (header : String) (map : StringMap String) :
      ∀ part ∈ (if map.isEmpty then [] else [⟨header, .labels map⟩] :
        List (Summary.Section Component)), part.content.AllLinks P := by
    split <;> simp
  simp only [metadataSummary]
  split
  next owner _ =>
    refine .bind fun l hl => .ok ?_
    have hl := howner owner l (mapError_eq_ok_iff.1 hl)
    simp only [Summary.allLinks_ofSections, List.forall_mem_append, List.forall_mem_cons]
    exact ⟨⟨⟨by simp, htexts _ _⟩, htexts _ _⟩, by simpa using hl⟩
  · refine .ok ?_
    simp only [Summary.allLinks_ofSections, List.forall_mem_append, List.forall_mem_cons]
    exact ⟨⟨⟨by simp, htexts _ _⟩, htexts _ _⟩, by simp⟩

namespace Page

variable {p : Page}

/-- A table on a page shows its links. -/
theorem table_allLinks {x : Except PrintError (Table Component)} (h : Yields (Table.AllLinks P) x) :
    Yields (Component.AllLinks P) (x.map .table) :=
  h.map fun _ => Component.allLinks_table.2

theorem withPlugins_allLinks {summary : Option (Summary Component)} {title : String}
    {added : List (Summary.Section Component)}
    (h : ∀ s ∈ summary, s.AllLinks P) (hadded : ∀ part ∈ added, part.content.AllLinks P) :
    ∀ s ∈ withPlugins summary title added, s.AllLinks P := by
  unfold withPlugins
  split
  next s =>
    rintro _ ⟨⟩
    exact (h s rfl).add hadded
  · split
    · simp
    · rintro _ ⟨⟩
      exact hadded

/-- The items of the section that summaries share. -/
theorem flatMap_summarySections (summaries : List (Summary Component)) :
    (summarySections summaries).flatMap (·.items) =
      summaries.map fun s => ⟨.half, .summary s⟩ := by
  cases summaries <;> simp [summarySections]

theorem templateItems_allLinks (p : Page) :
    Yields (fun items => ∀ item ∈ items, item.view.AllLinks P) p.templateItems := by
  unfold templateItems
  split
  · exact podTemplateItems_allLinks _
  · exact .ok (by simp)

theorem eventSections_allLinks (p : Page) (o : PrintOptions) :
    Yields (fun sections => ∀ item ∈ sections.flatMap (·.items), item.view.AllLinks P)
      (p.eventSections o) := by
  unfold eventSections
  split
  · refine .bind fun table htable => .ok ?_
    simpa [sectionOf] using eventsTable_allLinks p.object o table htable
  · exact .ok (by simp)

/-- A page shows the links of its parts and of plugins, and the link to the controller of its
object. -/
theorem print_allLinks (h : p.AllLinks P)
    (howner : ∀ owner, Yields P (o.link.forOwner p.object owner))
    (hadded : Yields (PluginContent.AllLinks P) (o.plugins.content p.source)) :
    Yields (Component.AllLinks P) (p.print o) := by
  unfold print
  rw [layout_eq]
  refine .map (Q := fun l => (Component.layout l).AllLinks P) ?_ fun _ hl => hl
  refine .bind fun added hcontent => .bind fun metadata hmetadata => .bind fun items hitems =>
    .bind fun template htemplate => .bind fun events hevents => .ok ?_
  have hcontent := hadded added (liftM_plugin_eq_ok_iff.1 hcontent)
  have hmetadata := metadataSummary_allLinks howner metadata hmetadata
  have htemplate := templateItems_allLinks (P := P) p template htemplate
  have hevents := eventSections_allLinks (P := P) p o events hevents
  have hitems : ∀ item ∈ items, item.view.AllLinks P :=
    Yields.mapM (S := fun item : Layout.Item Component => item.view.AllLinks P)
      (fun i hi => (h.items i hi).map fun _ hc => hc) items hitems
  have htop {summary : Option (Summary Component)} (h : ∀ s ∈ summary, s.AllLinks P) :
      ∀ s ∈ summary.toList, (Component.summary s).AllLinks P :=
    fun s hs => Component.allLinks_summary.2 (h s (Option.mem_toList.1 hs))
  rw [Component.allLinks_layout]
  simp only [List.flatMap_append, flatMap_summarySections, Layout.flatten_packed,
    List.forall_mem_append, List.forall_mem_map]
  exact ⟨⟨htop (withPlugins_allLinks h.config hcontent.config),
    htop (withPlugins_allLinks h.status hcontent.status)⟩,
    ⟨⟨by simpa [sectionOf] using hmetadata, by simp [Layout.Section.empty], hitems,
      hcontent.items⟩, by simp [Layout.Section.empty], htemplate⟩, hevents⟩

end Page

end Pages

end ClusterView

import ClusterView.Print.Printer
import ClusterView.Print.PluginList
import ClusterView.Proofs.Outcome
import ClusterView.Proofs.Page.Sections

/-!
# Tables that cannot fail

The rows of a table have the same cells, one for each of its columns, so they go in
(`Table.ofRows_map`). Tables that are made from a single object are therefore always made, and so is
what is shown of a pod template; the table of events fails only as the store does
(`eventsTable_eq`).
-/

namespace ClusterView

open Outcome

/-! ## Rows of a table -/

namespace Table

variable {α β : Type} {title emptyContent : String} {names : List String}

/-- The table with the given rows, if all their cells belong to columns. -/
theorem ofRows_columnsNamed {rows : List (Row α)} (h : ∀ row ∈ rows, ∀ c ∈ row.columns, c ∈ names) :
    ofRows title emptyContent (columnsNamed names) rows =
      .ok ⟨title, columnsNamed names, rows, emptyContent⟩ := by
  refine addAll_eq_ok_iff.2 ⟨fun row hrow c hc => ?_, rfl⟩
  rw [hasColumn_iff, empty, map_accessor_columnsNamed]
  exact h row hrow c hc

/-- The table with a row for each member of a list, if the columns are those of its cells. -/
theorem ofRows_map {cells : β → List (String × α)} (h : ∀ b, (cells b).map (·.1) = names)
    (bs : List β) :
    ofRows title emptyContent (columnsNamed names) (bs.map fun b => .ofCells (cells b)) =
      .ok ⟨title, columnsNamed names, bs.map fun b => .ofCells (cells b), emptyContent⟩ := by
  refine ofRows_columnsNamed fun row hrow c hc => ?_
  obtain ⟨b, -, rfl⟩ := List.mem_map.1 hrow
  rwa [Row.mem_columns_ofCells, h] at hc

end Table

/-! ## Tables of an object -/

theorem exists_environmentTable (env : List EnvVar) : ∃ t, environmentTable env = .ok t :=
  ⟨_, liftM_view_eq_ok_iff.2 (Table.ofRows_map (fun _ => by rfl) env)⟩

theorem Deployment.exists_conditionsTable (d : Deployment) : ∃ t, d.conditionsTable = .ok t :=
  ⟨_, liftM_view_eq_ok_iff.2 (Table.ofRows_map (fun _ => by rfl) _)⟩

theorem Job.exists_conditionsTable (conditions : List JobCondition) :
    ∃ t, Job.conditionsTable conditions = .ok t :=
  ⟨_, liftM_view_eq_ok_iff.2 (Table.ofRows_map (fun _ => by rfl) conditions)⟩

/-- The table of the keys of a secret. -/
def Secret.keyTable (s : Secret) : Table Component where
  title := "Data"
  columns := Table.columnsNamed ["Key"]
  rows := s.keys.map fun key => .ofCells [("Key", .text key)]
  emptyContent := "This secret has no data!"

theorem Secret.dataTable_eq (s : Secret) : s.dataTable = .ok s.keyTable :=
  liftM_view_eq_ok_iff.2 (Table.ofRows_map (fun _ => by rfl) s.keys)

theorem Secret.exists_dataTable (s : Secret) : ∃ t, s.dataTable = .ok t := ⟨_, s.dataTable_eq⟩

/-- The row of a value of a config map. -/
def ConfigMap.dataRow (key value : String) : Table.Row Component :=
  .ofCells [("Key", .text key), ("Value", .text value)]

/-- The table of the values of a config map. -/
def ConfigMap.valueTable (c : ConfigMap) : Table Component where
  title := "Data"
  columns := Table.columnsNamed ["Key", "Value"]
  rows := c.texts.map (fun e => dataRow e.1 e.2) ++
    c.binaryKeys.map fun key => dataRow key "<binary data>"
  emptyContent := "This config map has no data!"

theorem ConfigMap.dataTable_eq (c : ConfigMap) : c.dataTable = .ok c.valueTable := by
  refine liftM_view_eq_ok_iff.2 (Table.ofRows_columnsNamed fun row hrow column hcolumn => ?_)
  have hcells : ∃ key value, row = dataRow key value := by
    rcases List.mem_append.1 hrow with htext | hbinary
    · obtain ⟨e, -, rfl⟩ := List.mem_map.1 htext
      exact ⟨_, _, rfl⟩
    · obtain ⟨key, -, rfl⟩ := List.mem_map.1 hbinary
      exact ⟨_, _, rfl⟩
  obtain ⟨key, value, rfl⟩ := hcells
  exact Table.Row.mem_columns_ofCells.1 hcolumn

theorem ConfigMap.exists_dataTable (c : ConfigMap) : ∃ t, c.dataTable = .ok t :=
  ⟨_, c.dataTable_eq⟩

theorem PolicyRule.exists_table (rules : List PolicyRule) : ∃ t, PolicyRule.table rules = .ok t :=
  ⟨_, liftM_view_eq_ok_iff.2 (Table.ofRows_map (fun _ => by rfl) rules)⟩

theorem exists_pluginTable (r : PluginRegistry) : ∃ t, pluginTable r = .ok t :=
  ⟨_, liftM_view_eq_ok_iff.2 (Table.ofRows_map (fun _ => by rfl) r.plugins.entries)⟩

/-! ## Pod templates -/

theorem exists_containerSummary (c : Container) : ∃ s, containerSummary c = .ok s := by
  unfold containerSummary
  split
  · exact ⟨_, rfl⟩
  · exact ⟨_, rfl⟩
  · rename_i env _ _
    obtain ⟨t, ht⟩ := exists_environmentTable env
    rw [ht]
    exact ⟨_, rfl⟩

theorem exists_podTemplateItems (t : PodTemplate) : ∃ items, podTemplateItems t = .ok items := by
  simp only [podTemplateItems, mapM_bind_pure, bind_eq_ok_iff, pure_eq_ok_iff, map_eq_ok_iff]
  obtain ⟨summaries, hsummaries⟩ :=
    exists_mapM_eq_ok_iff.2 fun c (_ : c ∈ t.containers) => exists_containerSummary c
  exact ⟨_, _, ⟨summaries, hsummaries, rfl⟩, rfl⟩

theorem Page.exists_templateItems (p : Page) : ∃ items, p.templateItems = .ok items := by
  unfold templateItems
  split
  · exact exists_podTemplateItems _
  · exact ⟨[], rfl⟩

/-! ## Events -/

/-- The table of the events about an object. -/
def eventsTableOf (object : Reference) (events : List Event) : Table Component where
  title := "Events"
  columns := Table.columnsNamed eventColumns
  rows := (events.filter fun e => e.involves object).map Event.row
  emptyContent := "There are no events!"

/-- Only the store can keep events from being shown. -/
theorem eventsTable_eq (object : Reference) (o : PrintOptions) :
    eventsTable object o = (liftM (o.store.listAs Event
      { apiVersion := "v1", kind := "Event", inNamespace := object.inNamespace }) :
        Except PrintError _).map (eventsTableOf object) := by
  simp only [eventsTable]
  cases (liftM (o.store.listAs Event
      { apiVersion := "v1", kind := "Event", inNamespace := object.inNamespace }) :
        Except PrintError (List Event)) with
  | error e => rfl
  | ok events => exact liftM_view_eq_ok_iff.2 (Table.ofRows_map (fun _ => by rfl) _)

end ClusterView

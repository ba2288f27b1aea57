import ClusterView.Print.PluginList
import ClusterView.Proofs.Plugin.Declared
import ClusterView.Proofs.Plugin.Written
import ClusterView.Proofs.Print.Tables

/-!
# The list of declared plugins

Declarations may repeat a name, and then the last of them counts (`get?_registry_eq_some_iff`). The
list of plugins has a row for each name that is declared, in ascending order. A row shows what the
last declaration under its name says, and its capabilities are a text that is read back as what was
declared (`describePlugins_declared`).
-/

namespace ClusterView

open Outcome

namespace PluginDeclaration

/-! ## Last declarations -/

/-- Whether a declaration is the last one under a name. -/
def IsLastOf (declarations : List PluginDeclaration) (name : String) (d : PluginDeclaration) :
    Prop :=
  d.name = name ∧ ∃ earlier later, declarations = earlier ++ d :: later ∧
    ∀ e ∈ later, e.name ≠ name

variable {declarations : List PluginDeclaration} {name : String}

theorem exists_isLastOf_iff :
    (∃ d, IsLastOf declarations name d) ↔ ∃ d ∈ declarations, d.name = name := by
  constructor
  · rintro ⟨d, hname, earlier, later, rfl, -⟩
    exact ⟨d, by simp, hname⟩
  · intro h
    induction declarations with
    | nil => simp at h
    | cons d rest ih =>
      by_cases hrest : ∃ e ∈ rest, e.name = name
      · obtain ⟨e, hname, earlier, later, rfl, hlater⟩ := ih hrest
        exact ⟨e, hname, d :: earlier, later, rfl, hlater⟩
      · have hname : d.name = name := by simpa [hrest] using h
        exact ⟨d, hname, [], rest, rfl, fun e he hename => hrest ⟨e, he, hename⟩⟩

/-- The last call under a name is that of the last declaration. -/
theorem isLast_map_call_iff {p : Plugin} : IsLast (declarations.map call) name p ↔
    ∃ d, IsLastOf declarations name d ∧ d.toPlugin = p := by
  constructor
  · rintro ⟨earlier, later, heq, hlater⟩
    obtain ⟨before, rest, rfl, rfl, hrest⟩ := List.map_eq_append_iff.1 heq
    obtain ⟨d, after, rfl, hcall, rfl⟩ := List.map_eq_cons_iff.1 hrest
    obtain ⟨hname, hplugin⟩ := Prod.mk.inj hcall
    refine ⟨d, ⟨hname, before, after, rfl, fun e he hename => hlater ?_⟩, hplugin⟩
    exact List.mem_map.2 ⟨e.call, List.mem_map_of_mem he, hename⟩
  · rintro ⟨d, ⟨rfl, earlier, later, rfl, hlater⟩, rfl⟩
    refine ⟨earlier.map call, later.map call, by simp [call], ?_⟩
    simpa [call] using hlater

variable {r : PluginRegistry} (h : registry declarations = .ok r)
include h

/-- **Of the plugins that are declared under a name the last one counts.** -/
theorem get?_registry_eq_some_iff {p : Plugin} :
    r.get? name = some p ↔ ∃ d, IsLastOf declarations name d ∧ d.toPlugin = p := by
  obtain ⟨hnames, rfl⟩ := registry_eq_ok_iff.1 h
  rw [PluginRegistry.get?_ofCalls_eq_some_iff, isLast_map_call_iff, and_iff_right_iff_imp]
  rintro ⟨d, ⟨rfl, earlier, later, rfl, -⟩, -⟩
  exact hnames d (by simp)

theorem mem_names_registry_iff : name ∈ r.names ↔ ∃ d ∈ declarations, d.name = name := by
  have hsome : (r.get? name).isSome = true ↔ ∃ d, IsLastOf declarations name d := by
    rw [Option.isSome_iff_exists]
    simp only [get?_registry_eq_some_iff h]
    exact ⟨fun ⟨_, d, hd, _⟩ => ⟨d, hd⟩, fun ⟨d, hd⟩ => ⟨_, d, hd, rfl⟩⟩
  rw [← exists_isLastOf_iff, ← hsome]
  exact StringMap.mem_keys_iff

omit h

/-! ## Rows -/

/-- Whether a row shows a declaration: its name, its description, and a text that is read as its
capabilities. -/
def IsShownBy (d : PluginDeclaration) (row : Table.Row Component) : Prop :=
  let types := d.printer.filterMap GroupVersionKind.ofText?
  let capabilities : Capabilities :=
    { printerConfig := types, printerStatus := types, printerItems := types
      tab := if d.tab then types else [], isModule := d.isModule }
  ∃ text, Json.ReadsAs text capabilities ∧
    row = .ofCells [("Name", .text d.name), ("Description", .text d.description),
      ("Capabilities", .text text)]

theorem isShownBy_pluginRow (d : PluginDeclaration) : d.IsShownBy (pluginRow d.name d.metadata) :=
  ⟨_, Json.readsAs_compact d.metadata.capabilities, rfl⟩

end PluginDeclaration

/-- Whether a table lists declared plugins: it has a row for each name, in ascending order, that
shows the last declaration under the name. -/
structure Table.ListsPlugins (declarations : List PluginDeclaration) (table : Table Component) :
    Prop where
  title : table.title = "Plugins"
  columns : table.columns = Table.columnsNamed ["Name", "Description", "Capabilities"]
  rows : ∃ names : List String, names.Pairwise (· < ·) ∧
    (∀ name, name ∈ names ↔ ∃ d ∈ declarations, d.name = name) ∧
    List.Forall₂ (fun name row => ∃ d, PluginDeclaration.IsLastOf declarations name d ∧
      d.IsShownBy row) names table.rows

/-- The table of the plugins of a registry. -/
def pluginTableOf (r : PluginRegistry) : Table Component where
  title := "Plugins"
  columns := Table.columnsNamed ["Name", "Description", "Capabilities"]
  rows := r.plugins.entries.map fun e => pluginRow e.1 e.2.metadata
  emptyContent := ""

/-- The table of the plugins can always be made. -/
theorem describePlugins_eq (o : PrintOptions) : describePlugins o =
    .ok ⟨"Plugins", [.list (.titled "Plugins" [.table (pluginTableOf o.plugins.registry)])]⟩ := by
  have htable : pluginTable o.plugins.registry = .ok (pluginTableOf o.plugins.registry) :=
    liftM_view_eq_ok_iff.2 (Table.ofRows_map (fun _ => by rfl) _)
  rw [describePlugins, htable, ok_bind]
  rfl

theorem pluginTableOf_listsPlugins {declarations : List PluginDeclaration} {r : PluginRegistry}
    (h : PluginDeclaration.registry declarations = .ok r) :
    (pluginTableOf r).ListsPlugins declarations where
  title := rfl
  columns := rfl
  rows := by
    refine ⟨r.names, List.pairwise_map.2 r.plugins.ascending,
      fun name => PluginDeclaration.mem_names_registry_iff h, ?_⟩
    rw [pluginTableOf, PluginRegistry.names, StringMap.keys, List.forall₂_map_left_iff,
      List.forall₂_map_right_iff, List.forall₂_same]
    rintro ⟨name, p⟩ hentry
    obtain ⟨d, hlast, rfl⟩ :=
      (PluginDeclaration.get?_registry_eq_some_iff h).1 (StringMap.mem_entries_iff.1 hentry)
    obtain rfl := hlast.1
    exact ⟨d, hlast, d.isShownBy_pluginRow⟩

/-- **The list of plugins shows what is declared.** Declarations that all have names are stored, and
the list of plugins is one table, which lists them. -/
theorem describePlugins_declared {declarations : List PluginDeclaration}
    (hnames : ∀ d ∈ declarations, d.name ≠ "") :
    ∃ r, PluginDeclaration.registry declarations = .ok r ∧
      ∀ o : PrintOptions, ∃ table,
        describePlugins (o.withPlugins r) =
          .ok ⟨"Plugins", [.list (.titled "Plugins" [.table table])]⟩ ∧
        table.ListsPlugins declarations := by
  have hr := PluginDeclaration.registry_eq_ok_iff.2 ⟨hnames, rfl⟩
  exact ⟨_, hr, fun o => ⟨_, describePlugins_eq _, pluginTableOf_listsPlugins hr⟩⟩

/-- Three declarations under two names, the last one with a text that is no type. -/
def toolDeclarations : List PluginDeclaration :=
  [{ name := "scale", description := "first" }, { name := "audit", isModule := true },
    { name := "scale", description := "second"
      printer := ["apps/v1/Deployment", "nonsense"], tab := true }]

theorem describePlugins_toolDeclarations :
    (∀ d ∈ toolDeclarations, d.name ≠ "") ∧
      ∃ r, PluginDeclaration.registry toolDeclarations = .ok r ∧ r.names = ["audit", "scale"] ∧
        ∀ o : PrintOptions, ∃ table,
          describePlugins (o.withPlugins r) =
            .ok ⟨"Plugins", [.list (.titled "Plugins" [.table table])]⟩ ∧
          table.ListsPlugins toolDeclarations := by
  have hnames : ∀ d ∈ toolDeclarations, d.name ≠ "" := by decide
  obtain ⟨r, hr, htable⟩ := describePlugins_declared hnames
  obtain ⟨-, rfl⟩ := PluginDeclaration.registry_eq_ok_iff.1 hr
  exact ⟨hnames, _, hr, rfl, htable⟩

end ClusterView

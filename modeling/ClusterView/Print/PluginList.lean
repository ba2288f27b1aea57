import ClusterView.Json.Printer
import ClusterView.Print.Basic
import ClusterView.View.Encoding

/-!
# The list of plugins
-/

namespace ClusterView

/-- Components under a common title. -/
structure TitledContent where
  title : String
  components : List Component

/-- The written form of components under a common title. -/
def TitledContent.toJson (c : TitledContent) : Json :=
  .object [("title", .string c.title), ("components", .array (Component.listToJson c.components))]

/-- The row of a plugin: the name under which it is stored, its description and its capabilities. -/
def pluginRow (name : String) (m : PluginMetadata) : Table.Row Component :=
  .ofCells [("Name", .text name), ("Description", .text m.description),
    ("Capabilities", .text (encode m.capabilities).compact)]

/-- The table of the plugins of a registry, in the order of their names. -/
def pluginTable (r : PluginRegistry) : Except PrintError (Table Component) :=
  liftM (Table.ofRows "Plugins" "" (Table.columnsNamed ["Name", "Description", "Capabilities"])
    (r.plugins.entries.map fun e => pluginRow e.1 e.2.metadata))

/-- The list of the plugins. -/
def describePlugins (o : PrintOptions) : Except PrintError TitledContent := do
  let table ← pluginTable o.plugins.registry
  return ⟨"Plugins", [.list (.titled "Plugins" [.table table])]⟩

end ClusterView

import ClusterView.Plugin.Registry

/-!
# Declared plugins

The configuration declares plugins by name, with the types for which they print. A declared plugin
is known by its metadata only.
-/

namespace ClusterView

open Json

/-- A plugin as the configuration declares it. -/
structure PluginDeclaration where
  name : String
  description : String := ""
  /-- The command that starts the plugin. -/
  command : String := ""
  /-- The texts of the types that the plugin prints for. -/
  printer : List String := []
  /-- Whether the plugin adds a tab to these types. -/
  tab : Bool := false
  /-- Whether the plugin has views of its own. -/
  isModule : Bool := false
deriving DecidableEq

instance : JsonDecode PluginDeclaration where
  decode? j := do
    let f ← fieldsNamed? ["name", "description", "command", "printer", "tab", "module"] j
    let name ← required? f "name"
    let description ← ifMissing? "" f "description"
    let command ← ifMissing? "" f "command"
    let printer ← ifMissing? [] f "printer"
    let tab ← ifMissing? false f "tab"
    let isModule ← ifMissing? false f "module"
    some { name, description, command, printer, tab, isModule }

namespace PluginDeclaration

/-- The metadata of a declared plugin. Texts that name no type are passed over. -/
def metadata (d : PluginDeclaration) : PluginMetadata :=
  let types := d.printer.filterMap GroupVersionKind.ofText?
  { name := d.name
    description := d.description
    capabilities :=
      { printerConfig := types
        printerStatus := types
        printerItems := types
        tab := if d.tab then types else []
        isModule := d.isModule } }

/-- The plugin of a declaration, which adds nothing to pages. -/
def toPlugin (d : PluginDeclaration) : Plugin := ⟨.silent, d.metadata, d.command⟩

/-- Stores declared plugins in order; the first without a name decides. -/
def registry (declarations : List PluginDeclaration) : Except PluginError PluginRegistry :=
  declarations.foldlM (fun r d => r.store d.name d.toPlugin) .empty

end PluginDeclaration

end ClusterView

import ClusterView.Plugin.Service

/-!
# Registries of plugins

A registry holds plugins under their names. A plugin stored under a name that is taken replaces the
one there. `PluginRegistry.content` asks the plugins that cover the type of an object, in the order
of their names, and puts their contents together.
-/

namespace ClusterView

/-- A plugin with what is known about it. -/
structure Plugin where
  service : PluginService
  metadata : PluginMetadata
  command : String

/-- Plugins under their names. -/
structure PluginRegistry where
  plugins : StringMap Plugin := ∅

namespace PluginRegistry

/-- The registry without plugins. -/
def empty : PluginRegistry := {}

/-- Stores a plugin under a name, which must not be empty. -/
def store (r : PluginRegistry) (name : String) (plugin : Plugin) :
    Except PluginError PluginRegistry :=
  if name = "" then .error .emptyName else .ok ⟨r.plugins.insert name plugin⟩

/-- The names of the plugins, ascending. -/
def names (r : PluginRegistry) : List String := r.plugins.keys

/-- The number of plugins. -/
def size (r : PluginRegistry) : Nat := r.plugins.size

/-- The plugin under a name. -/
def get? (r : PluginRegistry) (name : String) : Option Plugin := r.plugins.get? name

/-- What is known about each plugin, in the order of their names. -/
def metadata (r : PluginRegistry) : List PluginMetadata := r.plugins.values.map (·.metadata)

/-- The plugins that add to the page of an object, in the order of their names. -/
def covering (r : PluginRegistry) (object : Reference) : List Plugin :=
  r.plugins.values.filter fun p => p.metadata.capabilities.covers object.apiVersion object.kind

/-- What the plugins add to the page of an object; the first that fails decides. -/
def content (r : PluginRegistry) (object : Object) : Except PluginError PluginContent :=
  (r.covering (.ofObject object)).foldlM
    (fun c p => (p.service.content object).map (c ++ ·)) ({} : PluginContent)

end PluginRegistry

/-- The access of printers to plugins. -/
structure PluginManager where
  registry : PluginRegistry
  /-- What the plugins add to the page of an object. -/
  content : Object → Except PluginError PluginContent

/-- The manager that asks the plugins of a registry. -/
def PluginRegistry.toManager (r : PluginRegistry) : PluginManager := ⟨r, r.content⟩

end ClusterView

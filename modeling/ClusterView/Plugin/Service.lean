import ClusterView.Plugin.Capabilities
import ClusterView.View.Component

/-!
# What plugins add to pages
-/

namespace ClusterView

/-- What plugins add to the page of an object. -/
structure PluginContent where
  /-- Sections of the configuration. -/
  config : List (Summary.Section Component) := []
  /-- Sections of the status. -/
  status : List (Summary.Section Component) := []
  /-- Items of the page. -/
  items : List (Layout.Item Component) := []

namespace PluginContent

/-- The contents of one and then those of the other. -/
def append (a b : PluginContent) : PluginContent :=
  ⟨a.config ++ b.config, a.status ++ b.status, a.items ++ b.items⟩

instance : Append PluginContent := ⟨append⟩

/-- Whether nothing is added. -/
def isEmpty (c : PluginContent) : Bool := c.config.isEmpty && c.status.isEmpty && c.items.isEmpty

end PluginContent

/-- Why plugins have no answer. -/
inductive PluginError where
  /-- A plugin is stored under no name. -/
  | emptyName
  /-- A plugin failed on an object. -/
  | failed (name message : String)
deriving DecidableEq

/-- The text of the error. -/
def PluginError.message : PluginError → String
  | .emptyName => "plugin name cannot be empty"
  | .failed name message => "plugin '" ++ name ++ "' failed to print: " ++ message

/-- A plugin at work: what it adds to the page of an object. -/
structure PluginService where
  content : Object → Except PluginError PluginContent

/-- The service of a plugin of which only the metadata is known. It adds nothing. -/
def PluginService.silent : PluginService := ⟨fun _ => .ok {}⟩

end ClusterView

import ClusterView.Plugin.GroupVersionKind

/-!
# What plugins can do

A plugin reports its name, a description and its capabilities: the types for which it adds to pages,
and what else it offers. When capabilities are read, what is missing is empty or off.
-/

namespace ClusterView

open Json

/-- What a plugin is able to do. -/
structure Capabilities where
  /-- The types whose configuration it adds to. -/
  printerConfig : List GroupVersionKind := []
  /-- The types whose status it adds to. -/
  printerStatus : List GroupVersionKind := []
  /-- The types to whose pages it adds items. -/
  printerItems : List GroupVersionKind := []
  /-- The types whose state it reports. -/
  objectStatus : List GroupVersionKind := []
  /-- The types to which it adds a tab. -/
  tab : List GroupVersionKind := []
  /-- Whether it has views of its own. -/
  isModule : Bool := false
  actionNames : List String := []
deriving DecidableEq, Inhabited

namespace Capabilities

/-- Whether the plugin adds to the pages of a type. -/
def covers (c : Capabilities) (apiVersion kind : String) : Bool :=
  (c.printerConfig ++ c.printerStatus ++ c.printerItems).any fun g => g.isType apiVersion kind

end Capabilities

instance : JsonDecode Capabilities where
  decode? j := do
    let f ← fieldsNamed? ["supportsPrinterConfig", "supportsPrinterStatus", "supportsPrinterItems",
      "supportsObjectStatus", "supportsTab",
      "isModule", "actionNames"] j
    let printerConfig ← ifMissing? [] f "supportsPrinterConfig"
    let printerStatus ← ifMissing? [] f "supportsPrinterStatus"
    let printerItems ← ifMissing? [] f "supportsPrinterItems"
    let objectStatus ← ifMissing? [] f "supportsObjectStatus"
    let tab ← ifMissing? [] f "supportsTab"
    let isModule ← ifMissing? false f "isModule"
    let actionNames ← ifMissing? [] f "actionNames"
    some { printerConfig, printerStatus, printerItems, objectStatus, tab, isModule, actionNames }

instance : JsonEncode Capabilities where
  encode c := record [requiredField "supportsPrinterConfig" c.printerConfig,
    requiredField "supportsPrinterStatus" c.printerStatus,
    requiredField "supportsPrinterItems" c.printerItems,
    requiredField "supportsObjectStatus" c.objectStatus, requiredField "supportsTab" c.tab,
    requiredField "isModule" c.isModule, requiredField "actionNames" c.actionNames]

/-- What a plugin reports about itself. -/
structure PluginMetadata where
  name : String
  description : String := ""
  capabilities : Capabilities := {}
deriving DecidableEq

instance : JsonDecode PluginMetadata where
  decode? j := do
    let f ← fieldsNamed? ["name", "description", "capabilities"] j
    let name ← required? f "name"
    let description ← ifMissing? "" f "description"
    let capabilities ← ifMissing? {} f "capabilities"
    some { name, description, capabilities }

instance : JsonEncode PluginMetadata where
  encode m := record [requiredField "name" m.name, requiredField "description" m.description,
    requiredField "capabilities" m.capabilities]

end ClusterView

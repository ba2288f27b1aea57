import ClusterView.Plugin.Declaration
import ClusterView.Yaml.Alias
import ClusterView.Yaml.Printer
import ClusterView.Yaml.Scalar

/-!
# Configurations

A configuration is written as a record of all of its fields; empty lists are left out. When it is
read, a field that is missing has its default, and fields that are not known are passed over. Texts
are read from scalars of any kind as they are written.
-/

namespace ClusterView

/-- What a user can set. -/
structure Config where
  /-- The namespace of objects whose manifests name none. -/
  inNamespace : String := "default"
  /-- What the paths of all links begin with. -/
  linkPrefix : String := "/overview"
  /-- Whether lists have a column of labels. -/
  showLabels : Bool := true
  /-- Whether pages show events. -/
  events : Bool := true
  plugins : List PluginDeclaration := []
deriving DecidableEq

open Yaml

/-! ## Writing -/

/-- A field with a list, left out if the list is empty. -/
def listField (name : String) (items : List Tree) : List (String × Tree) :=
  if items.isEmpty then [] else [(name, .list items)]

/-- The written form of a declared plugin. -/
def PluginDeclaration.toTree (d : PluginDeclaration) : Tree :=
  .record ([("name", .text d.name), ("description", .text d.description),
    ("command", .text d.command)] ++ listField "printer" (d.printer.map .text) ++
    [("tab", .flag d.tab), ("module", .flag d.isModule)])

/-- The written form of a configuration. -/
def Config.toTree (c : Config) : Tree :=
  .record ([("namespace", .text c.inNamespace), ("link_prefix", .text c.linkPrefix),
    ("show_labels", .flag c.showLabels), ("events", .flag c.events)] ++
    listField "plugins" (c.plugins.map PluginDeclaration.toTree))

/-- The text of a configuration. -/
def Config.toText (c : Config) : String := c.toTree.toText

/-! ## Nodes of a configuration -/

/-- The text of a scalar. -/
def Yaml.Node.text (n : Node) : Resolver String := do
  match ← n.followed with
  | .scalar s _ => return s
  | _ => failure

/-- The truth value of a plain scalar. -/
def Yaml.Node.flag (n : Node) : Resolver Bool := do
  match ← n.followed with
  | .scalar s true => liftM (bool? s)
  | _ => failure

/-- The items of a sequence; where nothing is written there are none. -/
def Yaml.Node.items (n : Node) : Resolver (List Node) := do
  match ← n.followed with
  | .sequence items => return items
  | .scalar "" true => return []
  | _ => failure

/-- The entries of a mapping; where nothing is written there are none. -/
def Yaml.Node.entries (n : Node) : Resolver (List (Node × Node)) := do
  match ← n.followed with
  | .mapping entries => return entries
  | .scalar "" true => return []
  | _ => failure

/-- The fields of a record, whose keys are scalars. A field that is known may stand only once. -/
def Yaml.Node.fields (known : List String) (n : Node) : Resolver (List (String × Node)) := do
  let fields ← (← n.entries).mapM fun e => do return (← e.1.text, e.2)
  if known.any fun name => 1 < fields.countP fun f => f.1 == name then failure
  return fields

/-- Reads a field that has a default. -/
def Yaml.Node.fieldOr {α : Type} (fields : List (String × Node)) (name : String) (default : α)
    (read : Node → Resolver α) : Resolver α :=
  match fields.lookup name with
  | none => return default
  | some n => read n

/-! ## Reading -/

/-- Reads a declared plugin, which has to have a name. -/
def PluginDeclaration.ofNode (n : Node) : Resolver PluginDeclaration := do
  let f ← n.fields ["name", "description", "command", "printer", "tab", "module"]
  let some name := f.lookup "name" | failure
  let name ← name.text
  let description ← Node.fieldOr f "description" "" Node.text
  let command ← Node.fieldOr f "command" "" Node.text
  let printer ← Node.fieldOr f "printer" [] fun n => do (← n.items).mapM Node.text
  let tab ← Node.fieldOr f "tab" false Node.flag
  let isModule ← Node.fieldOr f "module" false Node.flag
  return { name, description, command, printer, tab, isModule }

/-- Reads a configuration. -/
def Config.ofNode (n : Node) : Resolver Config := do
  let f ← n.fields ["namespace", "link_prefix", "show_labels", "events", "plugins"]
  let c : Config := {}
  let inNamespace ← Node.fieldOr f "namespace" c.inNamespace Node.text
  let linkPrefix ← Node.fieldOr f "link_prefix" c.linkPrefix Node.text
  let showLabels ← Node.fieldOr f "show_labels" c.showLabels Node.flag
  let events ← Node.fieldOr f "events" c.events Node.flag
  let plugins ← Node.fieldOr f "plugins" c.plugins fun n => do
    (← n.items).mapM PluginDeclaration.ofNode
  return { inNamespace, linkPrefix, showLabels, events, plugins }

/-- Reads the configuration of a text, which is a single document. -/
def Config.ofText? (text : String) : Option Config :=
  match Document.ofText text with
  | [some d] => d.resolve? Config.ofNode
  | _ => none

end ClusterView

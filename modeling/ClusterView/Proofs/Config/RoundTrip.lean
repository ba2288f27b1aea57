import ClusterView.Config.File
import ClusterView.Proofs.Yaml.Nodes

/-!
# Configurations that are read back

The text of a configuration is read as the same configuration (`Config.ofText?_toText`), whatever
its texts are. A field that is left out when it is written has its default when it is read.
-/

namespace ClusterView

open Yaml

/-! ## Nodes without aliases -/

namespace Yaml.Node

theorem text_scalar (s : String) (isPlain : Bool) :
    (Node.scalar s isPlain).text = (pure s : Resolver String) := rfl

theorem flag_scalar (value : Bool) :
    (Node.scalar (if value then "true" else "false") true).flag = (pure value : Resolver Bool) := by
  cases value <;> rfl

theorem items_sequence (items : List Node) :
    (Node.sequence items).items = (pure items : Resolver (List Node)) := rfl

theorem mapM_itemNodes {α : Type} (read : Node → Resolver α) (write : α → Tree)
    (h : ∀ a, read (write a).node = pure a) (values : List α) :
    (Tree.itemNodes (values.map write)).mapM read = pure values := by
  induction values with
  | nil => rfl
  | cons a rest ih => simp [Tree.itemNodes, h, ih]

theorem mapM_fieldNodes (fields : List (String × Tree)) :
    (Tree.fieldNodes fields).mapM (fun e => do return (← e.1.text, e.2)) =
      (pure (fields.map fun f => (f.1, f.2.node)) : Resolver (List (String × Node))) := by
  induction fields with
  | nil => rfl
  | cons f rest ih =>
    obtain ⟨name, value⟩ := f
    rw [Tree.fieldNodes, List.mapM_cons, ih]
    rfl

/-- The fields of a record are read by their names if each name is known and stands once. -/
theorem fields_record {known : List String} (hknown : known.Nodup) {fields : List (String × Tree)}
    (hfields : (fields.map (·.1)).Sublist known) :
    Node.fields known (Tree.record fields).node =
      (pure (fields.map fun f => (f.1, f.2.node)) : Resolver (List (String × Node))) := by
  have hcount : (known.any fun name =>
      decide (1 < (fields.map fun f => (f.1, f.2.node)).countP fun f => f.1 == name)) = false := by
    rw [List.any_eq_false]
    intro name _
    have hle := List.nodup_iff_count.1 (hknown.sublist hfields) name
    rw [List.count, List.countP_map] at hle
    rw [List.countP_map]
    simpa [Function.comp_def] using hle
  have hentries : (Tree.record fields).node.entries =
      (pure (Tree.fieldNodes fields) : Resolver (List (Node × Node))) := rfl
  rw [Node.fields, hentries, pure_bind, mapM_fieldNodes, pure_bind, hcount]
  rfl

end Yaml.Node

/-! ## Fields -/

/-- Whether a field is written with a key and a value that can be read. -/
def IsKeyedField (f : String × Tree) : Prop := isKeyText f.1.toList = true ∧ f.2.Keyed

theorem isKeyedField {name : String} {t : Tree} (hname : isKeyText name.toList = true)
    (h : t.Keyed) : IsKeyedField (name, t) := ⟨hname, h⟩

theorem keyed_record {fields : List (String × Tree)} (h : ∀ f ∈ fields, IsKeyedField f) :
    (Tree.record fields).Keyed :=
  .record (fun f hf => (h f hf).1) fun f hf => (h f hf).2

theorem isKeyedField_listField {name : String} {items : List Tree}
    (hname : isKeyText name.toList = true) (h : ∀ t ∈ items, t.Keyed) :
    ∀ f ∈ listField name items, IsKeyedField f := by
  unfold listField
  split
  · simp
  · simpa [IsKeyedField, hname] using Tree.Keyed.list h

theorem names_listField (name : String) (items : List Tree) :
    ((listField name items).map (·.1)).Sublist [name] := by
  unfold listField
  split
  · exact List.nil_sublist _
  · exact List.Sublist.refl _

/-! ## Plugins -/

namespace PluginDeclaration

/-- The fields of a declared plugin as they are written. -/
def fields (d : PluginDeclaration) : List (String × Tree) :=
  [("name", .text d.name), ("description", .text d.description), ("command", .text d.command)] ++
    listField "printer" (d.printer.map .text) ++
    [("tab", .flag d.tab), ("module", .flag d.isModule)]

theorem keyed_toTree (d : PluginDeclaration) : d.toTree.Keyed := by
  have hprinter : ∀ f ∈ listField "printer" (d.printer.map .text), IsKeyedField f :=
    isKeyedField_listField (by decide) (by simpa using fun s _ => Tree.Keyed.text s)
  refine keyed_record (List.forall_mem_append.2 ⟨List.forall_mem_append.2 ⟨?_, hprinter⟩, ?_⟩)
  · simp only [List.forall_mem_cons]
    exact ⟨isKeyedField (by decide) (.text _), isKeyedField (by decide) (.text _),
      isKeyedField (by decide) (.text _), nofun⟩
  · simp only [List.forall_mem_cons]
    exact ⟨isKeyedField (by decide) (.flag _), isKeyedField (by decide) (.flag _), nofun⟩

theorem names_fields (d : PluginDeclaration) : (d.fields.map (·.1)).Sublist
    ["name", "description", "command", "printer", "tab", "module"] := by
  rw [fields, List.map_append, List.map_append]
  exact ((List.Sublist.refl ["name", "description", "command"]).append
    (names_listField "printer" _)).append (List.Sublist.refl ["tab", "module"])

/-- A declared plugin is read back from its node. -/
theorem ofNode_toTree (d : PluginDeclaration) : ofNode d.toTree.node = pure d := by
  have hprinter : (Tree.itemNodes (d.printer.map .text)).mapM Node.text =
      (pure d.printer : Resolver (List String)) :=
    Node.mapM_itemNodes Node.text .text (fun s => Node.text_scalar s _) d.printer
  have hrecord : d.toTree = .record d.fields := rfl
  rw [ofNode, hrecord, Node.fields_record (by decide) d.names_fields, pure_bind]
  obtain ⟨name, description, command, printer, tab, isModule⟩ := d
  -- An empty list is left out, and a list that is missing is empty.
  cases printer with
  | nil =>
    simp [fields, listField, List.lookup_cons, Node.fieldOr, Yaml.Tree.node, Node.text_scalar,
      Node.flag_scalar]
  | cons type more =>
    rw [List.map_cons] at hprinter
    simp [fields, listField, List.lookup_cons, Node.fieldOr, Yaml.Tree.node, Node.text_scalar,
      Node.flag_scalar, Node.items_sequence, hprinter]

end PluginDeclaration

/-! ## Configurations -/

namespace Config

/-- The fields of a configuration as they are written. -/
def fields (c : Config) : List (String × Tree) :=
  [("namespace", .text c.inNamespace), ("link_prefix", .text c.linkPrefix),
    ("show_labels", .flag c.showLabels), ("events", .flag c.events)] ++
    listField "plugins" (c.plugins.map PluginDeclaration.toTree)

theorem keyed_toTree (c : Config) : c.toTree.Keyed := by
  have hplugins : ∀ f ∈ listField "plugins" (c.plugins.map PluginDeclaration.toTree),
      IsKeyedField f :=
    isKeyedField_listField (by decide) (by simpa using fun d _ => d.keyed_toTree)
  refine keyed_record (List.forall_mem_append.2 ⟨?_, hplugins⟩)
  simp only [List.forall_mem_cons]
  exact ⟨isKeyedField (by decide) (.text _), isKeyedField (by decide) (.text _),
    isKeyedField (by decide) (.flag _), isKeyedField (by decide) (.flag _), nofun⟩

theorem names_fields (c : Config) : (c.fields.map (·.1)).Sublist
    ["namespace", "link_prefix", "show_labels", "events", "plugins"] := by
  rw [fields, List.map_append]
  exact (List.Sublist.refl ["namespace", "link_prefix", "show_labels", "events"]).append
    (names_listField "plugins" _)

/-- A configuration is read back from its node. -/
theorem ofNode_toTree (c : Config) : ofNode c.toTree.node = pure c := by
  have hplugins : (Tree.itemNodes (c.plugins.map PluginDeclaration.toTree)).mapM
      PluginDeclaration.ofNode = (pure c.plugins : Resolver (List PluginDeclaration)) :=
    Node.mapM_itemNodes _ _ PluginDeclaration.ofNode_toTree c.plugins
  have hrecord : c.toTree = .record c.fields := rfl
  rw [ofNode, hrecord, Node.fields_record (by decide) c.names_fields, pure_bind]
  obtain ⟨inNamespace, linkPrefix, showLabels, events, plugins⟩ := c
  cases plugins with
  | nil =>
    simp [fields, listField, List.lookup_cons, Node.fieldOr, Yaml.Tree.node, Node.text_scalar,
      Node.flag_scalar]
  | cons plugin more =>
    rw [List.map_cons] at hplugins
    simp [fields, listField, List.lookup_cons, Node.fieldOr, Yaml.Tree.node, Node.text_scalar,
      Node.flag_scalar, Node.items_sequence, hplugins]

/-- A configuration is read back from its text. -/
theorem ofText?_toText (c : Config) : ofText? c.toText = some c := by
  have htext : Document.ofText c.toText = [some ⟨c.toTree.node, #[]⟩] :=
    Document.ofText_toText c.keyed_toTree trivial
  rw [ofText?, htext]
  simp only [Document.resolve?, ofNode_toTree]
  rfl

theorem parse_toText (c : Config) : parse c.toText = .ok c := by
  rw [parse, ofText?_toText]

end Config

end ClusterView

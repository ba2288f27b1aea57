import ClusterView.Plugin.Declaration
import ClusterView.Proofs.Plugin.Merging
import ClusterView.Proofs.Print.Switches
import ClusterView.Proofs.Secret.Concealed

/-!
# Declared plugins

Declared plugins are stored by one call after the other, and all calls succeed exactly if each
declaration has a name (`registry_eq_ok_iff`). Plugins that cover the type of an object are asked,
but a declared plugin is known by its metadata only and adds nothing (`content_of_registry`). What
printers take from plugins is what they add, so objects and lists are printed as if nothing had been
declared (`declared_printsAsEmpty`).
-/

namespace ClusterView

open Outcome

/-! ## Calls of declarations -/

/-- The last plugin under a name was stored by one of the calls. -/
theorem IsLast.mem {calls : List (String × Plugin)} {name : String} {p : Plugin}
    (h : IsLast calls name p) : (name, p) ∈ calls := by
  obtain ⟨earlier, later, rfl, -⟩ := h
  simp

namespace PluginDeclaration

/-- The call that stores the plugin of a declaration. -/
def call (d : PluginDeclaration) : String × Plugin := (d.name, d.toPlugin)

theorem store_eq (r : PluginRegistry) (d : PluginDeclaration) : r.store d.name d.toPlugin =
    if d.name = "" then .error .emptyName else .ok (r.afterCall d.call) := by
  by_cases hname : d.name = ""
  · rw [if_pos hname, hname, r.store_unnamed]
  · rw [if_neg hname, call, r.afterCall_named hname, PluginRegistry.store, if_neg hname]

variable {declarations : List PluginDeclaration} {r : PluginRegistry}

theorem foldlM_store_eq_ok_iff {start : PluginRegistry} :
    declarations.foldlM (fun r d => r.store d.name d.toPlugin) start = .ok r ↔
      (∀ d ∈ declarations, d.name ≠ "") ∧
        r = (declarations.map call).foldl PluginRegistry.afterCall start := by
  induction declarations generalizing start with
  | nil =>
    rw [List.foldlM_nil, pure_eq_ok_iff]
    exact ⟨fun h => ⟨List.forall_mem_nil _, h.symm⟩, fun h => h.2.symm⟩
  | cons d rest ih =>
    rw [List.foldlM_cons, store_eq, List.map_cons, List.foldl_cons, List.forall_mem_cons]
    by_cases hname : d.name = ""
    · rw [if_pos hname, error_bind]
      exact ⟨fun h => (nomatch h), fun h => absurd hname h.1.1⟩
    · rw [if_neg hname, ok_bind, ih, and_assoc]
      exact (and_iff_right hname).symm

/-- Declared plugins are stored exactly if all of them have names. -/
theorem registry_eq_ok_iff : registry declarations = .ok r ↔
    (∀ d ∈ declarations, d.name ≠ "") ∧ r = .ofCalls (declarations.map call) :=
  foldlM_store_eq_ok_iff

/-- A plugin that was declared is known by its metadata only. -/
theorem service_of_registry (h : registry declarations = .ok r) :
    ∀ p ∈ r.plugins.values, p.service = .silent := by
  obtain ⟨-, rfl⟩ := registry_eq_ok_iff.1 h
  intro p hp
  obtain ⟨⟨name, _⟩, hentry, rfl⟩ := List.mem_map.1 hp
  have hlast := (PluginRegistry.get?_ofCalls_eq_some_iff.1 (StringMap.mem_entries_iff.1 hentry)).2
  obtain ⟨d, -, hcall⟩ := List.mem_map.1 hlast.mem
  obtain ⟨rfl, rfl⟩ := Prod.mk.inj hcall
  rfl

end PluginDeclaration

/-! ## Printing with plugins -/

/-- The options with the plugins of a registry. -/
def PrintOptions.withPlugins (o : PrintOptions) (r : PluginRegistry) : PrintOptions :=
  { o with plugins := r.toManager }

/-- Lists are printed without plugins. -/
theorem printList_withPlugins (o : PrintOptions) (r r' : PluginRegistry) (apiVersion kind : String)
    (objects : List Object) : printList (o.withPlugins r) apiVersion kind objects =
      printList (o.withPlugins r') apiVersion kind objects :=
  rfl

/-- Of its plugins a printer sees nothing but what they add. -/
theorem PrintableKind.print_withPlugins (k : PrintableKind) (o : PrintOptions) (x : Object)
    {r r' : PluginRegistry} (h : r.content = r'.content) :
    k.print (o.withPlugins r) x = k.print (o.withPlugins r') x := by
  have hcontent (manager : PluginManager) : k.print { o with plugins := manager } x =
      k.print { o with plugins := ⟨.empty, manager.content⟩ } x := by
    cases k <;> rfl
  rw [PrintOptions.withPlugins, PrintOptions.withPlugins, hcontent r.toManager,
    hcontent r'.toManager]
  simp only [PluginRegistry.toManager, h]

theorem printObject_withPlugins (o : PrintOptions) (input : Option Object) {r r' : PluginRegistry}
    (h : r.content = r'.content) :
    printObject (o.withPlugins r) input = printObject (o.withPlugins r') input :=
  printObject_congr fun x k _ _ => k.print_withPlugins o x h

/-- Whether objects and lists are printed with the plugins of a registry as without any, under all
other options. -/
structure PluginRegistry.PrintsAsEmpty (r : PluginRegistry) : Prop where
  object : ∀ (o : PrintOptions) input,
    printObject (o.withPlugins r) input = printObject (o.withPlugins .empty) input
  list : ∀ (o : PrintOptions) apiVersion kind objects,
    printList (o.withPlugins r) apiVersion kind objects =
      printList (o.withPlugins .empty) apiVersion kind objects

namespace PluginDeclaration

/-- Declared plugins add nothing, as no plugins do. -/
theorem content_of_registry {declarations : List PluginDeclaration} {r : PluginRegistry}
    (h : registry declarations = .ok r) : r.content = PluginRegistry.empty.content :=
  funext fun x => PluginRegistry.content_of_silent (service_of_registry h) x

/-- **Declared plugins add metadata only.** They are stored exactly if all of them have names, and
then everything is printed as without plugins. -/
theorem declared_printsAsEmpty (declarations : List PluginDeclaration) :
    ((∃ r, registry declarations = .ok r) ↔ ∀ d ∈ declarations, d.name ≠ "") ∧
      ∀ r, registry declarations = .ok r → r.PrintsAsEmpty := by
  constructor
  · constructor
    · rintro ⟨r, hr⟩
      exact (registry_eq_ok_iff.1 hr).1
    · intro hnames
      exact ⟨_, registry_eq_ok_iff.2 ⟨hnames, rfl⟩⟩
  · intro r hr
    exact ⟨fun o input => printObject_withPlugins o input (content_of_registry hr),
      fun o => printList_withPlugins o r .empty⟩

end PluginDeclaration

end ClusterView

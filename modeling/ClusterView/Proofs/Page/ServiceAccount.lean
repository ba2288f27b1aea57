import ClusterView.Print.ServiceAccount
import ClusterView.Link.Path
import ClusterView.Proofs.Access.Granted
import ClusterView.Proofs.Page.Sections

/-!
# The page of a service account as a page of an object

Service accounts are laid out by steps of their own: the table of rules gets a section for itself
and the items of plugins are packed below it (`ServiceAccountPage.layout_eq`). An object whose only
item is that table has it packed together with the items of plugins (`layout_page_eq`). Since the
table has the full width, both end up with the same sections: `layout_eq_layout_page`.
-/

namespace ClusterView

namespace ServiceAccountPage

open Outcome

/-- The page of an object with a configuration, the table of rules as its only item and neither
status nor pod template nor events. -/
def page (p : ServiceAccountPage) (a : ServiceAccount) (o : PrintOptions)
    (config : Summary Component) : Page :=
  { Page.ofResource a with
    config := some config
    items := [⟨.full, (p.rules a o.store).map .table⟩] }

/-- The sections of a service account, from the top: its configuration and the status that plugins
add side by side, its metadata, its rules, and the items of plugins. -/
def laidOut (added : PluginContent) (config metadata : Summary Component)
    (rules : Table Component) : Layout Component :=
  ⟨"Summary", Page.summarySections (config.add added.config ::
      (Page.withPlugins none "Status" added.status).toList) ++
    Page.sectionOf .half (.summary metadata) :: Page.sectionOf .full (.table rules) ::
      Layout.packed .empty added.items⟩

variable (p : ServiceAccountPage) (a : ServiceAccount) (o : PrintOptions)

theorem layout_eq : p.layout a o = do
    let added ← o.plugins.content (Resource.toObject a)
    let config ← p.configuration a o
    let metadata ← metadataSummary (.ofResource a) a.metadata o
    let rules ← p.rules a o.store
    return laidOut added config metadata rules := by
  unfold layout
  refine bind_congr fun added => bind_congr fun config => ?_
  have hstatus : (if added.status.isEmpty then [] else [Summary.ofSections "Status" added.status]) =
      (Page.withPlugins none "Status" added.status).toList := by
    unfold Page.withPlugins
    cases added.status <;> rfl
  have htop := Page.summarySection_eq_ok
    (Page.length_toList_append_le (some (config.add added.config))
      (Page.withPlugins none "Status" added.status))
  rw [hstatus]
  refine (congrArg (· >>= _) htop).trans ?_
  rfl

/-- The rules are made after the metadata, and they are packed before the items of plugins. -/
theorem layout_page_eq (config : Summary Component) : (p.page a o config).layout o = do
    let added ← o.plugins.content (Resource.toObject a)
    let metadata ← metadataSummary (.ofResource a) a.metadata o
    let rules ← p.rules a o.store
    return laidOut added config metadata rules := by
  rw [Page.layout_eq]
  refine bind_congr fun added => bind_congr fun metadata => ?_
  have hitems : Page.makeItems (p.page a o config).items = do
      let rules ← p.rules a o.store
      return [⟨.full, .table rules⟩] := by
    simp only [page, Page.makeItems, List.mapM_cons, List.mapM_nil]
    cases p.rules a o.store <;> rfl
  rw [hitems, bind_assoc]
  refine bind_congr fun rules => ?_
  have hpacked : Layout.packed .empty (⟨.full, .table rules⟩ :: added.items) =
      Page.sectionOf .full (.table rules) :: Layout.packed .empty added.items :=
    Layout.packed_cons_full rfl added.items
  -- There is no pod template and there are no events, so nothing comes below the packed items.
  have hsections : [Page.sectionOf .half (.summary metadata)] ++
      Layout.packed .empty (⟨.full, .table rules⟩ :: added.items) ++
        Layout.packed .empty [] ++ [] =
      Page.sectionOf .half (.summary metadata) :: Page.sectionOf .full (.table rules) ::
        Layout.packed .empty added.items := by
    rw [hpacked, Layout.packed_empty_nil, List.append_nil, List.append_nil]
    rfl
  let top := Page.summarySections (config.add added.config ::
    (Page.withPlugins none "Status" added.status).toList)
  exact congrArg (fun sections => Except.ok (Layout.mk "Summary" (top ++ sections))) hsections

variable {p a o}

/-- **The page of a service account is the page of an object.** Whatever plugins add and however the
configuration and the rules are made, once there is a configuration both are laid out alike or fail
with the same error. -/
theorem layout_eq_layout_page {config : Summary Component}
    (hconfig : p.configuration a o = .ok config) :
    p.layout a o = (p.page a o config).layout o := by
  rw [layout_eq, layout_page_eq, hconfig]
  rfl

/-- Options with a plugin that adds a status and two items to every page. -/
def pluggedOptions : PrintOptions where
  store := builderStore.toObjectStore
  link := pathLinks "/overview"
  plugins := ⟨.empty, fun _ => .ok
    { status := [.ofText "Usage" "low"], items := [⟨.half, .text "cpu"⟩, ⟨.half, .text "memory"⟩] }⟩

/-- The rules of `builder` are above the two items of the plugin. -/
theorem layout_page_builder :
    let p : ServiceAccountPage := {}
    let config : Summary Component := .ofSections "Configuration" []
    p.configuration builder pluggedOptions = .ok config ∧
      p.layout builder pluggedOptions =
        (p.page builder pluggedOptions config).layout pluggedOptions ∧
      (p.layout builder pluggedOptions).map (fun l => l.sections.map (·.items.length)) =
        .ok [2, 1, 1, 2] :=
  ⟨rfl, layout_eq_layout_page rfl, rfl⟩

end ServiceAccountPage

/-- A service account is printed as the page of an object with its configuration. -/
theorem ServiceAccount.print_eq_ok_iff {a : ServiceAccount} {o : PrintOptions} {c : Component} :
    ServiceAccount.print o (some a) = .ok c ↔ ∃ config, a.configuration o = .ok config ∧
      (({} : ServiceAccountPage).page a o config).print o = .ok c := by
  simp only [ServiceAccount.print, orMissing, Outcome.ok_bind, Page.print, Outcome.map_eq_ok_iff,
    Outcome.bind_eq_ok_iff, Outcome.pure_eq_ok_iff, ServiceAccountPage.layout_eq,
    ServiceAccountPage.layout_page_eq]
  constructor
  · rintro ⟨l, ⟨added, hadded, config, hconfig, hrest⟩, rfl⟩
    exact ⟨config, hconfig, l, ⟨added, hadded, hrest⟩, rfl⟩
  · rintro ⟨config, hconfig, l, ⟨added, hadded, hrest⟩, rfl⟩
    exact ⟨l, ⟨added, hadded, config, hconfig, hrest⟩, rfl⟩

end ClusterView

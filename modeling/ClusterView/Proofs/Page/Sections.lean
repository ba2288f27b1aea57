import ClusterView.Print.Page
import ClusterView.Proofs.Layout.Packing
import ClusterView.Proofs.Outcome

/-!
# The sections of a page

The parts of a page (`Page.Parts`) are its summaries, its metadata, its items in sections, the
containers of its pod template and its events. `Page.IsMadeOf` says where each part comes from, and
`Page.print_eq_ok_iff` that printing succeeds exactly when all parts can be made, and then shows
them in a fixed order.
-/

namespace ClusterView

namespace Page

open Outcome

/-! ## Laying out step by step -/

/-- The sections that show some summaries; none without a summary. -/
def summarySections (summaries : List (Summary Component)) : List (Layout.Section Component) :=
  if summaries.isEmpty then [] else [⟨summaries.map fun s => ⟨.half, .summary s⟩⟩]

/-- The section of one component. -/
def sectionOf (width : Width) (c : Component) : Layout.Section Component := ⟨[⟨width, c⟩]⟩

/-- The items of the pod template; none without one. -/
def templateItems (p : Page) : Except PrintError (List (Layout.Item Component)) :=
  match p.podTemplate with
  | some t => podTemplateItems t
  | none => .ok []

/-- The section of the events; none where they are not shown. -/
def eventSections (p : Page) (o : PrintOptions) :
    Except PrintError (List (Layout.Section Component)) :=
  if p.events && o.showEvents then do
    let table ← eventsTable p.object o
    return [sectionOf .full (.table table)]
  else .ok []

/-- One or two summaries go into a section. -/
theorem summarySection_eq_ok {summaries : List (Summary Component)} (h : summaries.length ≤ 2) :
    summarySection summaries = .ok ⟨summaries.map fun s => ⟨.half, .summary s⟩⟩ := by
  match summaries, h with
  | [], _ => rfl
  | [s], _ => rfl
  | [s, t], _ => rfl

theorem length_toList_append_le {α : Type} (s t : Option α) :
    (s.toList ++ t.toList).length ≤ 2 := by
  cases s <;> cases t <;> simp

/-- Of sections below that of the summaries, none of them empty, all are kept. -/
theorem compact_eq (title : String) (top : List (Summary Component))
    {rest : List (Layout.Section Component)} (hne : ∀ s ∈ rest, s.items ≠ []) :
    (⟨title, ⟨top.map fun s => ⟨.half, .summary s⟩⟩ :: rest⟩ : Layout Component).compact =
      ⟨title, summarySections top ++ rest⟩ := by
  have hrest : rest.filter (fun s => !s.isEmpty) = rest :=
    List.filter_eq_self.2 fun s hs => by
      simp [Layout.Section.isEmpty_eq_false_iff.2 (hne s hs)]
  rw [Layout.compact, List.filter_cons, hrest]
  cases top with
  | nil => rfl
  | cons s top => rfl

theorem ne_nil_of_mem_eventSections {p : Page} {o : PrintOptions}
    {events : List (Layout.Section Component)} (h : p.eventSections o = .ok events) :
    ∀ s ∈ events, s.items ≠ [] := by
  unfold eventSections at h
  split at h
  · obtain ⟨table, -, htable⟩ := bind_eq_ok_iff.1 h
    obtain rfl := pure_eq_ok_iff.1 htable
    simp [sectionOf]
  · obtain rfl := Except.ok.inj h
    simp

theorem pack_templateItems (p : Page) {α : Type} (l : Layout Component)
    (next : Layout Component → Except PrintError α) :
    (match p.podTemplate with
      | some t => podTemplateItems t >>= fun items => next (l.pack items)
      | none => next l) = p.templateItems >>= fun items => next (l.pack items) := by
  unfold templateItems
  cases p.podTemplate with
  | some t => rfl
  | none => simp [Layout.pack, Layout.packed_empty_nil]

theorem add_eventSections (p : Page) (o : PrintOptions) (l : Layout Component) :
    (if p.events && o.showEvents then
        eventsTable p.object o >>= fun table =>
          pure (l.addSection (sectionOf .full (.table table))).compact
      else pure l.compact) =
      p.eventSections o >>= fun events =>
        pure ({ l with sections := l.sections ++ events } : Layout Component).compact := by
  unfold eventSections
  split
  · rw [bind_assoc]
    rfl
  · rw [ok_bind, List.append_nil]

/-- The sections of a page whose parts are made. -/
theorem layout_eq (p : Page) (o : PrintOptions) : p.layout o = do
    let added ← o.plugins.content p.source
    let metadata ← metadataSummary p.object p.metadata o
    let items ← makeItems p.items
    let template ← p.templateItems
    let events ← p.eventSections o
    return ⟨"Summary",
      summarySections ((withPlugins p.config "Configuration" added.config).toList ++
        (withPlugins p.status "Status" added.status).toList) ++
      ([sectionOf .half (.summary metadata)] ++ Layout.packed .empty (items ++ added.items) ++
        Layout.packed .empty template ++ events)⟩ := by
  unfold layout
  cases (liftM (o.plugins.content p.source) : Except PrintError PluginContent) with
  | error e => rfl
  | ok added =>
    simp only [ok_bind, summarySection_eq_ok (length_toList_append_le _ _)]
    cases metadataSummary p.object p.metadata o with
    | error e => rfl
    | ok metadata =>
      have hmiddle : summarySection [metadata] = .ok (sectionOf .half (.summary metadata)) := rfl
      simp only [ok_bind, hmiddle]
      cases makeItems p.items with
      | error e => rfl
      | ok items =>
        rw [ok_bind, ok_bind]
        let next (l : Layout Component) : Except PrintError (Layout Component) :=
          if p.events && o.showEvents then
            eventsTable p.object o >>= fun table =>
              pure (l.addSection (sectionOf .full (.table table))).compact
          else pure l.compact
        refine (pack_templateItems p _ next).trans ?_
        cases p.templateItems with
        | error e => rfl
        | ok template =>
          refine (add_eventSections p o _).trans ?_
          rw [ok_bind]
          cases hevents : p.eventSections o with
          | error e => rfl
          | ok events =>
            have hne : ∀ s ∈ [sectionOf .half (.summary metadata)] ++
                Layout.packed .empty (items ++ added.items) ++ Layout.packed .empty template ++
                events, s.items ≠ [] := by
              simp only [List.mem_append, List.mem_singleton]
              rintro s (((rfl | hs) | hs) | hs)
              · simp [sectionOf]
              · exact (Layout.packing_packed _).ne_nil s hs
              · exact (Layout.packing_packed _).ne_nil s hs
              · exact ne_nil_of_mem_eventSections hevents s hs
            exact congrArg Except.ok (compact_eq "Summary" _ hne)

/-! ## Parts of a page -/

/-- A summary with added sections after its own. There is one if it was registered or if sections
are added. -/
structure Extends (registered : Option (Summary Component)) (title : String)
    (added : List (Summary.Section Component)) (shown : Option (Summary Component)) : Prop where
  isSome_iff : shown.isSome ↔ registered.isSome ∨ added ≠ []
  title_eq : ∀ s ∈ shown, s.title = registered.elim title (·.title)
  sections_eq : ∀ s ∈ shown, s.sections = registered.elim [] (·.sections) ++ added
  actions_eq : ∀ s ∈ shown, s.actions = registered.elim [] (·.actions)

theorem extends_iff {registered : Option (Summary Component)} {title : String}
    {added : List (Summary.Section Component)} {shown : Option (Summary Component)} :
    Extends registered title added shown ↔ withPlugins registered title added = shown := by
  constructor
  · rintro ⟨hsome, htitle, hsections, hactions⟩
    cases registered with
    | some r =>
      cases shown with
      | none => simp at hsome
      | some s =>
        obtain ⟨title', sections, actions⟩ := s
        simp_all [withPlugins, Summary.add]
    | none =>
      cases shown with
      | none => simp_all [withPlugins]
      | some s =>
        obtain ⟨title', sections, actions⟩ := s
        simp_all [withPlugins, Summary.ofSections]
  · rintro rfl
    cases registered with
    | some r => constructor <;> simp [withPlugins, Summary.add]
    | none => cases added <;> constructor <;> simp [withPlugins, Summary.ofSections]

/-- What is shown of a pod template: its labels and its containers. -/
structure TemplateSummaries where
  labels : Summary Component
  containers : List (Summary Component)

/-- The summaries of a pod template. -/
structure TemplateSummaries.IsOf (s : TemplateSummaries) (t : PodTemplate) : Prop where
  labels : s.labels = .ofSections "Pod Template"
    [⟨"Labels", .labels ((t.metadata.bind (·.labels)).getD ∅)⟩]
  /-- Every container of the template has a summary, in their order. -/
  containers : List.Forall₂ (fun c shown => containerSummary c = .ok shown)
    ((t.spec.map (·.containers)).getD []) s.containers

/-- The labels in a section for themselves, and the containers two by two. -/
def TemplateSummaries.sections (s : TemplateSummaries) : List (Layout.Section Component) :=
  sectionOf .full (.summary s.labels) ::
    (Layout.pairs (s.containers.map fun c => ⟨.half, .summary c⟩)).map Layout.Section.mk

/-- An item as it is shown. -/
structure ShownAs (item : PageItem) (shown : Layout.Item Component) : Prop where
  view : item.content = .ok shown.view
  width : shown.width = item.width

/-- What a page shows. -/
structure Parts where
  /-- What plugins add. -/
  added : PluginContent
  config : Option (Summary Component)
  status : Option (Summary Component)
  metadata : Summary Component
  /-- The items of the page itself. -/
  items : List (Layout.Item Component)
  /-- The sections of the items of the page and of plugins. -/
  packed : List (Layout.Section Component)
  template : Option TemplateSummaries
  events : Option (Table Component)

/-- Where the parts of a page come from. -/
structure Parts.IsMadeOf (s : Parts) (p : Page) (o : PrintOptions) : Prop where
  added : o.plugins.content p.source = .ok s.added
  config : Extends p.config "Configuration" s.added.config s.config
  status : Extends p.status "Status" s.added.status s.status
  metadata : metadataSummary p.object p.metadata o = .ok s.metadata
  items : List.Forall₂ ShownAs p.items s.items
  packed : Layout.Packing (s.items ++ s.added.items) s.packed
  template : Option.Rel (fun t shown => shown.IsOf t) p.podTemplate s.template
  events : if p.events && o.showEvents then
      ∃ table, eventsTable p.object o = .ok table ∧ s.events = some table
    else s.events = none

/-- The sections of the parts, from the top: the summaries side by side, the metadata, the items,
the pod template and the events. -/
def Parts.sections (s : Parts) : List (Layout.Section Component) :=
  summarySections (s.config.toList ++ s.status.toList) ++
    ([sectionOf .half (.summary s.metadata)] ++ s.packed ++
      s.template.elim [] TemplateSummaries.sections ++
      s.events.elim [] fun table => [sectionOf .full (.table table)])

theorem makeItems_eq_ok_iff {items : List PageItem} {shown : List (Layout.Item Component)} :
    makeItems items = .ok shown ↔ List.Forall₂ ShownAs items shown := by
  have hitem (item : PageItem) (shown : Layout.Item Component) :
      item.content.map (⟨item.width, ·⟩ : Component → Layout.Item Component) = .ok shown ↔
        ShownAs item shown := by
    obtain ⟨width, view⟩ := shown
    rw [map_eq_ok_iff]
    constructor
    · rintro ⟨c, hc, heq⟩
      obtain ⟨rfl, rfl⟩ := Layout.Item.mk.inj heq
      exact ⟨hc, rfl⟩
    · rintro ⟨hview, rfl⟩
      exact ⟨view, hview, rfl⟩
  simp only [makeItems, mapM_eq_ok_iff, hitem]

/-- The items of the summaries of a pod template. -/
def TemplateSummaries.items (s : TemplateSummaries) : List (Layout.Item Component) :=
  ⟨.full, .summary s.labels⟩ :: s.containers.map fun c => ⟨.half, .summary c⟩

theorem podTemplateItems_eq_ok_iff {t : PodTemplate} {items : List (Layout.Item Component)} :
    podTemplateItems t = .ok items ↔ ∃ s : TemplateSummaries, s.IsOf t ∧ s.items = items := by
  simp only [podTemplateItems, PodTemplate.containers_eq, bind_eq_ok_iff, pure_eq_ok_iff,
    mapM_bind_pure, map_eq_ok_iff, mapM_eq_ok_iff]
  constructor
  · rintro ⟨_, ⟨containers, hcontainers, rfl⟩, rfl⟩
    exact ⟨⟨_, containers⟩, ⟨rfl, hcontainers⟩, rfl⟩
  · rintro ⟨⟨labels, containers⟩, ⟨hlabels, hcontainers⟩, rfl⟩
    refine ⟨_, ⟨containers, hcontainers, rfl⟩, ?_⟩
    rw [TemplateSummaries.items, hlabels]
    rfl

/-- The items of a pod template are packed as its sections. -/
theorem packed_templateItems (s : Option TemplateSummaries) :
    Layout.packed .empty (s.elim [] TemplateSummaries.items) =
      s.elim [] TemplateSummaries.sections := by
  cases s with
  | none => rfl
  | some s =>
    have hcontainers := Layout.packing_pairs
      (s.containers.map fun c => (⟨.half, .summary c⟩ : Layout.Item Component)) (by simp)
    exact (hcontainers.cons_full rfl).eq_packed

theorem templateItems_eq_ok_iff {p : Page} {items : List (Layout.Item Component)} :
    p.templateItems = .ok items ↔
      ∃ s, Option.Rel (fun t (shown : TemplateSummaries) => shown.IsOf t) p.podTemplate s ∧
        s.elim [] TemplateSummaries.items = items := by
  unfold templateItems
  cases p.podTemplate with
  | some t =>
    rw [podTemplateItems_eq_ok_iff]
    constructor
    · rintro ⟨s, hs, rfl⟩
      exact ⟨some s, .some hs, rfl⟩
    · rintro ⟨_, hs, rfl⟩
      cases hs with
      | some h => exact ⟨_, h, rfl⟩
  | none =>
    constructor
    · intro h
      exact ⟨none, .none, Except.ok.inj h⟩
    · rintro ⟨_, hs, rfl⟩
      cases hs
      rfl

theorem eventSections_eq_ok_iff {p : Page} {o : PrintOptions}
    {sections : List (Layout.Section Component)} :
    p.eventSections o = .ok sections ↔ ∃ events : Option (Table Component),
      (if p.events && o.showEvents then
        ∃ table, eventsTable p.object o = .ok table ∧ events = some table
      else events = none) ∧
      (events.elim [] fun table => [sectionOf .full (.table table)]) = sections := by
  unfold eventSections
  split
  · simp only [bind_eq_ok_iff, pure_eq_ok_iff]
    constructor
    · rintro ⟨table, htable, rfl⟩
      exact ⟨some table, ⟨table, htable, rfl⟩, rfl⟩
    · rintro ⟨_, ⟨table, htable, rfl⟩, rfl⟩
      exact ⟨table, htable, rfl⟩
  · simp

/-- **The sections of a printed page.** Printing succeeds exactly when all parts of the page can be
made, and then shows their sections and nothing else. -/
theorem print_eq_ok_iff_isMadeOf {p : Page} {o : PrintOptions} {c : Component} :
    p.print o = .ok c ↔
      ∃ s : Parts, s.IsMadeOf p o ∧ c = .layout ⟨"Summary", s.sections⟩ := by
  simp only [print, map_eq_ok_iff, layout_eq, bind_eq_ok_iff, pure_eq_ok_iff,
    liftM_plugin_eq_ok_iff, makeItems_eq_ok_iff, templateItems_eq_ok_iff, eventSections_eq_ok_iff]
  constructor
  · rintro ⟨_, ⟨added, hadded, metadata, hmetadata, items, hitems, _, ⟨template, htemplate, rfl⟩, _,
      ⟨events, hevents, rfl⟩, rfl⟩, rfl⟩
    refine ⟨⟨added, withPlugins p.config "Configuration" added.config,
      withPlugins p.status "Status" added.status, metadata, items,
      Layout.packed .empty (items ++ added.items), template, events⟩, ?_, ?_⟩
    · exact ⟨hadded, extends_iff.2 rfl, extends_iff.2 rfl, hmetadata, hitems,
        Layout.packing_packed _, htemplate, hevents⟩
    · rw [packed_templateItems]
      rfl
  · rintro ⟨s, hs, rfl⟩
    refine ⟨_, ⟨s.added, hs.added, s.metadata, hs.metadata, s.items, hs.items, _,
      ⟨s.template, hs.template, rfl⟩, _, ⟨s.events, hs.events, rfl⟩, rfl⟩, ?_⟩
    rw [extends_iff.1 hs.config, extends_iff.1 hs.status, hs.packed.eq_packed,
      packed_templateItems]
    rfl

end Page

end ClusterView

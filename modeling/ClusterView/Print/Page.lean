import ClusterView.Cluster.Kind.Pod
import ClusterView.Print.Basic

/-!
# Pages of objects

A `Page` collects what is shown about one object; `Page.layout` lays it out. The order is fixed: the
summaries of configuration and status, the metadata, the items of the page and of plugins, the pod
template, and the events.
-/

namespace ClusterView

/-! ## Metadata -/

/-- The summary of the age, labels, annotations and controller of an object. -/
def metadataSummary (object : Reference) (m : ObjectMeta) (o : PrintOptions) :
    Except PrintError (Summary Component) := do
  let texts (header : String) (map : StringMap String) : List (Summary.Section Component) :=
    if map.isEmpty then [] else [⟨header, .labels map⟩]
  let controller ←
    match ObjectMeta.controllerOf m.owners with
    | some owner => do
      let link ← o.link.forOwner object owner
      pure [⟨"Controlled By", .link link⟩]
    | none => pure []
  return .ofSections "Metadata" (⟨"Age", timestampOf m.creationTimestamp⟩ ::
    texts "Labels" m.labelMap ++ texts "Annotations" m.annotationMap ++ controller)

/-! ## Pod templates -/

/-- Where the value of an environment variable comes from, in words. -/
def EnvVar.sourceText (v : EnvVar) : String :=
  match v.valueFrom with
  | none => ""
  | some s =>
    match s.configMapKey, s.secretKey, s.fieldPath, s.resource with
    | some r, _, _, _ => "config map " ++ r.name ++ ":" ++ r.key
    | none, some r, _, _ => "secret " ++ r.name ++ ":" ++ r.key
    | none, none, some path, _ => "field " ++ path
    | none, none, none, some resource => "resource " ++ resource
    | none, none, none, none => ""

/-- The table of environment variables. -/
def environmentTable (env : List EnvVar) : Except PrintError (Table Component) :=
  liftM (Table.ofRows "Environment" "" (Table.columnsNamed ["Name", "Value", "Source"])
    (env.map fun v => .ofCells [("Name", .text v.name), ("Value", .text (v.value.getD "")),
      ("Source", .text v.sourceText)]))

/-- A port with its protocol. -/
def ContainerPort.text (p : ContainerPort) : String :=
  Text.ofInt p.containerPort ++ "/" ++ p.protocol.getD "TCP"

/-- The summary of a container; what is not set or empty is left out, except for the image. -/
def containerSummary (c : Container) : Except PrintError (Summary Component) := do
  let texts {α : Type} (header : String) (items : Option (List α)) (text : List α → String) :
      List (Summary.Section Component) :=
    match items with
    | none | some [] => []
    | some items => [.ofText header (text items)]
  let policy := c.imagePullPolicy.toList.map (.ofText "Image Pull Policy")
  let environment ←
    match c.env with
    | none | some [] => pure []
    | some env => do
      let table ← environmentTable env
      pure [⟨"Environment", .table table⟩]
  return .ofSections ("Container " ++ c.name) (.ofText "Image" (orNotSet c.image) :: policy ++
    texts "Ports" c.ports (fun ports => joinOrNone ", " (ports.map ContainerPort.text)) ++
    texts "Command" c.command (Text.join " ") ++ texts "Args" c.args (Text.join " ") ++ environment)

/-- The items of a pod template: its labels, over the full width, and its containers. -/
def podTemplateItems (t : PodTemplate) : Except PrintError (List (Layout.Item Component)) := do
  let containers ← t.containers.mapM fun c => do
    let summary ← containerSummary c
    pure ⟨.half, .summary summary⟩
  return ⟨.full, .summary (.ofSections "Pod Template" [⟨"Labels", .labels (t.labels.getD ∅)⟩])⟩ ::
    containers

/-! ## Events -/

/-- Whether an event is about an object: by identity if both have one, else by kind and name. -/
def Event.involves (e : Event) (object : Reference) : Bool :=
  match object.uid, e.involvedObject.uid with
  | some uid, some involved => uid == involved
  | _, _ =>
    e.involvedObject.kind == some object.kind && e.involvedObject.name == some object.name

/-- The time when an event was first seen, else when it was recorded. -/
def Event.firstSeen (e : Event) : Option Instant :=
  e.firstTimestamp.or e.metadata.creationTimestamp

/-- The time when an event was last seen. -/
def Event.lastSeen (e : Event) : Option Instant := e.lastTimestamp.or e.firstSeen

/-- Who reported an event. -/
def Event.reporter (e : Event) : String :=
  match e.source with
  | none => ""
  | some s =>
    match s.component, s.host with
    | some component, some host => component ++ " on " ++ host
    | some component, none => component
    | none, some host => host
    | none, none => ""

/-- The row of an event. -/
def Event.row (e : Event) : Table.Row Component :=
  .ofCells [("Message", .text (e.message.getD "")), ("Reason", .text (e.reason.getD "")),
    ("Type", .text (e.type.getD "")), ("First Seen", timestampOf e.firstSeen),
    ("Last Seen", timestampOf e.lastSeen), ("From", .text e.reporter),
    ("Count", .ofInt (e.count.getD 1))]

/-- The names of the columns of events. -/
def eventColumns : List String :=
  ["Message", "Reason", "Type", "First Seen", "Last Seen", "From", "Count"]

/-- The table of the events in the namespace of an object that are about it. -/
def eventsTable (object : Reference) (o : PrintOptions) : Except PrintError (Table Component) := do
  let query : Query := { apiVersion := "v1", kind := "Event", inNamespace := object.inNamespace }
  let events ← o.store.listAs Event query
  Table.ofRows "Events" "There are no events!" (Table.columnsNamed eventColumns)
    ((events.filter fun e => e.involves object).map Event.row)

/-! ## Pages -/

/-- An item of a page, which may fail to be made. -/
structure PageItem where
  width : Width
  content : Except PrintError Component

/-- What is shown about an object. -/
structure Page where
  object : Reference
  metadata : ObjectMeta
  /-- The object that plugins see. -/
  source : Object
  config : Option (Summary Component) := none
  status : Option (Summary Component) := none
  items : List PageItem := []
  podTemplate : Option PodTemplate := none
  events : Bool := false

namespace Page

/-- A page that shows the metadata of a resource only. -/
def ofResource {α : Type} [Resource α] (r : α) : Page where
  object := .ofResource r
  metadata := Resource.metadata r
  source := Resource.toObject r

/-- A summary with the sections of plugins after its own. There is one if it was set or if plugins
have sections for it. -/
def withPlugins (summary : Option (Summary Component)) (title : String)
    (sections : List (Summary.Section Component)) : Option (Summary Component) :=
  match summary with
  | some s => some (s.add sections)
  | none => if sections.isEmpty then none else some (.ofSections title sections)

/-- A section with some summaries of half the width. -/
def summarySection (summaries : List (Summary Component)) :
    Except PrintError (Layout.Section Component) :=
  liftM (summaries.foldlM (fun s v => s.place ⟨.half, .summary v⟩) Layout.Section.empty)

/-- The items of a page, in order; the first that cannot be made decides. -/
def makeItems (items : List PageItem) : Except PrintError (List (Layout.Item Component)) :=
  items.mapM fun i => i.content.map (⟨i.width, ·⟩)

/-- Lays the page out. -/
def layout (p : Page) (o : PrintOptions) : Except PrintError (Layout Component) := do
  let added ← o.plugins.content p.source
  let top ← summarySection ((withPlugins p.config "Configuration" added.config).toList ++
    (withPlugins p.status "Status" added.status).toList)
  let metadata ← metadataSummary p.object p.metadata o
  let middle ← summarySection [metadata]
  let items ← makeItems p.items
  let l := ((Layout.empty "Summary").addSection top).addSection middle
  let l := l.pack (items ++ added.items)
  let l ←
    match p.podTemplate with
    | some t => do
      let items ← podTemplateItems t
      pure (l.pack items)
    | none => pure l
  let l ←
    if p.events && o.showEvents then do
      let table ← eventsTable p.object o
      let bottom ← (Layout.Section.empty.place ⟨.full, .table table⟩ : Except ViewError _)
      pure (l.addSection bottom)
    else pure l
  return l.compact

/-- The page as a component. -/
def print (p : Page) (o : PrintOptions) : Except PrintError Component :=
  (p.layout o).map .layout

end Page

end ClusterView

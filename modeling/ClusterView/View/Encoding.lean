import ClusterView.Json.Codec
import ClusterView.View.Component

/-!
# The written form of components

Every component is written as an object with `metadata`, which holds its kind and its title, and
`config`, which holds the rest. A title is written as a list with a single text component. Actions
of a summary, the label of a form field and the title of a list are left out when they are empty.
-/

namespace ClusterView

/-! ## Envelopes -/

/-- The object of a component without a title. -/
def untitled (kind : String) (config : Json) : Json :=
  .object [("metadata", .object [("type", .string kind)]), ("config", config)]

/-- The object of a component with a title. -/
def titled (kind title : String) (config : Json) : Json :=
  .object [("metadata", .object [("type", .string kind),
    ("title", .array [untitled "text" (.object [("value", .string title)])])]), ("config", config)]

/-! ## Parts -/

/-- The written form of a form field. -/
def FormField.toJson (f : FormField) : Json :=
  .object ([("type", .string (match f.kind with | .number => "number" | .hidden => "hidden"))] ++
    (if f.label = "" then [] else [("label", .string f.label)]) ++
    [("name", .string f.name), ("value", .string f.value)])

/-- The written form of an action. -/
def Action.toJson (a : Action) : Json :=
  .object [("name", .string a.name), ("title", .string a.title),
    ("form", .object [("fields", .array (a.fields.map FormField.toJson))])]

/-- The written form of a selector. -/
def Selector.toJson : Selector → Json
  | .label key value =>
    untitled "labelSelector" (.object [("key", .string key), ("value", .string value)])
  | .expression key operator values =>
    untitled "expressionSelector" (.object [("key", .string key),
      ("operator", .string operator.name), ("values", encode values)])

/-- The written form of a container. -/
def ContainerImage.toJson (c : ContainerImage) : Json :=
  .object [("name", .string c.name), ("image", .string c.image)]

/-- The written form of a table column. -/
def Table.Column.toJson (c : Table.Column) : Json :=
  .object [("name", .string c.name), ("accessor", .string c.accessor)]

/-- The written form of a value in a quadrant. -/
def Quadrant.Value.toJson (v : Quadrant.Value) : Json :=
  .object [("label", .string v.label), ("value", .string v.value)]

/-! ## Components -/

namespace Component

mutual

/-- The written form of a component. -/
def toJson : Component → Json
  | text value => untitled "text" (.object [("value", .string value)])
  | link l => untitled "link" (.object [("value", .string l.text), ("ref", .string l.path)])
  | timestamp seconds => untitled "timestamp" (.object [("timestamp", .ofInt seconds)])
  | labels m => untitled "labels" (.object [("labels", encode m)])
  | selectors s => untitled "selectors" (.object [("selectors", .array (s.map Selector.toJson))])
  | containers c =>
    untitled "containers" (.object [("containers", .array (c.map ContainerImage.toJson))])
  | list ⟨none, items⟩ => untitled "list" (.object [("items", .array (listToJson items))])
  | list ⟨some title, items⟩ =>
    titled "list" title (.object [("items", .array (listToJson items))])
  | table ⟨title, columns, rows, emptyContent⟩ =>
    titled "table" title (.object [("columns", .array (columns.map Table.Column.toJson)),
      ("rows", .array (rowsToJson rows)), ("emptyContent", .string emptyContent)])
  | summary ⟨title, sections, actions⟩ =>
    titled "summary" title (.object ([("sections", .array (sectionsToJson sections))] ++
      (if actions.isEmpty then [] else [("actions", .array (actions.map Action.toJson))])))
  | quadrant q =>
    titled "quadrant" q.title (.object [("nw", q.northWest.toJson), ("ne", q.northEast.toJson),
      ("sw", q.southWest.toJson), ("se", q.southEast.toJson)])
  | layout ⟨title, sections⟩ =>
    titled "flexlayout" title (.object [("sections", .array (layoutToJson sections))])

/-- The written forms of some components. -/
def listToJson : List Component → List Json
  | [] => []
  | c :: rest => toJson c :: listToJson rest

/-- The written forms of some table rows. -/
def rowsToJson : List (Table.Row Component) → List Json
  | [] => []
  | ⟨cells⟩ :: rest => .object (cellsToJson cells) :: rowsToJson rest

/-- The written forms of the cells of a row. -/
def cellsToJson : List (String × Component) → List (String × Json)
  | [] => []
  | (column, content) :: rest => (column, toJson content) :: cellsToJson rest

/-- The written forms of some summary sections. -/
def sectionsToJson : List (Summary.Section Component) → List Json
  | [] => []
  | ⟨header, content⟩ :: rest =>
    .object [("header", .string header), ("content", toJson content)] :: sectionsToJson rest

/-- The written forms of some layout sections. -/
def layoutToJson : List (Layout.Section Component) → List Json
  | [] => []
  | ⟨items⟩ :: rest => .array (itemsToJson items) :: layoutToJson rest

/-- The written forms of some layout items. -/
def itemsToJson : List (Layout.Item Component) → List Json
  | [] => []
  | ⟨width, view⟩ :: rest =>
    .object [("width", .ofInt width.value), ("view", toJson view)] :: itemsToJson rest

end

end Component

end ClusterView

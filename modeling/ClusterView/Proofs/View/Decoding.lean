import ClusterView.Proofs.StringMap
import ClusterView.View.Encoding

/-!
# Reading components back

`Component.ofJson?` reads a component from its written form. It tells the kind of a component by its
metadata and the parts of its configuration by their places, and gives back every component as it
was (`ofJson?_toJson`), also what is left out when it is empty. So no two components are written
alike.
-/

namespace ClusterView

/-! ## Envelopes -/

/-- The title of a component in its metadata, after its kind. -/
def titleFields : Option String → List (String × Json)
  | none => []
  | some title => [("title", .array [untitled "text" (.object [("value", .string title)])])]

/-- The object of a component. -/
def envelope (kind : String) (title : Option String) (config : List (String × Json)) : Json :=
  .object [("metadata", .object (("type", .string kind) :: titleFields title)),
    ("config", .object config)]

theorem untitled_eq (kind : String) (config : List (String × Json)) :
    untitled kind (.object config) = envelope kind none config := rfl

/-- The kind and the title in the metadata of a component. -/
def metadata? : List (String × Json) → Option (String × Option String)
  | [("type", .string kind)] => some (kind, none)
  | [("type", .string kind), ("title", .array [.object [("metadata", .object _),
      ("config", .object [("value", .string title)])]])] => some (kind, some title)
  | _ => none

theorem metadata?_cons (kind : String) (title : Option String) :
    metadata? (("type", .string kind) :: titleFields title) = some (kind, title) := by
  cases title <;> rfl

/-! ## Parts -/

/-- Members that are read back one by one are read back together. -/
theorem mapM_map_eq_some {α β : Type} (write : α → β) {read? : β → Option α}
    (h : ∀ a, read? (write a) = some a) (items : List α) :
    (items.map write).mapM read? = some items := by
  have hread : read? ∘ write = pure := funext h
  rw [List.mapM_map, hread, List.mapM_pure, List.map_id']
  rfl

theorem decode?_encode_list (texts : List String) : decode? (encode texts) = some texts :=
  mapM_map_eq_some Json.string (fun _ => rfl) texts

theorem decode?_encode_map (m : StringMap String) : decode? (encode m) = some m := by
  let write (e : String × String) : String × Json := (e.1, .string e.2)
  let read? (field : String × Json) : Option (String × String) :=
    (decode? field.2).map (field.1, ·)
  have hentries : (m.entries.map write).mapM read? = some m.entries :=
    mapM_map_eq_some write (fun _ => rfl) m.entries
  show ((m.entries.map write).mapM read?).map StringMap.ofList = some m
  rw [hentries, Option.map_some, m.ofList_entries]

/-- The kind of a form field by its name. -/
def FormField.kind? (name : String) : Option FormField.Kind :=
  if name = "number" then some .number else if name = "hidden" then some .hidden else none

/-- Reads a form field; one without a label has an empty label. -/
def FormField.ofJson? : Json → Option FormField
  | .object [("type", .string kind), ("name", .string name), ("value", .string value)] =>
    (kind? kind).map (⟨·, "", name, value⟩)
  | .object [("type", .string kind), ("label", .string label), ("name", .string name),
      ("value", .string value)] =>
    (kind? kind).map (⟨·, label, name, value⟩)
  | _ => none

theorem FormField.ofJson?_toJson (f : FormField) : ofJson? f.toJson = some f := by
  obtain ⟨kind, label, name, value⟩ := f
  by_cases hlabel : label = ""
  · subst hlabel
    cases kind <;> rfl
  · simp only [toJson, if_neg hlabel]
    cases kind <;> rfl

/-- Reads an action. -/
def Action.ofJson? : Json → Option Action
  | .object [("name", .string name), ("title", .string title),
      ("form", .object [("fields", .array fields)])] =>
    (fields.mapM FormField.ofJson?).map (⟨name, title, ·⟩)
  | _ => none

theorem Action.ofJson?_toJson (a : Action) : ofJson? a.toJson = some a := by
  rw [toJson, ofJson?, mapM_map_eq_some _ FormField.ofJson?_toJson]
  rfl

/-- Reads a selector. -/
def Selector.ofJson? : Json → Option Selector
  | .object [("metadata", .object [("type", .string "labelSelector")]),
      ("config", .object [("key", .string key), ("value", .string value)])] =>
    some (.label key value)
  | .object [("metadata", .object [("type", .string "expressionSelector")]),
      ("config", .object [("key", .string key), ("operator", .string operator),
        ("values", values)])] => do
    some (.expression key (← Operator.ofName? operator) (← decode? values))
  | _ => none

theorem Selector.ofJson?_toJson (s : Selector) : ofJson? s.toJson = some s := by
  cases s with
  | label key value => rfl
  | expression key operator values =>
    rw [toJson, untitled, ofJson?, Operator.ofName?_name, decode?_encode_list]
    rfl

/-- Reads a container. -/
def ContainerImage.ofJson? : Json → Option ContainerImage
  | .object [("name", .string name), ("image", .string image)] => some ⟨name, image⟩
  | _ => none

theorem ContainerImage.ofJson?_toJson (c : ContainerImage) : ofJson? c.toJson = some c := rfl

/-- Reads a table column. -/
def Table.Column.ofJson? : Json → Option Table.Column
  | .object [("name", .string name), ("accessor", .string accessor)] => some ⟨name, accessor⟩
  | _ => none

theorem Table.Column.ofJson?_toJson (c : Table.Column) : ofJson? c.toJson = some c := rfl

/-- Reads a value in a quadrant. -/
def Quadrant.Value.ofJson? : Json → Option Quadrant.Value
  | .object [("label", .string label), ("value", .string value)] => some ⟨label, value⟩
  | _ => none

theorem Quadrant.Value.ofJson?_toJson (v : Quadrant.Value) : ofJson? v.toJson = some v := rfl

/-- The width of a number of twenty-fourths. -/
def Width.ofValue? (n : Int) : Option Width :=
  [quarter, third, half, full].find? fun w => n == w.value

theorem Width.ofValue?_value (w : Width) : ofValue? w.value = some w := by cases w <;> rfl

namespace Component

mutual

/-- Reads a component. -/
def ofJson? : Json → Option Component
  | .object [("metadata", .object metadata), ("config", .object config)] =>
    (metadata? metadata).bind fun m =>
      (ofConfig? m.1 m.2 config).filter fun c => c.kind == m.1 && c.title == m.2
  | _ => none

/-- Reads a component with a kind and a title from its configuration. -/
def ofConfig? (kind : String) (title : Option String) : List (String × Json) → Option Component
  | [("value", .string value)] => some (.text value)
  | [("value", .string value), ("ref", .string path)] => some (.link ⟨value, path⟩)
  | [("timestamp", .number (.integer seconds))] => some (.timestamp seconds)
  | [("labels", m)] => (decode? m).map .labels
  | [("selectors", .array s)] => (s.mapM Selector.ofJson?).map .selectors
  | [("containers", .array c)] => (c.mapM ContainerImage.ofJson?).map .containers
  | [("items", .array items)] => (listOfJson? items).map fun items => .list ⟨title, items⟩
  | [("columns", .array columns), ("rows", .array rows), ("emptyContent", .string empty)] => do
    some (.table ⟨title.getD "", ← columns.mapM Table.Column.ofJson?, ← rowsOfJson? rows, empty⟩)
  -- A layout and a summary without actions have the same fields; only the kind tells them apart.
  | [("sections", .array sections)] =>
    if kind = "summary" then
      (sectionsOfJson? sections).map fun sections => .summary ⟨title.getD "", sections, []⟩
    else (layoutOfJson? sections).map fun sections => .layout ⟨title.getD "", sections⟩
  | [("sections", .array sections), ("actions", .array actions)] => do
    some (.summary ⟨title.getD "", ← sectionsOfJson? sections, ← actions.mapM Action.ofJson?⟩)
  | [("nw", nw), ("ne", ne), ("sw", sw), ("se", se)] => do
    some (.quadrant ⟨title.getD "", ← Quadrant.Value.ofJson? nw, ← Quadrant.Value.ofJson? ne,
      ← Quadrant.Value.ofJson? sw, ← Quadrant.Value.ofJson? se⟩)
  | _ => none

/-- Reads components. -/
def listOfJson? : List Json → Option (List Component)
  | [] => some []
  | c :: rest => do some ((← ofJson? c) :: (← listOfJson? rest))

/-- Reads table rows. -/
def rowsOfJson? : List Json → Option (List (Table.Row Component))
  | [] => some []
  | .object cells :: rest => do some (⟨← cellsOfJson? cells⟩ :: (← rowsOfJson? rest))
  | _ => none

/-- Reads the cells of a row. -/
def cellsOfJson? : List (String × Json) → Option (List (String × Component))
  | [] => some []
  | (column, content) :: rest => do
    some ((column, ← ofJson? content) :: (← cellsOfJson? rest))

/-- Reads summary sections. -/
def sectionsOfJson? : List Json → Option (List (Summary.Section Component))
  | [] => some []
  | .object [("header", .string header), ("content", content)] :: rest => do
    some (⟨header, ← ofJson? content⟩ :: (← sectionsOfJson? rest))
  | _ => none

/-- Reads layout sections. -/
def layoutOfJson? : List Json → Option (List (Layout.Section Component))
  | [] => some []
  | .array items :: rest => do some (⟨← itemsOfJson? items⟩ :: (← layoutOfJson? rest))
  | _ => none

/-- Reads layout items. -/
def itemsOfJson? : List Json → Option (List (Layout.Item Component))
  | [] => some []
  | .object [("width", .number (.integer width)), ("view", view)] :: rest => do
    some (⟨← Width.ofValue? width, ← ofJson? view⟩ :: (← itemsOfJson? rest))
  | _ => none

end

/-- What is written of a component beside its kind and its title. -/
def config : Component → List (String × Json)
  | text value => [("value", .string value)]
  | link l => [("value", .string l.text), ("ref", .string l.path)]
  | timestamp seconds => [("timestamp", .ofInt seconds)]
  | labels m => [("labels", encode m)]
  | selectors s => [("selectors", .array (s.map Selector.toJson))]
  | containers c => [("containers", .array (c.map ContainerImage.toJson))]
  | list l => [("items", .array (listToJson l.items))]
  | table t => [("columns", .array (t.columns.map Table.Column.toJson)),
      ("rows", .array (rowsToJson t.rows)), ("emptyContent", .string t.emptyContent)]
  | summary s => ("sections", .array (sectionsToJson s.sections)) ::
      (if s.actions.isEmpty then [] else [("actions", .array (s.actions.map Action.toJson))])
  | quadrant q => [("nw", q.northWest.toJson), ("ne", q.northEast.toJson),
      ("sw", q.southWest.toJson), ("se", q.southEast.toJson)]
  | layout l => [("sections", .array (layoutToJson l.sections))]

/-- Every component is written as an envelope with its kind, its title and its configuration. -/
theorem toJson_eq_envelope (c : Component) : c.toJson = envelope c.kind c.title c.config := by
  cases c with
  | list l =>
    obtain ⟨title, items⟩ := l
    cases title <;> rfl
  | _ => rfl

theorem ofJson?_of_config {c : Component} (h : ofConfig? c.kind c.title c.config = some c) :
    ofJson? c.toJson = some c := by
  simp [toJson_eq_envelope, envelope, ofJson?, metadata?_cons, h]

mutual

/-- The configuration of a component is read back, with its components one inside the other. -/
theorem ofConfig?_config : ∀ c : Component, ofConfig? c.kind c.title c.config = some c
  | text _ | link _ | timestamp _ | quadrant _ => rfl
  | labels m => by
    rw [config, ofConfig?, decode?_encode_map]
    rfl
  | selectors s => by
    rw [config, ofConfig?, mapM_map_eq_some _ Selector.ofJson?_toJson]
    rfl
  | containers c => by
    rw [config, ofConfig?, mapM_map_eq_some _ ContainerImage.ofJson?_toJson]
    rfl
  | list ⟨title, items⟩ => by
    rw [config, ofConfig?, listOfJson?_listToJson items]
    rfl
  | table ⟨title, columns, rows, emptyContent⟩ => by
    rw [config, ofConfig?, mapM_map_eq_some _ Table.Column.ofJson?_toJson,
      rowsOfJson?_rowsToJson rows]
    rfl
  -- Actions are left out when there are none, so the two cases have different fields.
  | summary ⟨title, sections, []⟩ => by
    have hconfig : (summary ⟨title, sections, []⟩).config =
        [("sections", .array (sectionsToJson sections))] := rfl
    rw [hconfig, ofConfig?, sectionsOfJson?_sectionsToJson sections]
    rfl
  | summary ⟨title, sections, action :: actions⟩ => by
    have hconfig : (summary ⟨title, sections, action :: actions⟩).config =
        [("sections", .array (sectionsToJson sections)),
          ("actions", .array ((action :: actions).map Action.toJson))] := rfl
    rw [hconfig, ofConfig?, sectionsOfJson?_sectionsToJson sections,
      mapM_map_eq_some _ Action.ofJson?_toJson]
    rfl
  | layout ⟨title, sections⟩ => by
    rw [config, ofConfig?, layoutOfJson?_layoutToJson sections]
    rfl

theorem listOfJson?_listToJson : ∀ items, listOfJson? (listToJson items) = some items
  | [] => rfl
  | c :: rest => by
    rw [listToJson, listOfJson?, ofJson?_of_config (ofConfig?_config c),
      listOfJson?_listToJson rest]
    rfl

theorem rowsOfJson?_rowsToJson : ∀ rows, rowsOfJson? (rowsToJson rows) = some rows
  | [] => rfl
  | ⟨cells⟩ :: rest => by
    rw [rowsToJson, rowsOfJson?, cellsOfJson?_cellsToJson cells, rowsOfJson?_rowsToJson rest]
    rfl

theorem cellsOfJson?_cellsToJson : ∀ cells, cellsOfJson? (cellsToJson cells) = some cells
  | [] => rfl
  | (column, content) :: rest => by
    rw [cellsToJson, cellsOfJson?, ofJson?_of_config (ofConfig?_config content),
      cellsOfJson?_cellsToJson rest]
    rfl

theorem sectionsOfJson?_sectionsToJson :
    ∀ sections, sectionsOfJson? (sectionsToJson sections) = some sections
  | [] => rfl
  | ⟨header, content⟩ :: rest => by
    rw [sectionsToJson, sectionsOfJson?, ofJson?_of_config (ofConfig?_config content),
      sectionsOfJson?_sectionsToJson rest]
    rfl

theorem layoutOfJson?_layoutToJson :
    ∀ sections, layoutOfJson? (layoutToJson sections) = some sections
  | [] => rfl
  | ⟨items⟩ :: rest => by
    rw [layoutToJson, layoutOfJson?, itemsOfJson?_itemsToJson items,
      layoutOfJson?_layoutToJson rest]
    rfl

theorem itemsOfJson?_itemsToJson : ∀ items, itemsOfJson? (itemsToJson items) = some items
  | [] => rfl
  | ⟨width, view⟩ :: rest => by
    rw [itemsToJson, Json.ofInt, itemsOfJson?, ofJson?_of_config (ofConfig?_config view),
      itemsOfJson?_itemsToJson rest, Width.ofValue?_value]
    rfl

end

/-- **Every component is read back from its written form.** -/
theorem ofJson?_toJson (c : Component) : ofJson? c.toJson = some c :=
  ofJson?_of_config (ofConfig?_config c)

theorem toJson_injective : Function.Injective toJson := by
  intro c d h
  have hread := congrArg ofJson? h
  rw [ofJson?_toJson, ofJson?_toJson] at hread
  exact Option.some.inj hread

end Component

end ClusterView

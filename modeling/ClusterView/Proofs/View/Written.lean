import ClusterView.Proofs.Json.Text
import ClusterView.Proofs.View.Decoding

/-!
# Components by their texts

The numbers that are written of components are widths and seconds, so no fractions
(`isWhole_toJson`). Components with the same text therefore have the same written form, and are the
same (`written_apart`).
-/

namespace ClusterView

@[simp] theorem isWhole_envelope_iff {kind : String} {title : Option String}
    {config : List (String × Json)} :
    (envelope kind title config).IsWhole ↔ Json.FieldsWhole config := by
  cases title <;> simp [envelope, titleFields, untitled]

/-! ## Parts -/

@[simp] theorem isWhole_encode_list (texts : List String) : (encode texts : Json).IsWhole :=
  .array (List.forall_mem_map.2 fun text _ => .string text)

@[simp] theorem isWhole_encode_map (m : StringMap String) : (encode m : Json).IsWhole :=
  .object (List.forall_mem_map.2 fun e _ => .string e.2)

@[simp] theorem FormField.isWhole_toJson (f : FormField) : f.toJson.IsWhole := by
  by_cases hlabel : f.label = "" <;> simp [toJson, hlabel]

@[simp] theorem Action.isWhole_toJson (a : Action) : a.toJson.IsWhole := by
  simp [toJson]

@[simp] theorem Selector.isWhole_toJson (s : Selector) : s.toJson.IsWhole := by
  cases s <;> simp [toJson, untitled_eq]

@[simp] theorem ContainerImage.isWhole_toJson (c : ContainerImage) : c.toJson.IsWhole := by
  simp [toJson]

@[simp] theorem Table.Column.isWhole_toJson (c : Table.Column) : c.toJson.IsWhole := by
  simp [toJson]

@[simp] theorem Quadrant.Value.isWhole_toJson (v : Quadrant.Value) : v.toJson.IsWhole := by
  simp [toJson]

/-! ## Components -/

namespace Component

mutual

theorem fieldsWhole_config : ∀ c : Component, Json.FieldsWhole c.config
  | text _ | link _ | timestamp _ | labels _ | selectors _ | containers _ | quadrant _ => by
    simp [config]
  | list ⟨_, items⟩ => by
    simpa [config] using isWhole_listToJson items
  | table ⟨_, columns, rows, _⟩ => by
    simpa [config] using isWhole_rowsToJson rows
  | summary ⟨_, sections, []⟩ => by
    simpa [config] using isWhole_sectionsToJson sections
  | summary ⟨_, sections, action :: actions⟩ => by
    simpa [config] using isWhole_sectionsToJson sections
  | layout ⟨_, sections⟩ => by
    simpa [config] using isWhole_layoutToJson sections

theorem isWhole_listToJson : ∀ items, ∀ j ∈ listToJson items, j.IsWhole
  | [] => by simp [listToJson]
  | c :: rest => by
    simpa [listToJson, toJson_eq_envelope] using ⟨fieldsWhole_config c, isWhole_listToJson rest⟩

theorem isWhole_rowsToJson : ∀ rows, ∀ j ∈ rowsToJson rows, j.IsWhole
  | [] => by simp [rowsToJson]
  | ⟨cells⟩ :: rest => by
    simpa [rowsToJson] using ⟨fieldsWhole_cellsToJson cells, isWhole_rowsToJson rest⟩

theorem fieldsWhole_cellsToJson : ∀ cells, Json.FieldsWhole (cellsToJson cells)
  | [] => by simp [cellsToJson]
  | (column, content) :: rest => by
    simpa [cellsToJson, toJson_eq_envelope] using
      ⟨fieldsWhole_config content, fieldsWhole_cellsToJson rest⟩

theorem isWhole_sectionsToJson : ∀ sections, ∀ j ∈ sectionsToJson sections, j.IsWhole
  | [] => by simp [sectionsToJson]
  | ⟨header, content⟩ :: rest => by
    simpa [sectionsToJson, toJson_eq_envelope] using
      ⟨fieldsWhole_config content, isWhole_sectionsToJson rest⟩

theorem isWhole_layoutToJson : ∀ sections, ∀ j ∈ layoutToJson sections, j.IsWhole
  | [] => by simp [layoutToJson]
  | ⟨items⟩ :: rest => by
    simpa [layoutToJson] using ⟨isWhole_itemsToJson items, isWhole_layoutToJson rest⟩

theorem isWhole_itemsToJson : ∀ items, ∀ j ∈ itemsToJson items, j.IsWhole
  | [] => by simp [itemsToJson]
  | ⟨width, view⟩ :: rest => by
    simpa [itemsToJson, toJson_eq_envelope] using
      ⟨fieldsWhole_config view, isWhole_itemsToJson rest⟩

end

theorem isWhole_toJson (c : Component) : c.toJson.IsWhole := by
  rw [toJson_eq_envelope, isWhole_envelope_iff]
  exact fieldsWhole_config c

/-- What tells components apart when they are written. -/
structure WrittenApart : Prop where
  /-- A component is written as an object of its metadata, which are its kind and its title if it
  has one, and its configuration. -/
  envelope : ∀ c : Component, c.toJson = envelope c.kind c.title c.config
  /-- Every component is read back, with what is left out when it is empty. -/
  read : ∀ c : Component, ofJson? c.toJson = some c
  /-- Components with the same text without blanks are the same. -/
  compact : ∀ c d : Component, c.toJson.compact = d.toJson.compact → c = d
  /-- Components with the same text with one item a line are the same. -/
  pretty : ∀ c d : Component, c.toJson.pretty = d.toJson.pretty → c = d

/-- **No two components are written alike.** -/
theorem written_apart : WrittenApart where
  envelope := toJson_eq_envelope
  read := ofJson?_toJson
  compact c d h := toJson_injective (Json.compact_inj c.isWhole_toJson d.isWhole_toJson h)
  pretty c d h := toJson_injective (Json.pretty_inj c.isWhole_toJson d.isWhole_toJson h)

end Component

end ClusterView

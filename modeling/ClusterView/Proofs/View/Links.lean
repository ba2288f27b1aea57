import ClusterView.Proofs.StringMap
import ClusterView.View.Component

/-!
# Links inside components

A component shows a link if it is the link or if one of its parts shows it (`Component.Shows`). What
holds of all links that a component shows (`Component.AllLinks`) is read off its parts, and for each
kind of components one lemma says of which.
-/

namespace ClusterView

namespace Component

/-- A component shows a link, itself or in a part at any depth. -/
inductive Shows (l : Link) : Component → Prop
  | link : Shows l (.link l)
  | list {items : Listing Component} {c : Component} (hc : c ∈ items.items) (h : Shows l c) :
      Shows l (.list items)
  | table {t : Table Component} {row : Table.Row Component} {cell : String × Component}
      (hrow : row ∈ t.rows) (hcell : cell ∈ row.cells) (h : Shows l cell.2) : Shows l (.table t)
  | summary {s : Summary Component} {part : Summary.Section Component} (hpart : part ∈ s.sections)
      (h : Shows l part.content) : Shows l (.summary s)
  | layout {page : Layout Component} {part : Layout.Section Component}
      {item : Layout.Item Component} (hpart : part ∈ page.sections) (hitem : item ∈ part.items)
      (h : Shows l item.view) : Shows l (.layout page)

/-- Whether all links that a component shows have a property. -/
def AllLinks (P : Link → Prop) (c : Component) : Prop := ∀ l, c.Shows l → P l

end Component

/-- Whether all links that a row shows have a property. -/
def Table.Row.AllLinks (P : Link → Prop) (row : Table.Row Component) : Prop :=
  ∀ cell ∈ row.cells, cell.2.AllLinks P

/-- Whether all links that a table shows have a property. -/
def Table.AllLinks (P : Link → Prop) (t : Table Component) : Prop :=
  ∀ row ∈ t.rows, row.AllLinks P

/-- Whether all links that a summary shows have a property. -/
def Summary.AllLinks (P : Link → Prop) (s : Summary Component) : Prop :=
  ∀ part ∈ s.sections, part.content.AllLinks P

variable {P : Link → Prop}

namespace Component

/-! ## Components without parts -/

@[simp] theorem allLinks_text (value : String) : (text value).AllLinks P := fun _ h => nomatch h

@[simp] theorem allLinks_timestamp (seconds : Int) : (timestamp seconds).AllLinks P :=
  fun _ h => nomatch h

@[simp] theorem allLinks_labels (m : StringMap String) : (labels m).AllLinks P :=
  fun _ h => nomatch h

@[simp] theorem allLinks_selectors (shown : List Selector) : (selectors shown).AllLinks P :=
  fun _ h => nomatch h

@[simp] theorem allLinks_containers (images : List ContainerImage) :
    (containers images).AllLinks P :=
  fun _ h => nomatch h

@[simp] theorem allLinks_quadrant (q : Quadrant) : (quadrant q).AllLinks P := fun _ h => nomatch h

@[simp] theorem allLinks_link {l : Link} : (link l).AllLinks P ↔ P l := by
  constructor
  · exact fun h => h l .link
  · rintro h _ ⟨⟩
    exact h

/-! ## Components with parts -/

@[simp] theorem allLinks_list {items : Listing Component} :
    (list items).AllLinks P ↔ ∀ c ∈ items.items, c.AllLinks P := by
  constructor
  · exact fun h c hc l hl => h l (.list hc hl)
  · intro h l hl
    cases hl with
    | list hc hl => exact h _ hc l hl

@[simp] theorem allLinks_table {t : Table Component} : (table t).AllLinks P ↔ t.AllLinks P := by
  constructor
  · exact fun h row hrow cell hcell l hl => h l (.table hrow hcell hl)
  · intro h l hl
    cases hl with
    | table hrow hcell hl => exact h _ hrow _ hcell l hl

@[simp] theorem allLinks_summary {s : Summary Component} :
    (summary s).AllLinks P ↔ s.AllLinks P := by
  constructor
  · exact fun h part hpart l hl => h l (.summary hpart hl)
  · intro h l hl
    cases hl with
    | summary hpart hl => exact h _ hpart l hl

/-- It does not matter in which sections the items of a layout are. -/
theorem allLinks_layout {page : Layout Component} :
    (layout page).AllLinks P ↔
      ∀ item ∈ page.sections.flatMap (·.items), item.view.AllLinks P := by
  simp only [List.mem_flatMap]
  constructor
  · rintro h item ⟨part, hpart, hitem⟩ l hl
    exact h l (.layout hpart hitem hl)
  · intro h l hl
    cases hl with
    | layout hpart hitem hl => exact h _ ⟨_, hpart, hitem⟩ l hl

end Component

/-! ## Rows and sections -/

/-- A row shows the links of the cells that it is made of. -/
theorem Table.Row.allLinks_ofCells {cells : List (String × Component)}
    (h : ∀ cell ∈ cells, cell.2.AllLinks P) : (ofCells cells).AllLinks P := by
  intro cell hcell
  rw [cells_ofCells] at hcell
  exact h cell (StringMap.mem_of_mem_entries_ofList hcell)

@[simp] theorem Summary.Section.allLinks_ofText (header text : String) :
    (ofText header text).content.AllLinks P :=
  Component.allLinks_text text

@[simp] theorem Summary.allLinks_ofSections {title : String}
    {sections : List (Summary.Section Component)} :
    (ofSections title sections).AllLinks P ↔ ∀ part ∈ sections, part.content.AllLinks P :=
  Iff.rfl

theorem Summary.AllLinks.add {s : Summary Component} (h : s.AllLinks P)
    {sections : List (Summary.Section Component)}
    (hsections : ∀ part ∈ sections, part.content.AllLinks P) : (s.add sections).AllLinks P :=
  List.forall_mem_append.2 ⟨h, hsections⟩

end ClusterView

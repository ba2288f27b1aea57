import ClusterView.Proofs.Print.Lists
import ClusterView.Proofs.Print.Tables
import ClusterView.Proofs.StringMap

/-!
# The data of config maps and secrets

A list has a number for the data of a config map or a secret, and the page of the object has a table
with one row for each value. `data_counted` says what the rows are, in which order they stand, and
that the number is that of the rows: a key that a config map has for a text and for bytes is shown
and counted twice.
-/

namespace ClusterView

open Outcome

/-! ## Lists -/

namespace ListView

variable {α : Type} [Resource α] {v : ListView α}

/-- Whether lists show a number for the data of each resource. -/
structure CountsData (v : ListView α) (count : α → Nat) : Prop where
  /-- A list is printed where each resource can be linked. -/
  exists_ok_iff : ∀ (o : PrintOptions) (list : List α), (∃ table, v.print o list = .ok table) ↔
    ∀ r ∈ list, ∃ link, nameLink r o = .ok link
  /-- There is one row for each resource, in their order, with its number in decimal digits. -/
  rows : ∀ (o : PrintOptions) (list : List α) (table : Table Component),
    v.print o list = .ok table →
    List.Forall₂ (fun r row => row.get? "Data" = some (.text (toString (count r)))) list table.rows

theorem countsData_of_mem {count : α → Nat}
    (h : ("Data", fun r => .ofNat (count r)) ∈ v.cells) : v.CountsData count where
  exists_ok_iff o list := by
    rw [print_eq, exists_map_eq_ok_iff, exists_mapM_eq_ok_iff]
    simp only [row_eq, exists_map_eq_ok_iff]
  rows o list table htable := by
    rw [print_eq, map_eq_ok_iff] at htable
    obtain ⟨rows, hrows, rfl⟩ := htable
    refine (mapM_eq_ok_iff.1 hrows).imp fun r row hrow => ?_
    rw [row_eq, map_eq_ok_iff] at hrow
    obtain ⟨link, -, rfl⟩ := hrow
    exact v.get?_rowWith_cell o h r link

end ListView

/-! ## Tables of a page -/

namespace Page

/-- An item of a page is in one of the sections that are printed. -/
theorem exists_section_of_print {p : Page} {o : PrintOptions} {c : Component}
    (h : p.print o = .ok c) {item : PageItem} (hitem : item ∈ p.items) {view : Component}
    (hview : item.content = .ok view) :
    ∃ l : Layout Component, c = .layout l ∧ ∃ s ∈ l.sections, ⟨item.width, view⟩ ∈ s.items := by
  rw [print, map_eq_ok_iff, layout_eq] at h
  obtain ⟨l, hl, rfl⟩ := h
  simp only [bind_eq_ok_iff, pure_eq_ok_iff, makeItems_eq_ok_iff] at hl
  obtain ⟨added, -, metadata, -, items, hitems, template, -, events, -, rfl⟩ := hl
  obtain ⟨⟨width, view'⟩, hshown, hcontent, hwidth⟩ := exists_right_of_mem hitems hitem
  obtain rfl : view = view' := Except.ok.inj (hview.symm.trans hcontent)
  obtain rfl : width = item.width := hwidth
  have hmem : (⟨item.width, view⟩ : Layout.Item Component) ∈
      (Layout.packed .empty (items ++ added.items)).flatMap (·.items) := by
    rw [(Layout.packing_packed _).flatMap_eq]
    exact List.mem_append_left _ hshown
  obtain ⟨s, hs, hview⟩ := List.mem_flatMap.1 hmem
  exact ⟨_, rfl, s, by simp [hs], hview⟩

/-- Whether a table is the data of a page: it is all the page has beside its summaries, and the page
shows it wherever it is printed. -/
structure ShowsData (p : Page) (table : Table Component) : Prop where
  title : table.title = "Data"
  items : p.items = [⟨.full, .ok (.table table)⟩]
  printed : ∀ (o : PrintOptions) (c : Component), p.print o = .ok c →
    ∃ l : Layout Component, c = .layout l ∧ ∃ s ∈ l.sections, ⟨.full, .table table⟩ ∈ s.items

theorem showsData_of_items {p : Page} {table : Table Component} (htitle : table.title = "Data")
    (hitems : p.items = [⟨.full, .ok (.table table)⟩]) : p.ShowsData table where
  title := htitle
  items := hitems
  printed _ _ hc := exists_section_of_print hc (hitems ▸ List.mem_singleton_self _) rfl

end Page

/-! ## Data -/

section

variable {α : Type} {data : Option (StringMap α)} {key : String}

theorem mem_entries_getD_iff {value : α} :
    (key, value) ∈ (data.getD ∅).entries ↔ ∃ m ∈ data, m.get? key = some value := by
  rw [StringMap.mem_entries_iff, StringMap.get?_getD_eq_some_iff]

theorem mem_keys_getD_iff :
    key ∈ (data.getD ∅).keys ↔ ∃ m ∈ data, (m.get? key).isSome = true := by
  simp only [StringMap.mem_keys_iff, Option.isSome_iff_exists, StringMap.get?_getD_eq_some_iff]
  exact ⟨fun ⟨value, m, hm, h⟩ => ⟨m, hm, value, h⟩, fun ⟨m, hm, value, h⟩ => ⟨value, m, hm, h⟩⟩

end

/-- Whether rows show the data of a config map: each text as it is, and then a mark for each value
of bytes, both in the ascending order of their keys. -/
def ConfigMap.IsShownBy (c : ConfigMap) (rows : List (Table.Row Component)) : Prop :=
  ∃ (texts : List (String × String)) (binary : List String),
    (texts.Pairwise fun d e => d.1 < e.1) ∧
    (∀ key text, (key, text) ∈ texts ↔ ∃ m ∈ c.data, m.get? key = some text) ∧
    binary.Pairwise (· < ·) ∧
    (∀ key, key ∈ binary ↔ ∃ m ∈ c.binaryData, (m.get? key).isSome = true) ∧
    rows = texts.map (fun e => .ofCells [("Key", .text e.1), ("Value", .text e.2)]) ++
      binary.map fun key => .ofCells [("Key", .text key), ("Value", .text "<binary data>")]

/-- Whether rows show the keys of a secret, in ascending order. -/
def Secret.IsShownBy (s : Secret) (rows : List (Table.Row Component)) : Prop :=
  ∃ keys : List String, keys.Pairwise (· < ·) ∧
    (∀ key, key ∈ keys ↔ ∃ m ∈ s.data, (m.get? key).isSome = true) ∧
    rows = keys.map fun key => .ofCells [("Key", .text key)]

theorem ConfigMap.isShownBy_valueTable (c : ConfigMap) : c.IsShownBy c.valueTable.rows :=
  ⟨c.texts, c.binaryKeys, (c.data.getD ∅).ascending, fun _ _ => mem_entries_getD_iff,
    List.pairwise_map.2 (c.binaryData.getD ∅).ascending, fun _ => mem_keys_getD_iff, rfl⟩

theorem Secret.isShownBy_keyTable (s : Secret) : s.IsShownBy s.keyTable.rows :=
  ⟨s.keys, List.pairwise_map.2 (s.data.getD ∅).ascending, fun _ => mem_keys_getD_iff, rfl⟩

theorem ConfigMap.showsData_page (c : ConfigMap) : c.page.ShowsData c.valueTable := by
  refine Page.showsData_of_items rfl ?_
  rw [page, c.dataTable_eq]
  rfl

theorem Secret.showsData_page (s : Secret) : s.page.ShowsData s.keyTable := by
  refine Page.showsData_of_items rfl ?_
  rw [page, s.dataTable_eq]
  rfl

theorem ConfigMap.countsData_listView :
    ConfigMap.listView.CountsData fun c => c.valueTable.rows.length :=
  ListView.countsData_of_mem (by simp [listView, valueTable])

theorem Secret.countsData_listView :
    Secret.listView.CountsData fun s => s.keyTable.rows.length :=
  ListView.countsData_of_mem (by simp [listView, keyTable])

/-- **Lists count what pages show.** The page of a config map has a table of all its texts and of
the keys of its bytes, that of a secret one of its keys, and for each of them a list has the number
of the rows of its table. -/
theorem data_counted :
    ((∀ c : ConfigMap, c.page.ShowsData c.valueTable ∧ c.IsShownBy c.valueTable.rows) ∧
      ConfigMap.listView.CountsData fun c => c.valueTable.rows.length) ∧
    (∀ s : Secret, s.page.ShowsData s.keyTable ∧ s.IsShownBy s.keyTable.rows) ∧
      Secret.listView.CountsData fun s => s.keyTable.rows.length :=
  ⟨⟨fun c => ⟨c.showsData_page, c.isShownBy_valueTable⟩, ConfigMap.countsData_listView⟩,
    fun s => ⟨s.showsData_page, s.isShownBy_keyTable⟩, Secret.countsData_listView⟩

end ClusterView

import ClusterView.StringMap
import ClusterView.View.Error

/-!
# Tables

A table has columns and rows, a row at most one cell for a column. A row goes into a table only if
the table has a column for each of its cells (`add_eq_ok_iff`); a refused row is blamed on its
smallest unknown column.
-/

namespace ClusterView

/-- A column: the name shown and the name under which rows hold its cells. -/
structure Table.Column where
  name : String
  accessor : String
deriving DecidableEq

/-- The cells of a row under the accessors of their columns. -/
structure Table.Row (α : Type) where
  cells : List (String × α)

/-- A titled table with its rows in the order of their insertion. -/
structure Table (α : Type) where
  title : String
  columns : List Table.Column
  rows : List (Table.Row α)
  /-- The text shown instead of the rows when there are none. -/
  emptyContent : String

namespace Table

variable {α : Type}

/-- Columns that are accessed by their names. -/
def columnsNamed (names : List String) : List Column := names.map fun name => ⟨name, name⟩

/-! ## Rows -/

namespace Row

/-- The row without cells. -/
def empty : Row α := ⟨[]⟩

/-- Sets the cell of a column, replacing the one there; cells stay in ascending column order. -/
def set (r : Row α) (column : String) (content : α) : Row α :=
  ⟨insertEntry column content r.cells⟩

/-- The row with the given cells, set in order. -/
def ofCells (cells : List (String × α)) : Row α :=
  cells.foldl (fun r cell => r.set cell.1 cell.2) empty

/-- The cell of a column. -/
def get? (r : Row α) (column : String) : Option α := findEntry column r.cells

/-- The columns that have a cell, ascending. -/
def columns (r : Row α) : List String := r.cells.map (·.1)

/-- The number of cells. -/
def size (r : Row α) : Nat := r.cells.length

theorem get?_set (r : Row α) (column : String) (content : α) (c : String) :
    (r.set column content).get? c = if column = c then some content else r.get? c :=
  findEntry_insertEntry column content r.cells c

/-- The cells of a row are those of the map of them. -/
theorem cells_ofCells (cells : List (String × α)) :
    (ofCells cells).cells = (StringMap.ofList cells).entries := by
  suffices ∀ (r : Row α) (m : StringMap α), r.cells = m.entries →
      (cells.foldl (fun r cell => r.set cell.1 cell.2) r).cells =
        (cells.foldl (fun m cell => m.insert cell.1 cell.2) m).entries from this empty .empty rfl
  induction cells with
  | nil => exact fun r m h => h
  | cons cell rest ih =>
    intro r m h
    exact ih _ _ (congrArg (insertEntry cell.1 cell.2) h)

/-- Of the cells that are set for a column the last one counts. -/
theorem get?_ofCells (cells : List (String × α)) (c : String) :
    (ofCells cells).get? c = findEntry c cells.reverse := by
  rw [get?, cells_ofCells]
  exact StringMap.get?_ofList cells c

/-- A row has the columns for which a cell is set. -/
theorem mem_columns_ofCells {cells : List (String × α)} {c : String} :
    c ∈ (ofCells cells).columns ↔ c ∈ cells.map (·.1) := by
  rw [columns, cells_ofCells]
  exact StringMap.mem_keys_ofList

end Row

/-! ## Tables -/

/-- A table without rows. -/
def empty (title emptyContent : String) (columns : List Column) : Table α :=
  { title, columns, rows := [], emptyContent }

/-- Whether the table has a column with an accessor. -/
def hasColumn (t : Table α) (accessor : String) : Bool :=
  t.columns.any fun c => c.accessor == accessor

theorem hasColumn_iff {t : Table α} {accessor : String} :
    t.hasColumn accessor = true ↔ accessor ∈ t.columns.map (·.accessor) := by
  simp [hasColumn]

@[simp] theorem map_accessor_columnsNamed (names : List String) :
    (columnsNamed names).map (·.accessor) = names := by
  rw [columnsNamed, List.map_map]
  exact List.map_id names

/-- Adds a row at the end if the table has a column for each of its cells. -/
def add (t : Table α) (row : Row α) : Except ViewError (Table α) :=
  match row.columns.find? fun c => !t.hasColumn c with
  | some column => .error (.unknownColumn t.title column)
  | none => .ok { t with rows := t.rows ++ [row] }

/-- Adds rows in order, up to the first that is refused. -/
def addAll (t : Table α) (rows : List (Row α)) : Except ViewError (Table α) := rows.foldlM add t

/-- A table with the given rows, or the error of the first that is refused. -/
def ofRows (title emptyContent : String) (columns : List Column) (rows : List (Row α)) :
    Except ViewError (Table α) :=
  (empty title emptyContent columns).addAll rows

/-- Whether the table has no rows. -/
def isEmpty (t : Table α) : Bool := t.rows.isEmpty

/-- A row goes into a table exactly when all its cells belong to columns, and then to the end. -/
theorem add_eq_ok_iff {t u : Table α} {row : Row α} :
    t.add row = .ok u ↔
      (∀ c ∈ row.columns, t.hasColumn c = true) ∧ u = { t with rows := t.rows ++ [row] } := by
  unfold add
  cases h : row.columns.find? fun c => !t.hasColumn c with
  | none =>
    have hall : ∀ c ∈ row.columns, t.hasColumn c = true := by simpa using h
    exact ⟨fun h => ⟨hall, (Except.ok.inj h).symm⟩, fun h => h.2 ▸ rfl⟩
  | some c =>
    have hm := List.mem_of_find?_eq_some h
    have hc := List.find?_some h
    simp only [reduceCtorEq, false_iff, not_and]
    intro hall
    simp [hall c hm] at hc

/-- Rows go into a table exactly when each of them does, and then to the end in their order. -/
theorem addAll_eq_ok_iff {t u : Table α} {rows : List (Row α)} :
    t.addAll rows = .ok u ↔ (∀ row ∈ rows, ∀ c ∈ row.columns, t.hasColumn c = true) ∧
      u = { t with rows := t.rows ++ rows } := by
  induction rows generalizing t with
  | nil =>
    have hnil : t.addAll [] = .ok t := rfl
    rw [hnil, List.append_nil]
    exact ⟨fun h => ⟨by simp, (Except.ok.inj h).symm⟩, fun h => congrArg Except.ok h.2.symm⟩
  | cons row rest ih =>
    have hcons : t.addAll (row :: rest) = t.add row >>= fun v => v.addAll rest := rfl
    rw [hcons]
    constructor
    · intro h
      cases hadd : t.add row with
      | error e =>
        rw [hadd] at h
        cases h
      | ok v =>
        rw [hadd] at h
        obtain ⟨hrow, rfl⟩ := add_eq_ok_iff.1 hadd
        obtain ⟨hrest, rfl⟩ := ih.1 h
        exact ⟨List.forall_mem_cons.2 ⟨hrow, hrest⟩, by simp⟩
    · rintro ⟨hall, rfl⟩
      obtain ⟨hrow, hrest⟩ := List.forall_mem_cons.1 hall
      rw [add_eq_ok_iff.2 ⟨hrow, rfl⟩]
      exact ih.2 ⟨hrest, by simp⟩

end Table

end ClusterView

import ClusterView.Cluster.Kind.PodTemplate
import ClusterView.Print.Basic

/-!
# Lists of resources

A `ListView` says how the resources of a kind are shown in a table: its columns, and the cells of a
row beside the name, which is a link, and the labels, which the options can turn off. Columns and
cells are given apart, and a view carries the proof that they agree. `ListView.print` adds one row
after the other.
-/

namespace ClusterView

/-- The name of the column of labels. -/
def labelsColumn : String := "Labels"

/-- How the resources of a kind are shown in a table. -/
structure ListView (α : Type) where
  /-- What is missing when there is no list. -/
  input : String
  title : String
  /-- The text shown when there are no resources. -/
  emptyContent : String
  /-- The names of the columns, where labels are shown. -/
  columns : List String
  /-- The cells of a row beside its name and its labels, under their columns. -/
  cells : List (String × (α → Component))
  /-- There is a column for every cell of a row, and there are no others. -/
  columns_eq : columns = "Name" :: labelsColumn :: cells.map (·.1)
  /-- No two columns have one name. -/
  nodup_columns : columns.Nodup

/-- The link to a resource, shown with its name. -/
def nameLink {α : Type} [Resource α] (r : α) (o : PrintOptions) : Except PrintError Link :=
  o.link.forObject (.ofResource r) (Resource.displayName r)

namespace ListView

variable {α : Type} [Resource α]

omit [Resource α] in
/-- The names of the columns under some options. -/
def columnNames (v : ListView α) (o : PrintOptions) : List String :=
  if o.showLabels then v.columns else v.columns.filter fun name => name ≠ labelsColumn

/-- The row of a resource. -/
def row (v : ListView α) (o : PrintOptions) (r : α) : Except PrintError (Table.Row Component) := do
  let link ← nameLink r o
  let labels :=
    if o.showLabels then [(labelsColumn, .labels (Resource.metadata r).labelMap)] else []
  return .ofCells (("Name", .link link) :: labels ++ v.cells.map fun c => (c.1, c.2 r))

/-- Adds the row of a resource to a table. -/
def addRow (v : ListView α) (o : PrintOptions) (t : Table Component) (r : α) :
    Except PrintError (Table Component) := do
  let row ← v.row o r
  t.add row

/-- The table of some resources, to which one row after the other is added. -/
def print (v : ListView α) (o : PrintOptions) (list : List α) :
    Except PrintError (Table Component) :=
  list.foldlM (v.addRow o)
    (.empty v.title v.emptyContent (Table.columnsNamed (v.columnNames o)))

/-- The table of a list that may be missing. -/
def printInput (v : ListView α) (o : PrintOptions) (list : Option (List α)) :
    Except PrintError (Table Component) := do
  v.print o (← orMissing v.input list)

end ListView

/-! ## Cells -/

/-- The age of a resource. -/
def ageOf {α : Type} [Resource α] (r : α) : Component :=
  timestampOf (Resource.metadata r).creationTimestamp

/-- The names and images of the containers of a pod template. -/
def containerImages (template : Option PodTemplate) : Component :=
  .containers (match template with
    | some t => t.containers.map fun c => ⟨c.name, c.image.getD ""⟩
    | none => [])

end ClusterView

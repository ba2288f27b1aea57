import ClusterView.Print.Printer
import ClusterView.Proofs.Cluster.Conversion
import ClusterView.Proofs.Link.Path
import ClusterView.Proofs.Outcome
import ClusterView.Proofs.StringMap
import ClusterView.Store.Memory
import Mathlib.Data.List.Find

/-!
# Printing lists

A list of objects is printed whole or not at all. All its objects are converted before the first of
them gets a row (`printAs_eq_bind`), so an object that does not convert is reported rather than one
without an address that stands before it. The row of an object has a cell for each column and no
other (`ListView.map_cellsWith`), so a table refuses no row (`ListView.addRow_eq`), one row after
the other is added (`ListView.foldlM_addRow`) and only the link to an object can fail.
`printList_answers` says what follows for lists whose links are paths.
-/

namespace ClusterView

open Outcome

/-! ## Rows and tables -/

/-- Of cells for different columns, each is found under its column. -/
theorem Table.Row.get?_ofCells_of_mem {α : Type} {cells : List (String × α)} {column : String}
    {content : α} (h : (cells.map (·.1)).Nodup) (hmem : (column, content) ∈ cells) :
    (ofCells cells).get? column = some content := by
  have hreverse : (cells.reverse.map (·.1)).Nodup := by
    rw [List.map_reverse]
    exact List.nodup_reverse.2 h
  rw [get?_ofCells, findEntry_eq_some_iff_of_nodup hreverse]
  exact List.mem_reverse.2 hmem

namespace ListView

section Columns

variable {α : Type} (v : ListView α) (o : PrintOptions)

theorem labelsColumn_notMem : labelsColumn ∉ v.cells.map (·.1) := by
  have h := v.nodup_columns
  rw [v.columns_eq] at h
  exact (List.nodup_cons.1 (List.nodup_cons.1 h).2).1

/-- Without labels, only their column is left out. -/
theorem columnNames_eq : v.columnNames o =
    "Name" :: (if o.showLabels then [labelsColumn] else []) ++ v.cells.map (·.1) := by
  unfold columnNames
  rw [v.columns_eq]
  split
  · rfl
  · have hrest : (v.cells.map (·.1)).filter (fun name => name ≠ labelsColumn) =
        v.cells.map (·.1) :=
      List.filter_eq_self.2 fun name hname =>
        decide_eq_true (ne_of_mem_of_not_mem hname v.labelsColumn_notMem)
    rw [List.filter_cons_of_pos (by decide), List.filter_cons_of_neg (by simp), hrest]
    rfl

theorem nodup_columnNames : (v.columnNames o).Nodup := by
  unfold columnNames
  split
  · exact v.nodup_columns
  · exact v.nodup_columns.filter _

theorem labelsColumn_mem_columnNames : labelsColumn ∈ v.columnNames o ↔ o.showLabels = true := by
  unfold columnNames
  split
  next h => simp [v.columns_eq, h]
  next h => simp [h]

/-- The table with some rows. -/
def tableOf (rows : List (Table.Row Component)) : Table Component where
  title := v.title
  columns := Table.columnsNamed (v.columnNames o)
  rows := rows
  emptyContent := v.emptyContent

end Columns

variable {α : Type} [Resource α] (v : ListView α) (o : PrintOptions)

/-- The cells of the row of a resource under the link to it. -/
def cellsWith (r : α) (link : Link) : List (String × Component) :=
  let labels :=
    if o.showLabels then [(labelsColumn, .labels (Resource.metadata r).labelMap)] else []
  ("Name", .link link) :: labels ++ v.cells.map fun c => (c.1, c.2 r)

/-- The row of a resource under the link to it. -/
def rowWith (r : α) (link : Link) : Table.Row Component := .ofCells (v.cellsWith o r link)

/-- Of a row only the link can fail. -/
theorem row_eq (r : α) : v.row o r = (nameLink r o).map (v.rowWith o r) := by
  unfold row
  cases nameLink r o <;> rfl

/-- With labels and without them, a row has a cell for each column, in the order of the columns. -/
theorem map_cellsWith (r : α) (link : Link) :
    (v.cellsWith o r link).map (·.1) = v.columnNames o := by
  rw [columnNames_eq]
  unfold cellsWith
  split <;> simp [Function.comp_def]

theorem mem_columns_rowWith {r : α} {link : Link} {c : String} :
    c ∈ (v.rowWith o r link).columns ↔ c ∈ v.columnNames o := by
  rw [rowWith, Table.Row.mem_columns_ofCells, map_cellsWith]

theorem mem_columns_of_row {r : α} {row : Table.Row Component} (h : v.row o r = .ok row)
    {c : String} : c ∈ row.columns ↔ c ∈ v.columnNames o := by
  rw [row_eq, map_eq_ok_iff] at h
  obtain ⟨link, -, rfl⟩ := h
  exact v.mem_columns_rowWith o

/-- Each cell of a row is found under its column. -/
theorem get?_rowWith_of_mem {r : α} {link : Link} {column : String} {content : Component}
    (h : (column, content) ∈ v.cellsWith o r link) :
    (v.rowWith o r link).get? column = some content := by
  refine Table.Row.get?_ofCells_of_mem ?_ h
  rw [map_cellsWith]
  exact v.nodup_columnNames o

/-- The link stands under the name. -/
theorem get?_rowWith (r : α) (link : Link) :
    (v.rowWith o r link).get? "Name" = some (.link link) :=
  v.get?_rowWith_of_mem o List.mem_cons_self

/-- Under a column of the view stands its cell. -/
theorem get?_rowWith_cell {column : String} {cell : α → Component}
    (h : (column, cell) ∈ v.cells) (r : α) (link : Link) :
    (v.rowWith o r link).get? column = some (cell r) :=
  v.get?_rowWith_of_mem o
    (List.mem_append_right _ (List.mem_map_of_mem (f := fun c => (c.1, c.2 r)) h))

section Adding

variable {v o} {t : Table Component} (h : t.columns = Table.columnsNamed (v.columnNames o))
include h

/-- A table with the columns of the view refuses no row of it. -/
theorem addRow_eq (r : α) :
    v.addRow o t r = (v.row o r).map fun row => { t with rows := t.rows ++ [row] } := by
  unfold addRow
  cases hrow : v.row o r with
  | error e => rfl
  | ok row =>
    have hadd : t.add row = .ok { t with rows := t.rows ++ [row] } := by
      refine Table.add_eq_ok_iff.2 ⟨fun c hc => ?_, rfl⟩
      rw [Table.hasColumn_iff, h, Table.map_accessor_columnsNamed]
      exact (v.mem_columns_of_row o hrow).1 hc
    rw [ok_bind, hadd]
    rfl

/-- One row after the other is added, if all of them can be made. -/
theorem foldlM_addRow (list : List α) : list.foldlM (v.addRow o) t =
    (list.mapM (v.row o)).map fun rows => { t with rows := t.rows ++ rows } := by
  induction list generalizing t with
  | nil => simp [pure, Except.pure, Except.map]
  | cons r list ih =>
    rw [List.foldlM_cons, List.mapM_cons, addRow_eq h]
    cases v.row o r with
    | error e => rfl
    | ok row =>
      refine (ih (t := { t with rows := t.rows ++ [row] }) h).trans ?_
      rw [ok_bind]
      cases list.mapM (v.row o) with
      | error e => rfl
      | ok rows => simp [Except.map, pure, Except.pure]

end Adding

/-- The table of a list has the rows of its resources, if they can be made. -/
theorem print_eq (list : List α) : v.print o list = (list.mapM (v.row o)).map (v.tableOf o) := by
  unfold print
  rw [foldlM_addRow rfl]
  rfl

/-- The row of an object, once it is converted. -/
def objectRow (x : Object) : Except PrintError (Table.Row Component) := do
  v.row o (← x.convert α)

end ListView

/-! ## Objects of a list -/

namespace PrintableKind

/-- The type of the objects of a kind. -/
def types : PrintableKind → TypeMeta
  | deployment => Resource.types Deployment
  | job => Resource.types Job
  | configMap => Resource.types ConfigMap
  | replicationController => Resource.types ReplicationController
  | secret => Resource.types Secret
  | serviceAccount => Resource.types ServiceAccount

theorem ofType?_eq_some_iff {apiVersion kind : String} {k : PrintableKind} :
    ofType? apiVersion kind = some k ↔ (⟨apiVersion, kind⟩ : TypeMeta) = k.types := by
  constructor
  · intro h
    unfold ofType? at h
    split at h <;> cases h <;> rfl
  · intro h
    obtain ⟨rfl, rfl⟩ := TypeMeta.mk.inj h
    cases k <;> rfl

/-- Whether an object has the shape of the kind. -/
def Converts (k : PrintableKind) : Object → Prop :=
  match k with
  | deployment => Object.Converts Deployment
  | job => Object.Converts Job
  | configMap => Object.Converts ConfigMap
  | replicationController => Object.Converts ReplicationController
  | secret => Object.Converts Secret
  | serviceAccount => Object.Converts ServiceAccount

section

variable {α : Type} [Resource α] {v : ListView α} {o : PrintOptions} {objects : List Object}

/-- First all objects of a list are converted, then the rows are made. -/
theorem printAs_eq_bind : printAs v o objects =
    (liftM (objects.mapM (Object.convert α)) : Except PrintError _) >>= fun _ =>
      (objects.mapM (v.objectRow o)).map fun rows => .table (v.tableOf o rows) := by
  unfold printAs
  cases hlist : objects.mapM (Object.convert α) with
  | error e => rfl
  | ok list =>
    have hrows : objects.mapM (v.objectRow o) = list.mapM (v.row o) :=
      mapM_congr ((mapM_eq_ok_iff.1 hlist).imp fun x r hr => by rw [ListView.objectRow, hr]; rfl)
    rw [liftM_store_ok, ok_bind, ok_bind, ListView.print_eq, hrows]
    cases list.mapM (v.row o) <;> rfl

theorem printAs_of_converts (h : ∀ x ∈ objects, x.Converts α) : printAs v o objects =
    (objects.mapM (v.objectRow o)).map fun rows => .table (v.tableOf o rows) := by
  obtain ⟨list, hlist⟩ := exists_mapM_eq_ok_iff.2 h
  rw [printAs_eq_bind, hlist]
  rfl

/-- A single object that does not convert is reported, wherever it stands in the list. -/
theorem printAs_of_not_converts (h : ∃ x ∈ objects, ¬ x.Converts α) :
    printAs v o objects = .error (.store .conversion) := by
  rw [printAs_eq_bind]
  cases hlist : objects.mapM (Object.convert α) with
  | error e =>
    obtain ⟨x, -, hx⟩ := mapM_eq_error_iff.1 hlist
    obtain rfl := Object.convert_eq_error hx
    rfl
  | ok list =>
    obtain ⟨x, hx, hfails⟩ := h
    exact absurd (exists_mapM_eq_ok_iff.1 ⟨list, hlist⟩ x hx) hfails

end

end PrintableKind

/-! ## Lists under paths -/

/-- A table that lists objects. -/
structure Table.Lists (link : Object → Except LinkError Link) (showLabels : Bool)
    (objects : List Object) (table : Table Component) : Prop where
  /-- There is one row for each object, in their order, under the link that shows its name. -/
  rows : List.Forall₂ (fun x row => ∃ l, link x = .ok l ∧ l.text = x.displayName ∧
    row.get? "Name" = some (.link l)) objects table.rows
  /-- Every row has the columns of the table. -/
  columns : ∀ row ∈ table.rows, ∀ c, c ∈ row.columns ↔ c ∈ table.columns.map (·.accessor)
  /-- There is a column of labels exactly if labels are shown. -/
  labels : labelsColumn ∈ table.columns.map (·.accessor) ↔ showLabels = true

/-- How a list of objects of a type is printed. -/
structure ListAnswers (base : String) (t : TypeMeta) (converts : Object → Prop) (showLabels : Bool)
    (objects : List Object) (answer : Except PrintError Component) : Prop where
  /-- The list is printed exactly if every object converts and has an address. -/
  exists_ok_iff : (∃ c, answer = .ok c) ↔
    ∀ x ∈ objects, converts x ∧ (Reference.ofType t x).hasAddress = true
  /-- What is printed is a table of all the objects. -/
  table_of_ok : ∀ c, answer = .ok c →
    ∃ table, c = .table table ∧ table.Lists (Object.pathLink base t) showLabels objects
  /-- An object that does not convert is reported before the first one without an address. -/
  error_iff : ∀ e, answer = .error e ↔
    (∃ x ∈ objects, ¬ converts x) ∧ e = .store .conversion ∨
    (∀ x ∈ objects, converts x) ∧ ∃ x,
      objects.find? (fun x => !(Reference.ofType t x).hasAddress) = some x ∧
      x.pathLink base t = .error (Reference.ofType t x).addressError ∧
      e = .link (Reference.ofType t x).addressError

namespace ListAnswers

variable {base : String} {t : TypeMeta} {converts : Object → Prop} {showLabels : Bool}
  {objects : List Object}

theorem of_conversion (h : ∃ x ∈ objects, ¬ converts x) :
    ListAnswers base t converts showLabels objects (.error (.store .conversion)) where
  exists_ok_iff := by
    obtain ⟨x, hx, hfails⟩ := h
    exact ⟨fun ⟨_, hc⟩ => (nomatch hc), fun hall => absurd (hall x hx).1 hfails⟩
  table_of_ok := fun _ hc => nomatch hc
  error_iff e := by
    constructor
    · rintro ⟨⟩
      exact .inl ⟨h, rfl⟩
    · rintro (⟨-, rfl⟩ | ⟨hall, -⟩)
      · rfl
      · obtain ⟨x, hx, hfails⟩ := h
        exact absurd (hall x hx) hfails

theorem of_link {x : Object} (hconverts : ∀ x ∈ objects, converts x)
    (hfind : objects.find? (fun x => !(Reference.ofType t x).hasAddress) = some x)
    (hlink : x.pathLink base t = .error (Reference.ofType t x).addressError) :
    ListAnswers base t converts showLabels objects
      (.error (.link (Reference.ofType t x).addressError)) where
  exists_ok_iff := by
    refine ⟨fun ⟨_, hc⟩ => (nomatch hc), fun hall => ?_⟩
    have hx := (hall x (List.mem_of_find?_eq_some hfind)).2
    simpa [hx] using List.find?_some hfind
  table_of_ok := fun _ hc => nomatch hc
  error_iff e := by
    constructor
    · rintro ⟨⟩
      exact .inr ⟨hconverts, x, hfind, hlink, rfl⟩
    · rintro (⟨⟨y, hy, hfails⟩, -⟩ | ⟨-, y, hy, -, rfl⟩)
      · exact absurd (hconverts y hy) hfails
      · rw [Option.some.inj (hfind.symm.trans hy)]

theorem of_table {table : Table Component} (hconverts : ∀ x ∈ objects, converts x)
    (haddress : ∀ x ∈ objects, (Reference.ofType t x).hasAddress = true)
    (htable : table.Lists (Object.pathLink base t) showLabels objects) :
    ListAnswers base t converts showLabels objects (.ok (.table table)) where
  exists_ok_iff := ⟨fun _ x hx => ⟨hconverts x hx, haddress x hx⟩, fun _ => ⟨_, rfl⟩⟩
  table_of_ok := by
    rintro _ ⟨⟩
    exact ⟨table, rfl, htable⟩
  error_iff e := by
    refine ⟨fun h => (nomatch h), ?_⟩
    rintro (⟨⟨y, hy, hfails⟩, -⟩ | ⟨-, y, hy, -⟩)
    · exact absurd (hconverts y hy) hfails
    · simpa [haddress y (List.mem_of_find?_eq_some hy)] using List.find?_some hy

end ListAnswers

section

variable {α : Type} [Resource α] [LawfulResource α] {v : ListView α} {o : PrintOptions}
  {base : String} {objects : List Object}

/-- The row of an object that converts needs the link to the object. -/
theorem ListView.objectRow_eq {x : Object} {r : α} (h : x.convert α = .ok r) :
    v.objectRow o x = ((o.link.forObject (.ofType (Resource.types α) x) x.displayName).mapError
      PrintError.link).map (v.rowWith o r) := by
  have hname : Resource.displayName r = x.displayName :=
    congrArg ObjectMeta.displayName (Object.metadata_of_convert h)
  rw [objectRow, h, ← Reference.ofResource_eq_ofType h, ← hname]
  exact v.row_eq o r

/-- An object has a row exactly if it converts and there is a link to it. -/
theorem ListView.objectRow_eq_ok_iff {x : Object} {row : Table.Row Component} :
    v.objectRow o x = .ok row ↔ ∃ r link, x.convert α = .ok r ∧
      o.link.forObject (.ofType (Resource.types α) x) x.displayName = .ok link ∧
      v.rowWith o r link = row := by
  constructor
  · intro h
    obtain ⟨r, hr, -⟩ := bind_eq_ok_iff.1 h
    rw [liftM_store_eq_ok_iff] at hr
    rw [objectRow_eq hr, map_eq_ok_iff] at h
    obtain ⟨link, hlink, hrow⟩ := h
    exact ⟨r, link, hr, mapError_eq_ok_iff.1 hlink, hrow⟩
  · rintro ⟨r, link, hr, hlink, rfl⟩
    rw [objectRow_eq hr, hlink]
    rfl

variable (hlink : o.link = pathLinks base)
include hlink

theorem ListView.objectRow_eq_error {x : Object} (hx : x.Converts α) {failure : LinkError}
    (h : x.pathLink base (Resource.types α) = .error failure) :
    v.objectRow o x = .error (.link failure) := by
  obtain ⟨r, hr⟩ := hx
  rw [objectRow_eq hr, hlink, ← Object.pathLink, h]
  rfl

/-- The table with the rows of some objects lists them. -/
theorem ListView.tableOf_lists {rows : List (Table.Row Component)}
    (hrows : objects.mapM (v.objectRow o) = .ok rows) :
    (v.tableOf o rows).Lists (Object.pathLink base (Resource.types α)) o.showLabels objects where
  rows := by
    refine (mapM_eq_ok_iff.1 hrows).imp fun x row hrow => ?_
    obtain ⟨r, link, -, hx, rfl⟩ := objectRow_eq_ok_iff.1 hrow
    rw [hlink] at hx
    exact ⟨link, hx, LinkGenerator.text_of_forObject hx, v.get?_rowWith o r link⟩
  columns row hrow c := by
    obtain ⟨x, -, hx⟩ := exists_left_of_mem (mapM_eq_ok_iff.1 hrows) hrow
    obtain ⟨r, link, -, -, rfl⟩ := objectRow_eq_ok_iff.1 hx
    rw [tableOf, Table.map_accessor_columnsNamed]
    exact v.mem_columns_rowWith o
  labels := by
    rw [tableOf, Table.map_accessor_columnsNamed]
    exact v.labelsColumn_mem_columnNames o

variable (ht : (Resource.types α).IsShownInNamespaces)
include ht

/-- The objects that have a row are those that have an address. -/
theorem ListView.isOk_objectRow {x : Object} (hx : x.Converts α) :
    (v.objectRow o x).isOk = (Reference.ofType (Resource.types α) x).hasAddress := by
  cases haddress : (Reference.ofType (Resource.types α) x).hasAddress with
  | true =>
    obtain ⟨r, hr⟩ := hx
    obtain ⟨link, h⟩ := Object.exists_pathLink_eq_ok ht haddress
    rw [Object.pathLink, ← hlink] at h
    rw [objectRow_eq_ok_iff.2 ⟨r, link, hr, h, rfl⟩]
    rfl
  | false =>
    rw [objectRow_eq_error hlink hx (Object.pathLink_eq_error ht haddress)]
    rfl

variable (v) in
/-- A list of objects of a kind is printed whole, or what is wrong with it is reported. -/
theorem PrintableKind.printAs_answers :
    ListAnswers base (Resource.types α) (Object.Converts α) o.showLabels objects
      (printAs v o objects) := by
  by_cases hconverts : ∀ x ∈ objects, x.Converts α
  · rw [printAs_of_converts hconverts]
    have hisOk : ∀ x ∈ objects, (v.objectRow o x).isOk =
        (Reference.ofType (Resource.types α) x).hasAddress :=
      fun x hx => ListView.isOk_objectRow hlink ht (hconverts x hx)
    cases hrows : objects.mapM (v.objectRow o) with
    | ok rows =>
      refine .of_table hconverts (fun x hx => ?_) (ListView.tableOf_lists hlink hrows)
      obtain ⟨row, hrow⟩ := exists_mapM_eq_ok_iff.1 ⟨rows, hrows⟩ x hx
      rw [← hisOk x hx, hrow]
      rfl
    | error e =>
      -- The first object without a row is the first one without an address.
      obtain ⟨x, hfind, hx⟩ := mapM_eq_error_iff.1 hrows
      rw [List.find?_congr fun y hy => congrArg (!·) (hisOk y hy)] at hfind
      have haddress : (Reference.ofType (Resource.types α) x).hasAddress = false := by
        simpa using List.find?_some hfind
      have hfails : x.pathLink base (Resource.types α) = .error _ :=
        Object.pathLink_eq_error ht haddress
      have hmem := List.mem_of_find?_eq_some hfind
      rw [ListView.objectRow_eq_error hlink (hconverts x hmem) hfails] at hx
      obtain rfl := Except.error.inj hx
      exact .of_link hconverts hfind hfails
  · have hsome : ∃ x ∈ objects, ¬ x.Converts α := by simpa using hconverts
    rw [printAs_of_not_converts hsome]
    exact .of_conversion hsome

end

/-- A list of a kind is printed whole, or what is wrong with it is reported. -/
theorem PrintableKind.printList_listAnswers (k : PrintableKind) {o : PrintOptions} {base : String}
    (hlink : o.link = pathLinks base) (objects : List Object) :
    ListAnswers base k.types k.Converts o.showLabels objects (k.printList o objects) := by
  cases k with
  | deployment =>
    exact printAs_answers Deployment.listView hlink ⟨⟨_, rfl⟩, rfl⟩
  | job =>
    exact printAs_answers Job.listView hlink ⟨⟨_, rfl⟩, rfl⟩
  | configMap =>
    exact printAs_answers ConfigMap.listView hlink ⟨⟨_, rfl⟩, rfl⟩
  | replicationController =>
    exact printAs_answers ReplicationController.listView hlink ⟨⟨_, rfl⟩, rfl⟩
  | secret =>
    exact printAs_answers Secret.listView hlink ⟨⟨_, rfl⟩, rfl⟩
  | serviceAccount =>
    exact printAs_answers ServiceAccount.listView hlink ⟨⟨_, rfl⟩, rfl⟩

/-- **A list is printed whole or not at all.** Where links are paths, a list of objects of a type is
printed exactly if every object converts and has an address, as a table with a row for each of them;
otherwise an object that does not convert is reported, or else the first one without an address. -/
theorem printList_answers (o : PrintOptions) (base : String) (hlink : o.link = pathLinks base)
    (apiVersion kind : String) (k : PrintableKind)
    (hkind : PrintableKind.ofType? apiVersion kind = some k) (objects : List Object) :
    ListAnswers base ⟨apiVersion, kind⟩ k.Converts o.showLabels objects
      (printList o apiVersion kind objects) := by
  have hprint : printList o apiVersion kind objects = k.printList o objects := by
    simp only [printList, printableKind, hkind, ok_bind]
  rw [hprint, PrintableKind.ofType?_eq_some_iff.1 hkind]
  exact k.printList_listAnswers hlink objects

/-- Config maps that are all there are listed; one without a name is reported, but after one that
cannot be read. -/
theorem printList_settings :
    let o : PrintOptions :=
      { store := MemoryStore.empty.toObjectStore, link := pathLinks "/overview"
        plugins := PluginRegistry.empty.toManager, showLabels := false }
    let settings : Object :=
      ⟨some ⟨"v1", "ConfigMap"⟩, { name := some "settings", inNamespace := some "default" }, []⟩
    let draft : Object :=
      ⟨none, { generateName := some "draft-", inNamespace := some "default" }, []⟩
    let nameless : Object := ⟨none, { inNamespace := some "default" }, []⟩
    let unreadable : Object := { settings with fields := [("data", .string "none")] }
    (∃ c, printList o "v1" "ConfigMap" [settings, draft] = .ok c) ∧
    printList o "v1" "ConfigMap" [settings, nameless, draft] =
      .error (.link (.missingName "ConfigMap")) ∧
    printList o "v1" "ConfigMap" [nameless, settings, unreadable] =
      .error (.store .conversion) := by
  intro o settings draft nameless unreadable
  have hanswers := printList_answers o "/overview" rfl "v1" "ConfigMap" .configMap rfl
  have hsettings : PrintableKind.configMap.Converts settings := ⟨_, rfl⟩
  have hdraft : PrintableKind.configMap.Converts draft := ⟨_, rfl⟩
  have hnameless : PrintableKind.configMap.Converts nameless := ⟨_, rfl⟩
  have hunreadable : ¬ PrintableKind.configMap.Converts unreadable := fun ⟨_, h⟩ => nomatch h
  refine ⟨(hanswers _).exists_ok_iff.2 ?_, ((hanswers _).error_iff _).2 (.inr ⟨?_, nameless, ?_⟩),
    ((hanswers _).error_iff _).2 (.inl ⟨⟨unreadable, ?_, hunreadable⟩, rfl⟩)⟩
  · simp only [List.forall_mem_cons]
    exact ⟨⟨hsettings, by decide⟩, ⟨hdraft, by decide⟩, by simp⟩
  · simp only [List.forall_mem_cons]
    exact ⟨hsettings, hnameless, hdraft, by simp⟩
  · exact ⟨rfl, rfl, rfl⟩
  · simp

end ClusterView

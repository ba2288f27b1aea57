import ClusterView.Proofs.Print.Printable

/-!
# Labels and events switched off

The options can leave labels out of lists and events out of pages. A table printed without labels is
the table printed with them, less one column and its cells (`ListView.print_withoutLabels`), and a
page without events is the page with them, less its last section (`Page.print_withEvents`). No other
part of what is printed looks at the two switches, and neither of them hides an error but those of
the events: `switches_erase`.
-/

namespace ClusterView

open Outcome

/-! ## Tables without a column -/

namespace Table

variable {α : Type}

/-- A row without the cell of a column. -/
def Row.without (r : Row α) (column : String) : Row α := ⟨r.cells.filter fun c => c.1 ≠ column⟩

/-- A table without a column and its cells. -/
def without (t : Table α) (column : String) : Table α :=
  { t with
    columns := t.columns.filter fun c => c.accessor ≠ column
    rows := t.rows.map fun r => r.without column }

theorem Row.without_ofCells (cells : List (String × α)) (column : String) :
    (ofCells cells).without column = ofCells (cells.filter fun c => c.1 ≠ column) := by
  have hcells : (ofCells cells).cells.filter (fun c => c.1 ≠ column) =
      (ofCells (cells.filter fun c => c.1 ≠ column)).cells := by
    rw [cells_ofCells, StringMap.filter_entries_ofList, ← cells_ofCells]
  exact congrArg Row.mk hcells

theorem filter_columnsNamed (names : List String) (column : String) :
    (columnsNamed names).filter (fun c => c.accessor ≠ column) =
      columnsNamed (names.filter fun name => name ≠ column) :=
  List.filter_map

end Table

/-- A table without the column of labels; other components as they are. -/
def Component.withoutLabels : Component → Component
  | .table t => .table (t.without labelsColumn)
  | c => c

/-! ## Lists without labels -/

namespace ListView

variable {α : Type} {v : ListView α} {o : PrintOptions}

theorem filter_columnNames :
    (v.columnNames o).filter (fun name => name ≠ labelsColumn) =
      v.columnNames o.withoutLabels := by
  unfold columnNames
  cases o.showLabels
  · change (v.columns.filter _).filter _ = v.columns.filter _
    rw [List.filter_filter]
    simp only [Bool.and_self]
  · rfl

variable [Resource α]

theorem rowWith_withoutLabels (r : α) (link : Link) :
    v.rowWith o.withoutLabels r link = (v.rowWith o r link).without labelsColumn := by
  have hrest : (v.cells.map fun c => (c.1, c.2 r)).filter (fun c => c.1 ≠ labelsColumn) =
      v.cells.map fun c => (c.1, c.2 r) := by
    refine List.filter_eq_self.2 fun cell hcell => ?_
    obtain ⟨c, hc, rfl⟩ := List.mem_map.1 hcell
    have hcolumn : c.1 ∈ v.cells.map (·.1) := List.mem_map_of_mem hc
    exact decide_eq_true (ne_of_mem_of_not_mem hcolumn v.labelsColumn_notMem)
  have hname : "Name" ≠ labelsColumn := by decide
  simp only [rowWith, cellsWith, List.cons_append]
  rw [Table.Row.without_ofCells, List.filter_cons_of_pos (by simpa using hname),
    List.filter_append, hrest]
  cases o.showLabels <;> rfl

/-- **Without labels a table is printed as with them, but for their column.** -/
theorem print_withoutLabels (list : List α) :
    v.print o.withoutLabels list = (v.print o list).map fun t => t.without labelsColumn := by
  have hrow : ∀ r, v.row o.withoutLabels r =
      v.row o r >>= fun row => pure (row.without labelsColumn) := by
    intro r
    rw [row_eq, row_eq]
    have hlink : nameLink r o.withoutLabels = nameLink r o := rfl
    rw [hlink]
    cases nameLink r o with
    | error e => rfl
    | ok link => exact congrArg Except.ok (rowWith_withoutLabels r link)
  rw [print_eq, print_eq, funext hrow, mapM_bind_pure]
  cases list.mapM (v.row o) with
  | error e => rfl
  | ok rows =>
    refine congrArg Except.ok ?_
    simp only [tableOf, Table.without, Table.filter_columnsNamed, filter_columnNames]

theorem printInput_withoutLabels (input : Option (List α)) :
    v.printInput o.withoutLabels input =
      (v.printInput o input).map fun t => t.without labelsColumn := by
  cases input with
  | none => rfl
  | some list => exact print_withoutLabels list

theorem printAs_withoutLabels (objects : List Object) :
    PrintableKind.printAs v o.withoutLabels objects =
      (PrintableKind.printAs v o objects).map Component.withoutLabels := by
  have hprint (list : List α) : (v.print o.withoutLabels list >>= fun t => pure (.table t)) =
      (v.print o list >>= fun t => pure (.table t)).map Component.withoutLabels := by
    rw [print_withoutLabels]
    cases v.print o list <;> rfl
  simp only [PrintableKind.printAs, hprint, map_bind]

end ListView

theorem podsTable_withoutLabels (object : Reference) (labels : Option (StringMap String))
    (o : PrintOptions) : podsTable object labels o.withoutLabels =
      (podsTable object labels o).map fun t => t.without labelsColumn := by
  have hprint : ∀ pods, podsView.print o.withoutLabels pods =
      (podsView.print o pods).map fun t => t.without labelsColumn :=
    ListView.print_withoutLabels
  simp only [podsTable, hprint, map_bind]
  rfl

theorem printList_withoutLabels (o : PrintOptions) (apiVersion kind : String)
    (objects : List Object) : printList o.withoutLabels apiVersion kind objects =
      (printList o apiVersion kind objects).map Component.withoutLabels := by
  unfold printList
  cases printableKind apiVersion kind with
  | error e => rfl
  | ok k => cases k <;> exact ListView.printAs_withoutLabels objects

/-! ## Pages without the labels of pods -/

/-- Layouts that are alike but for one section, which has a table over the full width in the first
and another table in the second. -/
inductive DifferInTable (t u : Table Component) : Component → Component → Prop
  | mk (title : String) (above below : List (Layout.Section Component)) :
      DifferInTable t u
        (.layout ⟨title, above ++ Page.sectionOf .full (.table t) :: below⟩)
        (.layout ⟨title, above ++ Page.sectionOf .full (.table u) :: below⟩)

namespace Page

/-- Items alike but for one, which is a table, are made alike but for that one. -/
theorem makeItems_table (before after : List PageItem) (x : Except PrintError (Table Component))
    (change : Table Component → Table Component) :
    Rel (fun items items' => ∃ t above below, x = .ok t ∧
        items = above ++ ⟨.full, .table t⟩ :: below ∧
        items' = above ++ ⟨.full, .table (change t)⟩ :: below)
      (makeItems (before ++ ⟨.full, x.map .table⟩ :: after))
      (makeItems (before ++ ⟨.full, (x.map change).map .table⟩ :: after)) := by
  simp only [makeItems, List.mapM_append, List.mapM_cons]
  refine .bind_same fun above _ => ?_
  cases x with
  | error e => exact .error e
  | ok t =>
    cases after.mapM fun i => i.content.map (⟨i.width, ·⟩ : Component → Layout.Item Component) with
    | error e => exact .error e
    | ok below => exact .ok ⟨t, above, below, rfl, rfl, rfl⟩

/-- Pages alike but for one item, which is a table over the full width, are printed alike but for
the section of that table. -/
theorem print_table {p p' : Page} (o : PrintOptions) (before : List PageItem)
    {after : List PageItem} {x : Except PrintError (Table Component)}
    (change : Table Component → Table Component)
    (hitems : p.items = before ++ ⟨.full, x.map .table⟩ :: after)
    (hpage : p' = { p with items := before ++ ⟨.full, (x.map change).map .table⟩ :: after }) :
    Rel (fun c d => ∃ t, x = .ok t ∧ DifferInTable t (change t) c d) (p.print o) (p'.print o) := by
  rw [hpage]
  unfold print
  rw [layout_eq, layout_eq, hitems]
  refine .map (R := fun l m => ∃ t, x = .ok t ∧
    DifferInTable t (change t) (.layout l) (.layout m)) ?_ fun _ _ h => h
  refine .bind_same fun added _ => .bind_same fun metadata _ => ?_
  refine (makeItems_table before after x change).bind ?_
  rintro _ _ ⟨t, above, below, hx, rfl, rfl⟩
  refine .bind_same fun template _ => .bind_same fun events _ => .ok ⟨t, hx, ?_⟩
  -- The table is alone in its section, whatever is packed before and after it.
  have hpacked (table : Table Component) :
      Layout.packed .empty (above ++ ⟨.full, .table table⟩ :: below ++ added.items) =
        Layout.packed .empty above ++
          sectionOf .full (.table table) :: Layout.packed .empty (below ++ added.items) := by
    rw [List.append_assoc]
    exact Layout.packed_append_full rfl _
  let top := summarySections ((withPlugins p.config "Configuration" added.config).toList ++
    (withPlugins p.status "Status" added.status).toList)
  have hsections (table : Table Component) : top ++ ([sectionOf .half (.summary metadata)] ++
      Layout.packed .empty (above ++ ⟨.full, .table table⟩ :: below ++ added.items) ++
      Layout.packed .empty template ++ events) =
      (top ++ sectionOf .half (.summary metadata) :: Layout.packed .empty above) ++
        sectionOf .full (.table table) :: (Layout.packed .empty (below ++ added.items) ++
          Layout.packed .empty template ++ events) := by
    rw [hpacked]
    simp
  rw [hsections, hsections]
  exact .mk _ _ _

end Page

/-- Only the table of pods of a job has labels that can be left out. -/
theorem Job.print_withoutLabels (j : Job) (o : PrintOptions) :
    Rel (fun c d => ∃ t, j.podsTable o = .ok t ∧ DifferInTable t (t.without labelsColumn) c d)
      (Job.print o (some j)) (Job.print o.withoutLabels (some j)) := by
  have hpods : j.podsTable o.withoutLabels =
      (j.podsTable o).map fun t => t.without labelsColumn := podsTable_withoutLabels _ _ o
  refine Page.print_table o [] (fun t => t.without labelsColumn) rfl ?_
  unfold page
  rw [hpods]
  rfl

/-- Only the table of pods of a replication controller has labels that can be left out. -/
theorem ReplicationController.print_withoutLabels (r : ReplicationController) (o : PrintOptions) :
    Rel (fun c d => ∃ t, r.podsTable o = .ok t ∧ DifferInTable t (t.without labelsColumn) c d)
      (ReplicationController.print o (some r))
      (ReplicationController.print o.withoutLabels (some r)) := by
  have hpods : r.podsTable o.withoutLabels =
      (r.podsTable o).map fun t => t.without labelsColumn := podsTable_withoutLabels _ _ o
  rw [print_eq, print_eq]
  refine .bind_same fun configuration _ => ?_
  refine Page.print_table o [⟨.quarter, (r.statusQuadrant o.store).map .quadrant⟩]
    (fun t => t.without labelsColumn) rfl ?_
  unfold pageWith
  rw [hpods]
  rfl

/-! ## Pages without events -/

/-- The options with events on or off. -/
def PrintOptions.withEvents (o : PrintOptions) (showEvents : Bool) : PrintOptions :=
  { o with showEvents }

/-- What is printed with the events about an object and without them. With them there is one section
more, below the others, and their errors are reported where nothing else fails. -/
structure EventsBelow (object : Reference) (o : PrintOptions)
    (shown hidden : Except PrintError Component) : Prop where
  ok : ∀ c, shown = .ok c → ∃ l table, eventsTable object o = .ok table ∧
    hidden = .ok (.layout l) ∧
    c = .layout { l with sections := l.sections ++ [Page.sectionOf .full (.table table)] }
  error : ∀ e, hidden = .error e → shown = .error e

/-- The steps before a page is printed do not look at the switch. -/
theorem EventsBelow.bind {α : Type} {object : Reference} {o : PrintOptions}
    {x : Except PrintError α} {f g : α → Except PrintError Component}
    (h : ∀ a, x = .ok a → EventsBelow object o (f a) (g a)) :
    EventsBelow object o (x >>= f) (x >>= g) := by
  cases x with
  | error e => exact ⟨fun _ hc => (nomatch hc), fun _ he => he⟩
  | ok a => exact h a rfl

namespace Page

variable {p : Page} {o : PrintOptions}

/-- Events are the last step of a page. -/
theorem layout_withEvents (hevents : p.events = true) :
    p.layout (o.withEvents true) = p.layout (o.withEvents false) >>= fun l =>
      (eventsTable p.object o).map fun table =>
        { l with sections := l.sections ++ [sectionOf .full (.table table)] } := by
  have hshown : p.eventSections (o.withEvents true) = do
      let table ← eventsTable p.object o
      return [sectionOf .full (.table table)] := if_pos (by rw [hevents]; rfl)
  have hhidden : p.eventSections (o.withEvents false) = .ok [] :=
    if_neg (by rw [hevents]; exact Bool.false_ne_true)
  rw [layout_eq, layout_eq, hshown, hhidden]
  simp only [bind_assoc]
  refine bind_congr fun added => bind_congr fun metadata => bind_congr fun items =>
    bind_congr fun template => ?_
  cases eventsTable p.object o with
  | error e => rfl
  | ok table => simp [Except.map, pure, Except.pure]

theorem print_withEvents (hevents : p.events = true) :
    EventsBelow p.object o (p.print (o.withEvents true)) (p.print (o.withEvents false)) := by
  unfold print
  rw [layout_withEvents hevents]
  cases p.layout (o.withEvents false) with
  | error e => exact ⟨fun _ hc => (nomatch hc), fun _ he => he⟩
  | ok l =>
    refine ⟨fun c hc => ?_, fun e he => (nomatch he)⟩
    obtain ⟨_, hlayout, rfl⟩ := map_eq_ok_iff.1 hc
    obtain ⟨table, htable, rfl⟩ := map_eq_ok_iff.1 hlayout
    exact ⟨l, table, htable, rfl, rfl⟩

theorem print_withEvents_of_not (hevents : p.events = false) :
    p.print (o.withEvents true) = p.print (o.withEvents false) := by
  have hsections : p.eventSections (o.withEvents true) = p.eventSections (o.withEvents false) := by
    unfold eventSections
    rw [hevents]
    rfl
  unfold print
  rw [layout_eq, layout_eq, hsections]
  rfl

end Page

theorem ReplicationController.print_withEvents (r : ReplicationController) (o : PrintOptions) :
    EventsBelow (.ofResource r) o (ReplicationController.print (o.withEvents true) (some r))
      (ReplicationController.print (o.withEvents false) (some r)) := by
  rw [print_eq, print_eq]
  exact .bind fun configuration _ => Page.print_withEvents (p := r.pageWith o configuration) rfl

/-! ## Types of objects -/

/-- Whether the page of an object of the type lists pods with their labels. -/
def TypeMeta.ListsPodLabels (t : TypeMeta) : Prop :=
  t = Resource.types Job ∨ t = Resource.types ReplicationController

/-- Whether the page of an object of the type shows events. -/
def TypeMeta.ShowsEvents (t : TypeMeta) : Prop :=
  t = Resource.types Deployment ∨ t = Resource.types Job ∨
    t = Resource.types ReplicationController

/-- An object is printed alike with two options if the printer of its kind prints it so. -/
theorem printObject_congr {o o' : PrintOptions} {input : Option Object}
    (h : ∀ x (k : PrintableKind), input = some x → x.types = some k.types →
      k.print o x = k.print o' x) :
    printObject o input = printObject o' input := by
  cases input with
  | none => rfl
  | some x =>
    simp only [printObject, orMissing, ok_bind]
    cases htypes : x.types with
    | none => rfl
    | some t =>
      cases hkind : PrintableKind.ofType? t.apiVersion t.kind with
      | none => simp only [ok_bind, printableKind, hkind, error_bind]
      | some k =>
        simp only [ok_bind, printableKind, hkind]
        exact h x k rfl (htypes.trans (congrArg some (PrintableKind.ofType?_eq_some_iff.1 hkind)))

section

variable {α : Type} [Resource α] [LawfulResource α] {x : Object} {o : PrintOptions}
  (htypes : x.types = some (Resource.types α))
  {print : PrintOptions → α → Except PrintError Component}
  (hprint : ∀ o', printObject o' (some x) = liftM (x.convert α) >>= print o')
include htypes hprint

theorem printObject_withoutLabels {labels : α → Option (StringMap String)}
    (h : ∀ r, Rel (fun c d => ∃ t, podsTable (.ofResource r) (labels r) o = .ok t ∧
      DifferInTable t (t.without labelsColumn) c d) (print o r) (print o.withoutLabels r)) :
    Rel (fun c d => ∃ labels pods, podsTable (.ofObject x) labels o = .ok pods ∧
        DifferInTable pods (pods.without labelsColumn) c d)
      (printObject o (some x)) (printObject o.withoutLabels (some x)) := by
  rw [hprint, hprint]
  refine .bind_same fun r hr => (h r).mono fun c d hdiffer => ?_
  rw [Reference.ofResource_eq_ofObject htypes (liftM_store_eq_ok_iff.1 hr)] at hdiffer
  exact ⟨labels r, hdiffer⟩

theorem printObject_withEvents (h : ∀ r, EventsBelow (.ofResource r) o
      (print (o.withEvents true) r) (print (o.withEvents false) r)) :
    EventsBelow (.ofObject x) o (printObject (o.withEvents true) (some x))
      (printObject (o.withEvents false) (some x)) := by
  rw [hprint, hprint]
  refine .bind fun r hr => ?_
  rw [← Reference.ofResource_eq_ofObject htypes (liftM_store_eq_ok_iff.1 hr)]
  exact h r

end

/-! ## The switches of the options -/

/-- Whether a list of resources is printed without labels as with them, but for their column. -/
def ListView.ErasesLabels {α : Type} [Resource α] (v : ListView α) (o : PrintOptions) : Prop :=
  ∀ input, v.printInput o.withoutLabels input =
    (v.printInput o input).map fun t => t.without labelsColumn

/-- Switching labels or events off erases them and changes nothing else. -/
structure SwitchesErase (o : PrintOptions) : Prop where
  deployments : Deployment.listView.ErasesLabels o
  jobs : Job.listView.ErasesLabels o
  configMaps : ConfigMap.listView.ErasesLabels o
  replicationControllers : ReplicationController.listView.ErasesLabels o
  secrets : Secret.listView.ErasesLabels o
  serviceAccounts : ServiceAccount.listView.ErasesLabels o
  lists : ∀ apiVersion kind objects, printList o.withoutLabels apiVersion kind objects =
    (printList o apiVersion kind objects).map Component.withoutLabels
  pods : ∀ object labels, podsTable object labels o.withoutLabels =
    (podsTable object labels o).map fun t => t.without labelsColumn
  /-- A page that lists pods with their labels has the same table without them in its place. -/
  podLabels : ∀ (x : Object) t, x.types = some t → t.ListsPodLabels →
    Rel (fun c d => ∃ labels pods, podsTable (.ofObject x) labels o = .ok pods ∧
        DifferInTable pods (pods.without labelsColumn) c d)
      (printObject o (some x)) (printObject o.withoutLabels (some x))
  otherLabels : ∀ input, (∀ x ∈ input, ∀ t ∈ x.types, ¬ t.ListsPodLabels) →
    printObject o.withoutLabels input = printObject o input
  /-- A page that shows events has them in its last section, and the page without events has all
  sections but that one. -/
  events : ∀ (x : Object) t, x.types = some t → t.ShowsEvents →
    EventsBelow (.ofObject x) o (printObject (o.withEvents true) (some x))
      (printObject (o.withEvents false) (some x))
  otherEvents : ∀ input, (∀ x ∈ input, ∀ t ∈ x.types, ¬ t.ShowsEvents) →
    printObject (o.withEvents true) input = printObject (o.withEvents false) input

/-- **The switches erase labels and events, and nothing else.** -/
theorem switches_erase (o : PrintOptions) : SwitchesErase o where
  deployments := ListView.printInput_withoutLabels
  jobs := ListView.printInput_withoutLabels
  configMaps := ListView.printInput_withoutLabels
  replicationControllers := ListView.printInput_withoutLabels
  secrets := ListView.printInput_withoutLabels
  serviceAccounts := ListView.printInput_withoutLabels
  lists := printList_withoutLabels o
  pods object labels := podsTable_withoutLabels object labels o
  podLabels x t htypes ht := by
    rcases ht with rfl | rfl
    · exact printObject_withoutLabels htypes (fun _ => printObject_of_types htypes rfl)
        fun j => j.print_withoutLabels o
    · exact printObject_withoutLabels htypes (fun _ => printObject_of_types htypes rfl)
        fun r => r.print_withoutLabels o
  otherLabels input hother := by
    refine printObject_congr fun x k hx htypes => ?_
    have hnot := hother x hx k.types htypes
    cases k with
    | job => exact absurd (.inl rfl) hnot
    | replicationController => exact absurd (.inr rfl) hnot
    | deployment | configMap | secret | serviceAccount => rfl
  events x t htypes ht := by
    rcases ht with rfl | rfl | rfl
    · exact printObject_withEvents htypes (fun _ => printObject_of_types htypes rfl)
        fun d => Page.print_withEvents (p := d.page o) rfl
    · exact printObject_withEvents htypes (fun _ => printObject_of_types htypes rfl)
        fun j => Page.print_withEvents (p := j.page o) rfl
    · exact printObject_withEvents htypes (fun _ => printObject_of_types htypes rfl)
        fun r => r.print_withEvents o
  otherEvents input hother := by
    refine printObject_congr fun x k hx htypes => ?_
    have hnot := hother x hx k.types htypes
    cases k with
    | deployment => exact absurd (.inl rfl) hnot
    | job => exact absurd (.inr (.inl rfl)) hnot
    | replicationController => exact absurd (.inr (.inr rfl)) hnot
    | configMap => exact bind_congr fun _ => Page.print_withEvents_of_not rfl
    | secret => exact bind_congr fun _ => Page.print_withEvents_of_not rfl
    | serviceAccount => rfl

end ClusterView

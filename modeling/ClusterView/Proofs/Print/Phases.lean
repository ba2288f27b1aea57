import ClusterView.Proofs.Print.Printable

/-!
# Phases of controlled pods

A replication controller selects its pods in two ways. For its table the store compares the labels
of objects, and for its quadrant all pods of the namespace are read and the selector decides on
them. Both find the same pods in the same order (`listPods_eq_filter`), so the numbers of the
quadrant are numbers of rows of the table: `ReplicationController.statusQuadrant_counts`.
-/

namespace ClusterView

open Outcome

/-! ## Pods that are selected -/

/-- A selector without expressions asks for its labels. -/
theorem LabelSelector.accepts_ofLabels (wanted : Option (StringMap String))
    (labels : StringMap String) :
    (⟨wanted, none⟩ : LabelSelector).accepts labels = labelsMatch (wanted.getD ∅) labels :=
  Bool.and_true _

/-- A query for labels lists the objects that carry them, of all that it would list. -/
theorem MemoryStore.list_eq_filter (s : MemoryStore) (q : Query) (wanted : StringMap String) :
    s.list { q with selector := some wanted } =
      (s.list { q with selector := none }).filter fun x =>
        labelsMatch wanted x.metadata.labelMap := by
  rw [list, list, List.filter_filter]
  refine List.filter_congr fun x _ => ?_
  rw [Bool.eq_iff_iff, Bool.and_eq_true, Query.selects_iff, Query.selects_iff]
  simp [and_comm, and_left_comm]

/-- Resources can be filtered by their metadata before they are read. -/
theorem mapM_convert_filter {α : Type} [Resource α] [LawfulResource α] {objects : List Object}
    {rs : List α} (h : objects.mapM (Object.convert α) = .ok rs) (p : ObjectMeta → Bool) :
    (objects.filter fun x => p x.metadata).mapM (Object.convert α) =
      .ok (rs.filter fun r => p (Resource.metadata r)) := by
  rw [mapM_eq_ok_iff] at h ⊢
  refine List.rel_filter (fun x r hr => ?_) h
  change p x.metadata = true ↔ p (Resource.metadata r) = true
  rw [Object.metadata_of_convert hr]

/-- The pods that are counted are the controlled ones of those that a query for the labels lists. -/
theorem listPods_eq_filter {s : MemoryStore} {ns uid : Option String}
    {wanted : Option (StringMap String)} {counted listed : List Pod}
    (hcounted : listPods ns ⟨wanted, none⟩ uid s.toObjectStore = .ok counted)
    (hlisted : s.toObjectStore.listAs Pod ⟨"v1", "Pod", ns, none, some (wanted.getD ∅)⟩ =
      .ok listed) :
    counted = listed.filter fun p => p.isControlledBy uid := by
  simp only [listPods, bind_eq_ok_iff, pure_eq_ok_iff, liftM_store_eq_ok_iff] at hcounted
  obtain ⟨pods, hpods, rfl⟩ := hcounted
  have hselected : s.toObjectStore.listAs Pod ⟨"v1", "Pod", ns, none, some (wanted.getD ∅)⟩ =
      .ok (pods.filter fun p => labelsMatch (wanted.getD ∅) p.metadata.labelMap) := by
    change (s.list _).mapM (Object.convert Pod) = _
    rw [s.list_eq_filter ⟨"v1", "Pod", ns, none, none⟩]
    exact mapM_convert_filter hpods fun m => labelsMatch (wanted.getD ∅) m.labelMap
  obtain rfl := Except.ok.inj (hselected.symm.trans hlisted)
  rw [List.filter_filter]
  refine List.filter_congr fun p _ => ?_
  rw [LabelSelector.accepts_ofLabels, Bool.and_comm]

/-! ## Rows of pods -/

/-- Whether the controller of a pod, which is the first owner that is marked as such, has an
identity; without one any pod will do. -/
def Pod.HasController (p : Pod) (uid : Option String) : Prop :=
  ∀ id ∈ uid, ∃ owner ∈ p.metadata.owners.find? (·.controller == some true), owner.uid = id

theorem Pod.isControlledBy_iff {p : Pod} {uid : Option String} :
    p.isControlledBy uid = true ↔ p.HasController uid := by
  cases uid with
  | none => simp [isControlledBy, HasController]
  | some id => simp [isControlledBy, HasController, ObjectMeta.controllerOf, Option.any_eq_true]

/-- A pod with the row that shows it. -/
structure PodRow where
  pod : Pod
  row : Table.Row Component

namespace PodRow

/-- Whether a row shows a phase and its pod has a controller. -/
def IsCounted (uid : Option String) (phase : String) (p : PodRow) : Prop :=
  p.row.get? "Phase" = some (.text phase) ∧ p.pod.HasController uid

/-- The text that a row shows as the phase. -/
def phase? (p : PodRow) : Option String :=
  match p.row.get? "Phase" with
  | some (.text phase) => some phase
  | _ => none

theorem phase?_eq_some_iff {p : PodRow} {phase : String} :
    p.phase? = some phase ↔ p.row.get? "Phase" = some (.text phase) := by
  unfold phase?
  split
  next shown h => rw [h, Option.some.injEq, Option.some.injEq, Component.text.injEq]
  next h => exact ⟨fun hphase => (nomatch hphase), fun hphase => absurd hphase (h phase)⟩

instance (uid : Option String) (phase : String) : DecidablePred (IsCounted uid phase) := fun p =>
  decidable_of_iff (p.phase? = some phase ∧ p.pod.isControlledBy uid = true)
    (and_congr phase?_eq_some_iff Pod.isControlledBy_iff)

/-- The row of a pod shows its phase, and nothing for one that is not known. -/
theorem get?_phase {o : PrintOptions} {p : Pod} {row : Table.Row Component}
    (h : podsView.row o p = .ok row) : row.get? "Phase" = some (.text (p.phase.getD "")) := by
  rw [ListView.row_eq, map_eq_ok_iff] at h
  obtain ⟨link, -, rfl⟩ := h
  have hcell : ("Phase", fun p : Pod => .text (p.phase.getD "")) ∈ podsView.cells := by
    simp [podsView]
  exact podsView.get?_rowWith_cell o hcell p link

theorem isCounted_iff {o : PrintOptions} {p : PodRow} (h : podsView.row o p.pod = .ok p.row)
    {uid : Option String} {phase : String} (hphase : phase ≠ "") :
    p.IsCounted uid phase ↔ p.pod.phase = some phase ∧ p.pod.isControlledBy uid = true := by
  rw [IsCounted, get?_phase h, Pod.isControlledBy_iff]
  refine and_congr_left fun _ => ?_
  cases p.pod.phase with
  | none => simpa using hphase.symm
  | some shown => simp

end PodRow

/-! ## Counts -/

/-- The number of pods in a phase that is counted. -/
def PodPhases.total (phases : PodPhases) : Nat :=
  phases.running + phases.waiting + phases.succeeded + phases.failed

/-- A pod is in one phase at most. -/
theorem PodPhases.total_ofPods_cons_le (p : Pod) (pods : List Pod) :
    (ofPods (p :: pods)).total ≤ (ofPods pods).total + 1 := by
  have hone : (if p.phase = some "Running" then 1 else 0) +
      (if p.phase = some "Pending" then 1 else 0) +
      (if p.phase = some "Succeeded" then 1 else 0) +
      (if p.phase = some "Failed" then 1 else 0) ≤ 1 := by
    split_ifs <;> simp_all
  simp only [total, ofPods, List.countP_cons, beq_iff_eq]
  omega

/-- No pod is counted twice. -/
theorem PodPhases.total_ofPods_le (pods : List Pod) : (ofPods pods).total ≤ pods.length := by
  induction pods with
  | nil => exact Nat.le_refl 0
  | cons p pods ih =>
    have hcons := total_ofPods_cons_le p pods
    rw [List.length_cons]
    omega

/-! ## Quadrants -/

/-- The rows of a table of pods are those of some objects. -/
structure Table.ShowsPods (t : Table Component) (o : PrintOptions) (objects : List Object)
    (shown : List PodRow) : Prop where
  pods : List.Forall₂ (fun x p => x.convert Pod = .ok p.pod) objects shown
  made : ∀ p ∈ shown, podsView.row o p.pod = .ok p.row
  rows : shown.map (·.row) = t.rows

/-- The numbers of a quadrant count those rows whose pods have a controller. -/
structure Quadrant.Counts (q : Quadrant) (uid : Option String) (shown : List PodRow) : Prop where
  northWest : q.northWest = ⟨"Running", (shown.countP (PodRow.IsCounted uid "Running")).repr⟩
  northEast : q.northEast = ⟨"Waiting", (shown.countP (PodRow.IsCounted uid "Pending")).repr⟩
  southWest : q.southWest = ⟨"Succeeded", (shown.countP (PodRow.IsCounted uid "Succeeded")).repr⟩
  southEast : q.southEast = ⟨"Failed", (shown.countP (PodRow.IsCounted uid "Failed")).repr⟩
  sum_le : shown.countP (PodRow.IsCounted uid "Running") +
    shown.countP (PodRow.IsCounted uid "Pending") +
    shown.countP (PodRow.IsCounted uid "Succeeded") +
    shown.countP (PodRow.IsCounted uid "Failed") ≤ shown.length

theorem exists_podRows {o : PrintOptions} {pods : List Pod} {rows : List (Table.Row Component)}
    (h : List.Forall₂ (fun p row => podsView.row o p = .ok row) pods rows) :
    ∃ shown : List PodRow, shown.map (·.pod) = pods ∧ shown.map (·.row) = rows ∧
      ∀ p ∈ shown, podsView.row o p.pod = .ok p.row := by
  induction h with
  | nil => exact ⟨[], rfl, rfl, by simp⟩
  | @cons p row _ _ hrow _ ih =>
    obtain ⟨shown, rfl, rfl, hmade⟩ := ih
    exact ⟨⟨p, row⟩ :: shown, rfl, rfl, List.forall_mem_cons.2 ⟨hrow, hmade⟩⟩

/-- Controlled pods in a phase are counted by their rows. -/
theorem countP_phase {o : PrintOptions} {shown : List PodRow}
    (hmade : ∀ p ∈ shown, podsView.row o p.pod = .ok p.row) (uid : Option String) {phase : String}
    (hphase : phase ≠ "") :
    ((shown.map (·.pod)).filter fun p => p.isControlledBy uid).countP
        (fun p => p.phase == some phase) =
      shown.countP (PodRow.IsCounted uid phase) := by
  rw [List.countP_filter, List.countP_map]
  refine List.countP_congr fun p hp => ?_
  simp only [Function.comp_apply, Bool.and_eq_true, beq_iff_eq, decide_eq_true_eq,
    PodRow.isCounted_iff (hmade p hp) hphase]

/-- The phases of the controlled pods, each counted by its rows. -/
theorem PodPhases.ofPods_eq {o : PrintOptions} {shown : List PodRow}
    (hmade : ∀ p ∈ shown, podsView.row o p.pod = .ok p.row) (uid : Option String) :
    ofPods ((shown.map (·.pod)).filter fun p => p.isControlledBy uid) =
      { running := shown.countP (PodRow.IsCounted uid "Running")
        waiting := shown.countP (PodRow.IsCounted uid "Pending")
        succeeded := shown.countP (PodRow.IsCounted uid "Succeeded")
        failed := shown.countP (PodRow.IsCounted uid "Failed") } := by
  simp only [ofPods, countP_phase hmade uid (by decide : "Running" ≠ ""),
    countP_phase hmade uid (by decide : "Pending" ≠ ""),
    countP_phase hmade uid (by decide : "Succeeded" ≠ ""),
    countP_phase hmade uid (by decide : "Failed" ≠ "")]

/-- **The quadrant of a replication controller counts rows of its table of pods.** The table shows
what the store selects, and each number counts the rows of one phase whose pods the replication
controller controls. -/
theorem ReplicationController.statusQuadrant_counts {s : MemoryStore} {o : PrintOptions}
    {r : ReplicationController} {q : Quadrant} {t : Table Component}
    (hstore : o.store = s.toObjectStore) (hquadrant : r.statusQuadrant o.store = .ok q)
    (htable : r.podsTable o = .ok t) :
    ∃ shown, t.ShowsPods o
        (s.list ⟨"v1", "Pod", r.metadata.inNamespace, none,
          some ((r.spec.bind (·.selector)).getD ∅)⟩) shown ∧
      q.Counts r.metadata.uid shown := by
  simp only [statusQuadrant, bind_eq_ok_iff, pure_eq_ok_iff] at hquadrant
  obtain ⟨counted, hcounted, rfl⟩ := hquadrant
  simp only [podsTable, ClusterView.podsTable, bind_eq_ok_iff, liftM_store_eq_ok_iff,
    ListView.print_eq, map_eq_ok_iff] at htable
  obtain ⟨listed, hlisted, rows, hrows, rfl⟩ := htable
  rw [hstore] at hcounted hlisted
  obtain rfl := listPods_eq_filter hcounted hlisted
  obtain ⟨shown, rfl, rfl, hmade⟩ := exists_podRows (mapM_eq_ok_iff.1 hrows)
  have hpods := mapM_eq_ok_iff.1 hlisted
  rw [List.forall₂_map_right_iff] at hpods
  have hphases := PodPhases.ofPods_eq hmade r.metadata.uid
  have htotal := PodPhases.total_ofPods_le
    ((shown.map (·.pod)).filter fun p => p.isControlledBy r.metadata.uid)
  rw [hphases] at htotal ⊢
  have hlength : ((shown.map (·.pod)).filter fun p => p.isControlledBy r.metadata.uid).length ≤
      shown.length := (List.length_filter_le _ _).trans_eq (List.length_map _)
  exact ⟨shown, ⟨hpods, hmade, rfl⟩, rfl, rfl, rfl, rfl, htotal.trans hlength⟩

/-- A replication controller that selects the pods of an application. -/
def webController : ReplicationController where
  metadata := { name := some "web", inNamespace := some "default", uid := some "web-1" }
  spec := some { replicas := none, selector := some (.ofList [("app", "web")]), template := none }
  status := none

/-- A pod of the application in a phase, with the controller that has an identity. -/
def webPod (name phase uid : String) : Object where
  types := some ⟨"v1", "Pod"⟩
  metadata :=
    { name := some name, inNamespace := some "default"
      labels := some (.ofList [("app", "web"), ("tier", "front")])
      ownerReferences :=
        some [⟨"v1", "ReplicationController", "web", uid, some true, none⟩] }
  fields := [("status", .object [("phase", .string phase)])]

/-- Of four pods that are listed, three are controlled and two of them are in a phase that is
counted. -/
theorem statusQuadrant_webController :
    let s : MemoryStore := ⟨[webPod "a" "Running" "web-1", webPod "b" "Running" "other",
      webPod "c" "Pending" "web-1", webPod "d" "Unknown" "web-1"]⟩
    let o : PrintOptions := ⟨s.toObjectStore, pathLinks "/overview",
      PluginRegistry.empty.toManager, true, true⟩
    ∃ q t shown, webController.statusQuadrant o.store = .ok q ∧ webController.podsTable o = .ok t ∧
      t.ShowsPods o s.objects shown ∧ q.Counts (some "web-1") shown ∧
      q.northWest.value = "1" ∧ q.northEast.value = "1" ∧ t.rows.length = 4 := by
  intro s o
  obtain ⟨shown, hshown, hcounts⟩ := ReplicationController.statusQuadrant_counts (s := s) (o := o)
    (r := webController) rfl rfl rfl
  exact ⟨_, _, shown, rfl, rfl, hshown, hcounts, rfl, rfl, rfl⟩

end ClusterView

import ClusterView.Proofs.Print.Answers
import ClusterView.Proofs.Print.Tables
import ClusterView.Proofs.Store.Listing

/-!
# The events of an object

An event names the object that it is about. If both have an identity, the identities decide; only
where one of them is missing do kind and name (`Event.IsAbout`). The table of an object has a row
for each event in its namespace that is about it, in the order of the store, with the times that
`Event.IsShownBy` says (`eventsTable_eq_ok_iff`).
-/

namespace ClusterView

open Outcome

namespace Event

/-! ## What an event is about -/

/-- Whether an event is about an object. -/
inductive IsAbout (e : Event) (object : Reference) : Prop
  /-- Both have the same identity, whatever kind and name the event gives. -/
  | identity {uid : String} (hobject : object.uid = some uid)
      (hevent : e.involvedObject.uid = some uid)
  /-- One of them has no identity, and the event gives the kind and the name of the object. -/
  | naming (huid : object.uid = none ∨ e.involvedObject.uid = none)
      (hkind : e.involvedObject.kind = some object.kind)
      (hname : e.involvedObject.name = some object.name)

theorem involves_iff {e : Event} {object : Reference} :
    e.involves object = true ↔ e.IsAbout object := by
  unfold involves
  split
  next uid involved hobject hevent =>
    rw [beq_iff_eq]
    constructor
    · rintro rfl
      exact .identity hobject hevent
    · intro h
      cases h with
      | identity hobject' hevent' =>
        rw [hobject, Option.some.injEq] at hobject'
        rw [hevent, Option.some.injEq] at hevent'
        exact hobject'.trans hevent'.symm
      | naming huid => simp [hobject, hevent] at huid
  next hmissing =>
    rw [Bool.and_eq_true, beq_iff_eq, beq_iff_eq]
    have huid : object.uid = none ∨ e.involvedObject.uid = none := by
      by_contra! h
      obtain ⟨uid, hobject⟩ := Option.ne_none_iff_exists'.1 h.1
      obtain ⟨involved, hevent⟩ := Option.ne_none_iff_exists'.1 h.2
      exact hmissing uid involved hobject hevent
    constructor
    · rintro ⟨hkind, hname⟩
      exact .naming huid hkind hname
    · intro h
      cases h with
      | identity hobject hevent => simp [hobject, hevent] at huid
      | naming _ hkind hname => exact ⟨hkind, hname⟩

instance (e : Event) (object : Reference) : Decidable (e.IsAbout object) :=
  decidable_of_iff _ involves_iff

/-! ## How an event is shown -/

/-- The seconds of the first of some times that is set, and zero where none is. -/
def firstSet : List (Option Instant) → Int
  | [] => 0
  | some time :: _ => time.seconds
  | none :: more => firstSet more

/-- A row with the texts, the times and the count of an event. -/
structure IsShownBy (e : Event) (row : Table.Row Component) : Prop where
  columns : ∀ column, column ∈ row.columns ↔ column ∈ eventColumns
  message : row.get? "Message" = some (.text (e.message.getD ""))
  reason : row.get? "Reason" = some (.text (e.reason.getD ""))
  type : row.get? "Type" = some (.text (e.type.getD ""))
  /-- The first time, else that of the creation, else the beginning of 1970. -/
  firstSeen : row.get? "First Seen" =
    some (.timestamp (firstSet [e.firstTimestamp, e.metadata.creationTimestamp]))
  /-- The last time, else what is shown as the first one. -/
  lastSeen : row.get? "Last Seen" =
    some (.timestamp (firstSet [e.lastTimestamp, e.firstTimestamp, e.metadata.creationTimestamp]))
  /-- The component on the host, or the one of them that is set. -/
  reporter : row.get? "From" = some (.text (" on ".intercalate
    (e.source.elim [] fun s => s.component.toList ++ s.host.toList)))
  count : row.get? "Count" = some (.text (Text.ofInt (e.count.getD 1)))

theorem timestampOf_firstSeen (e : Event) : timestampOf e.firstSeen =
    .timestamp (firstSet [e.firstTimestamp, e.metadata.creationTimestamp]) := by
  cases hfirst : e.firstTimestamp with
  | some time => simp [firstSeen, timestampOf, firstSet, hfirst]
  | none =>
    cases hcreated : e.metadata.creationTimestamp <;>
      simp [firstSeen, timestampOf, firstSet, hfirst, hcreated]

theorem timestampOf_lastSeen (e : Event) : timestampOf e.lastSeen =
    .timestamp (firstSet [e.lastTimestamp, e.firstTimestamp, e.metadata.creationTimestamp]) := by
  cases hlast : e.lastTimestamp with
  | some time => simp [lastSeen, timestampOf, firstSet, hlast]
  | none =>
    rw [lastSeen, hlast, Option.none_or, timestampOf_firstSeen]
    rfl

theorem reporter_eq (e : Event) : e.reporter = " on ".intercalate
    (e.source.elim [] fun s => s.component.toList ++ s.host.toList) := by
  rcases hsource : e.source with _ | ⟨_ | component, _ | host⟩ <;> simp [reporter, hsource]

theorem isShownBy_row (e : Event) : e.IsShownBy e.row where
  columns _ := Table.Row.mem_columns_ofCells
  message := Table.Row.get?_ofCells _ _
  reason := Table.Row.get?_ofCells _ _
  type := Table.Row.get?_ofCells _ _
  firstSeen := (Table.Row.get?_ofCells _ _).trans (congrArg some e.timestampOf_firstSeen)
  lastSeen := (Table.Row.get?_ofCells _ _).trans (congrArg some e.timestampOf_lastSeen)
  reporter := by
    rw [← reporter_eq]
    exact Table.Row.get?_ofCells _ _
  count := Table.Row.get?_ofCells _ _

end Event

/-! ## The table of an object -/

/-- The query for the events in the namespace of an object, or for all events if it has none. -/
def Reference.eventQuery (object : Reference) : Query :=
  { apiVersion := "v1", kind := "Event", inNamespace := object.inNamespace }

/-- A store in memory has the events of a query if its answer converts. -/
theorem MemoryStore.listAs_eq_ok_iff {α : Type} [Resource α] {given : List Object} {q : Query}
    {rs : List α} :
    (ofObjects given).toObjectStore.listAs α q = .ok rs ↔ ∃ answer, q.IsAnswer given answer ∧
      List.Forall₂ (fun x r => x.convert α = .ok r) answer rs := by
  have hlist : (ofObjects given).toObjectStore.listAs α q =
      ((ofObjects given).list q).mapM (Object.convert α) := rfl
  rw [hlist, mapM_eq_ok_iff, exists_isAnswer_iff]

/-- **The table of events has a row for each event that is about the object**, in the order of the
store, and there is one if all events in the namespace can be read. -/
theorem eventsTable_eq_ok_iff (given : List Object) (object : Reference) (o : PrintOptions) :
    (∀ t, eventsTable object (o.withStore (MemoryStore.ofObjects given).toObjectStore) = .ok t ↔
      ∃ answer events, object.eventQuery.IsAnswer given answer ∧
        List.Forall₂ (fun x e => x.convert Event = .ok e) answer events ∧
        t = { title := "Events", columns := Table.columnsNamed eventColumns,
              rows := (events.filter fun e => e.IsAbout object).map Event.row,
              emptyContent := "There are no events!" }) ∧
      ∀ e : Event, e.IsShownBy e.row := by
  refine ⟨fun t => ?_, Event.isShownBy_row⟩
  have habout : ∀ events : List Event, (events.filter fun e => e.IsAbout object) =
      events.filter fun e => e.involves object := by
    intro events
    refine List.filter_congr fun e _ => ?_
    rw [Bool.eq_iff_iff, decide_eq_true_iff, Event.involves_iff]
  simp only [eventsTable_eq, PrintOptions.store_withStore, map_eq_ok_iff, liftM_store_eq_ok_iff,
    habout]
  constructor
  · rintro ⟨events, hevents, rfl⟩
    obtain ⟨answer, hanswer, hconverts⟩ := MemoryStore.listAs_eq_ok_iff.1 hevents
    exact ⟨answer, events, hanswer, hconverts, rfl⟩
  · rintro ⟨answer, events, hanswer, hconverts, rfl⟩
    exact ⟨events, MemoryStore.listAs_eq_ok_iff.2 ⟨answer, hanswer, hconverts⟩, rfl⟩

end ClusterView

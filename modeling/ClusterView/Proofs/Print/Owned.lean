import ClusterView.Proofs.Print.Answers
import ClusterView.Proofs.Print.Phases

/-!
# The jobs of an owner

Jobs name their owners, and the view of an owner shows the jobs in its namespace that name it, be it
among others (`Object.IsOwnedBy`). All jobs there are read first, also those of other owners, and
what the view shows is the list of the owned ones without labels (`Job.ownedTable_eq_ok_iff`). So a
view can be made exactly if the jobs can be read and the owned ones be linked, and it has a row for
each of these (`Job.ownedTable_answers`).
-/

namespace ClusterView

open Outcome

/-! ## Owners -/

namespace Object

/-- Whether one of the references of an object to its owners names an object, by API version, kind
and name. -/
def IsOwnedBy (x : Object) (owner : Reference) : Prop :=
  ∃ r ∈ x.metadata.owners,
    r.apiVersion = owner.apiVersion ∧ r.kind = owner.kind ∧ r.name = owner.name

instance (owner : Reference) : DecidablePred fun x : Object => x.IsOwnedBy owner := fun x =>
  inferInstanceAs (Decidable (∃ r ∈ x.metadata.owners, _))

/-- Objects that own an object with a single reference have one API version, kind and name. -/
theorem IsOwnedBy.same {x : Object} {owner other : Reference} (h : x.IsOwnedBy owner)
    (h' : x.IsOwnedBy other) (hsingle : x.metadata.owners.length = 1) :
    owner.apiVersion = other.apiVersion ∧ owner.kind = other.kind ∧ owner.name = other.name := by
  obtain ⟨r, hr, hversion, hkind, hname⟩ := h
  obtain ⟨r', hr', hversion', hkind', hname'⟩ := h'
  obtain ⟨only, honly⟩ := List.length_eq_one_iff.1 hsingle
  rw [honly, List.mem_singleton] at hr hr'
  subst hr hr'
  exact ⟨hversion.symm.trans hversion', hkind.symm.trans hkind', hname.symm.trans hname'⟩

end Object

namespace Job

/-- Jobs with some metadata are owned by an object. -/
def ownedMeta (owner : Reference) (m : ObjectMeta) : Bool :=
  m.owners.any fun r =>
    r.apiVersion == owner.apiVersion && r.kind == owner.kind && r.name == owner.name

theorem filter_isOwnedBy (owner : Reference) (objects : List Object) :
    (objects.filter fun x => x.IsOwnedBy owner) =
      objects.filter fun x => ownedMeta owner x.metadata := by
  refine List.filter_congr fun x _ => ?_
  rw [Bool.eq_iff_iff, decide_eq_true_iff]
  simp [Object.IsOwnedBy, ownedMeta, and_assoc]

/-! ## The view of an owner -/

/-- The query for the jobs in the namespace of an owner, or for all jobs if it has none. -/
def queryFor (owner : Reference) : Query :=
  { apiVersion := "batch/v1", kind := "Job", inNamespace := owner.inNamespace }

variable {s : MemoryStore} {o : PrintOptions} {owner : Reference} {base : String}

/-- What a view shows is the list of the jobs that are owned, without labels. -/
theorem ownedTable_eq_ok_iff {t : Table Component} :
    ownedTable owner (o.withStore s.toObjectStore) = .ok t ↔
      (∀ x ∈ s.list (queryFor owner), x.Converts Job) ∧
      printList o.withoutLabels "batch/v1" "Job"
        ((s.list (queryFor owner)).filter fun x => x.IsOwnedBy owner) = .ok (.table t) := by
  have hview : ownedTable owner (o.withStore s.toObjectStore) =
      (liftM ((s.list (queryFor owner)).mapM (Object.convert Job)) : Except PrintError _) >>=
        fun jobs => listView.print o.withoutLabels (jobs.filter fun j => j.isOwnedBy owner) := rfl
  have hprint : ∀ objects, printList o.withoutLabels "batch/v1" "Job" objects =
      PrintableKind.printAs listView o.withoutLabels objects := fun _ => rfl
  rw [hview, hprint, PrintableKind.printAs]
  generalize s.list (queryFor owner) = objects
  cases hjobs : objects.mapM (Object.convert Job) with
  | error e =>
    have hfails : ¬ ∀ x ∈ objects, x.Converts Job := fun hall => by
      obtain ⟨jobs, h⟩ := exists_mapM_eq_ok_iff.2 hall
      cases hjobs.symm.trans h
    refine ⟨fun h => ?_, fun h => absurd h.1 hfails⟩
    cases h
  | ok jobs =>
    have hall : ∀ x ∈ objects, x.Converts Job := exists_mapM_eq_ok_iff.1 ⟨jobs, hjobs⟩
    have howned : (objects.filter fun x => x.IsOwnedBy owner).mapM (Object.convert Job) =
        .ok (jobs.filter fun j => j.isOwnedBy owner) := by
      rw [filter_isOwnedBy]
      exact mapM_convert_filter hjobs (ownedMeta owner)
    rw [howned, liftM_store_ok, liftM_store_ok, ok_bind, ok_bind, bind_eq_ok_iff,
      and_iff_right hall]
    constructor
    · intro h
      exact ⟨t, h, rfl⟩
    · rintro ⟨table, htable, h⟩
      cases h
      exact htable

/-- How the jobs of an owner are shown where links are paths, of the jobs in its namespace. -/
structure OwnedAnswers (base : String) (owner : Reference) (jobs : List Object)
    (view : Except PrintError (Table Component)) : Prop where
  /-- All jobs can be read, and those that are owned have a name and a namespace. -/
  exists_ok_iff : (∃ t, view = .ok t) ↔ (∀ x ∈ jobs, x.Converts Job) ∧
    ∀ x ∈ jobs, x.IsOwnedBy owner →
      x.displayName ≠ "" ∧ ∃ ns, x.metadata.inNamespace = some ns ∧ ns ≠ ""
  /-- There is a row for each job that is owned, and there are no labels. -/
  lists : ∀ t, view = .ok t → t.Lists (Object.pathLink base (Resource.types Job)) false
    (jobs.filter fun x => x.IsOwnedBy owner)

theorem ownedAnswers (hlink : o.link = pathLinks base) :
    OwnedAnswers base owner (s.list (queryFor owner))
      (ownedTable owner (o.withStore s.toObjectStore)) := by
  let owned := (s.list (queryFor owner)).filter fun x => x.IsOwnedBy owner
  have hanswers : ListAnswers base (Resource.types Job) (Object.Converts Job) false owned
      (printList o.withoutLabels "batch/v1" "Job" owned) :=
    PrintableKind.printAs_answers (o := o.withoutLabels) listView hlink ⟨⟨_, rfl⟩, rfl⟩
  constructor
  case exists_ok_iff =>
    have hprinted : (∃ t, printList o.withoutLabels "batch/v1" "Job" owned = .ok (.table t)) ↔
        ∃ c, printList o.withoutLabels "batch/v1" "Job" owned = .ok c := by
      constructor
      · rintro ⟨t, ht⟩
        exact ⟨_, ht⟩
      · rintro ⟨c, hc⟩
        obtain ⟨t, rfl, -⟩ := hanswers.table_of_ok c hc
        exact ⟨t, hc⟩
    simp only [ownedTable_eq_ok_iff, exists_and_left]
    refine and_congr_right fun hall => ?_
    rw [hprinted, hanswers.exists_ok_iff]
    constructor
    · intro h x hx hx'
      have hmem : x ∈ owned := List.mem_filter.2 ⟨hx, decide_eq_true hx'⟩
      exact Reference.hasAddress_iff.1 (h x hmem).2
    · intro h x hx
      obtain ⟨hx, hx'⟩ := List.mem_filter.1 hx
      exact ⟨hall x hx, Reference.hasAddress_iff.2 (h x hx (of_decide_eq_true hx'))⟩
  case lists =>
    intro t ht
    obtain ⟨table, htable, hlists⟩ := hanswers.table_of_ok _ (ownedTable_eq_ok_iff.1 ht).2
    rwa [Component.table.inj htable]

/-- **The view of an owner shows its jobs.** It is the list of the jobs that it owns, without
labels, if all jobs in its namespace can be read. Where links are paths, it can be made exactly if
these have names and namespaces, too, and it has a row for each of them. A job with a single
reference is not in the views of two owners. -/
theorem ownedTable_answers (given : List Object) (o : PrintOptions) (owner : Reference) :
    let view := ownedTable owner (o.withStore (MemoryStore.ofObjects given).toObjectStore)
    ∃ jobs, (queryFor owner).IsAnswer given jobs ∧
      (∀ t, view = .ok t ↔ (∀ x ∈ jobs, x.Converts Job) ∧
        printList o.withoutLabels "batch/v1" "Job" (jobs.filter fun x => x.IsOwnedBy owner) =
          .ok (.table t)) ∧
      (∀ base, o.link = pathLinks base → OwnedAnswers base owner jobs view) ∧
      ∀ other others, (queryFor other).IsAnswer given others →
        ¬(owner.apiVersion = other.apiVersion ∧ owner.kind = other.kind ∧
          owner.name = other.name) →
        ∀ x ∈ jobs.filter fun x => x.IsOwnedBy owner, x.metadata.owners.length = 1 →
          x ∉ others.filter fun x => x.IsOwnedBy other := by
  intro view
  refine ⟨_, MemoryStore.isAnswer_list given (queryFor owner), fun t => ownedTable_eq_ok_iff,
    fun base hlink => ownedAnswers hlink, ?_⟩
  intro other others _ hdiffer x hx hsingle hother
  have howned : x.IsOwnedBy owner := of_decide_eq_true (List.mem_filter.1 hx).2
  exact hdiffer (howned.same (of_decide_eq_true (List.mem_filter.1 hother).2) hsingle)

end Job

end ClusterView

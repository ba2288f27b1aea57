import ClusterView.Print.Printer
import ClusterView.Proofs.Cluster.Conversion
import ClusterView.Proofs.Page.Sections

/-!
# What printing asks of a store

Pages of workloads ask for pods and events in the namespace of the workload (`WorkloadQuery`), and
pages of config maps and secrets ask for nothing. A page over a store that answers as another one or
fails (`ObjectStore.AnswersLike`) is printed as over the other one or fails: the `print_orFails` of
each kind. For the page of a service account this is left to its tokens and its rules.
-/

namespace ClusterView

open Outcome

/-- The options with another store. -/
def PrintOptions.withStore (o : PrintOptions) (store : ObjectStore) : PrintOptions :=
  { o with store }

@[simp] theorem PrintOptions.store_withStore (o : PrintOptions) (store : ObjectStore) :
    (o.withStore store).store = store := rfl

/-- Lists are printed without a store. -/
theorem ListView.print_withStore {α : Type} [Resource α] (v : ListView α) (o : PrintOptions)
    (store : ObjectStore) (list : List α) : v.print (o.withStore store) list = v.print o list := rfl

/-! ## Stores side by side -/

/-- Stores with the same answers to some queries. -/
structure ObjectStore.AgreeOn (asked : Query → Prop) (a b : ObjectStore) : Prop where
  list : ∀ q, asked q → a.list q = b.list q
  get : ∀ q, asked q → a.get q = b.get q

theorem ObjectStore.AgreeOn.mono {asked asked' : Query → Prop} {a b : ObjectStore}
    (h : ObjectStore.AgreeOn asked a b) (hasked : ∀ q, asked' q → asked q) :
    ObjectStore.AgreeOn asked' a b :=
  ⟨fun q hq => h.list q (hasked q hq), fun q hq => h.get q (hasked q hq)⟩

variable {fault : PrintError → Prop}

/-- A store that answers some queries as another one does or fails with an error of some sort. -/
structure ObjectStore.AnswersLike (fault : PrintError → Prop) (asked : Query → Prop)
    (a b : ObjectStore) : Prop where
  list : ∀ q, asked q → OrFails (fun e => fault (.store e)) (a.list q) (b.list q)
  get : ∀ q, asked q → OrFails (fun e => fault (.store e)) (a.get q) (b.get q)

theorem ObjectStore.AnswersLike.mono {asked asked' : Query → Prop} {a b : ObjectStore}
    (h : ObjectStore.AnswersLike fault asked a b) (hasked : ∀ q, asked' q → asked q) :
    ObjectStore.AnswersLike fault asked' a b :=
  ⟨fun q hq => h.list q (hasked q hq), fun q hq => h.get q (hasked q hq)⟩

theorem ObjectStore.AgreeOn.answersLike {asked : Query → Prop} {a b : ObjectStore}
    (h : ObjectStore.AgreeOn asked a b) : ObjectStore.AnswersLike fault asked a b :=
  ⟨fun q hq => .of_eq (h.list q hq), fun q hq => .of_eq (h.get q hq)⟩

theorem ObjectStore.listAs_orFails (α : Type) [Resource α] {a b : ObjectStore} {q : Query}
    (h : OrFails (fun e => fault (.store e)) (a.list q) (b.list q)) :
    OrFails fault (liftM (a.listAs α q)) (liftM (b.listAs α q)) :=
  (h.bind fun _ _ => .refl _).mapError

/-- What the page of a workload in a namespace asks for. -/
inductive WorkloadQuery (ns : Option String) : Query → Prop
  | pods (selector : Option (StringMap String)) :
      WorkloadQuery ns { apiVersion := "v1", kind := "Pod", inNamespace := ns, selector }
  | events : WorkloadQuery ns { apiVersion := "v1", kind := "Event", inNamespace := ns }

variable {o : PrintOptions} {a b : ObjectStore}

/-! ## Parts of pages -/

theorem eventsTable_orFails {object : Reference}
    (h : ObjectStore.AnswersLike fault (WorkloadQuery object.inNamespace) a b) :
    OrFails fault (eventsTable object (o.withStore a)) (eventsTable object (o.withStore b)) :=
  (ObjectStore.listAs_orFails Event (h.list _ .events)).bind fun _ _ => .refl _

theorem podsTable_orFails {object : Reference} (labels : Option (StringMap String))
    (h : ObjectStore.AnswersLike fault (WorkloadQuery object.inNamespace) a b) :
    OrFails fault (podsTable object labels (o.withStore a))
      (podsTable object labels (o.withStore b)) :=
  (ObjectStore.listAs_orFails Pod (h.list _ (.pods _))).bind fun _ _ => .refl _

theorem listPods_orFails {ns : Option String} (selector : LabelSelector) (uid : Option String)
    (h : ObjectStore.AnswersLike fault (WorkloadQuery ns) a b) :
    OrFails fault (listPods ns selector uid a) (listPods ns selector uid b) :=
  (ObjectStore.listAs_orFails Pod (h.list _ (.pods none))).bind fun _ _ => .refl _

/-! ## Pages -/

namespace Page

/-- Items of the same width, the first made as the second or failing. -/
structure ItemOrFails (fault : PrintError → Prop) (i j : PageItem) : Prop where
  width : i.width = j.width
  content : OrFails fault i.content j.content

theorem ItemOrFails.refl (i : PageItem) : ItemOrFails fault i i := ⟨rfl, .refl _⟩

theorem makeItems_orFails {items items' : List PageItem}
    (h : List.Forall₂ (ItemOrFails fault) items items') :
    OrFails fault (makeItems items) (makeItems items') := by
  refine .mapM (h.imp fun i j hij => ?_)
  rw [hij.width]
  exact hij.content.map _

/-- A page asks of the store what its items and its events ask. -/
theorem print_orFails {p p' : Page} (hsame : p = { p' with items := p.items })
    (hitems : List.Forall₂ (ItemOrFails fault) p.items p'.items)
    (hevents : p'.events = true → OrFails fault (eventsTable p'.object (o.withStore a))
      (eventsTable p'.object (o.withStore b))) :
    OrFails fault (p.print (o.withStore a)) (p'.print (o.withStore b)) := by
  have hsections : OrFails fault (p'.eventSections (o.withStore a))
      (p'.eventSections (o.withStore b)) := by
    by_cases hshow : (p'.events && o.showEvents) = true
    · have hshown : ∀ s, p'.eventSections (o.withStore s) = (do
          let table ← eventsTable p'.object (o.withStore s)
          return [sectionOf .full (.table table)]) := fun s => if_pos hshow
      rw [hshown, hshown]
      exact (hevents (Bool.and_eq_true_iff.1 hshow).1).bind fun _ _ => .refl _
    · have hhidden : ∀ s, p'.eventSections (o.withStore s) = .ok [] := fun s => if_neg hshow
      rw [hhidden, hhidden]
      exact .refl _
  rw [hsame]
  unfold print
  rw [layout_eq, layout_eq]
  refine .map (.bind (.refl _) fun added _ => .bind (.refl _) fun metadata _ => ?_) _
  refine (makeItems_orFails hitems).bind fun items _ => .bind (.refl _) fun template _ => ?_
  exact hsections.bind fun events _ => .refl _

/-- What plugins see of the object of a page matters to them only. -/
theorem print_source {p : Page} {x : Object}
    (h : o.plugins.content x = o.plugins.content p.source) :
    ({ p with source := x } : Page).print o = p.print o := by
  unfold print
  rw [layout_eq, layout_eq, h]
  rfl

end Page

/-! ## Objects -/

theorem Deployment.print_orFails {d : Deployment}
    (h : ObjectStore.AnswersLike fault (WorkloadQuery d.metadata.inNamespace) a b) :
    OrFails fault (Deployment.print (o.withStore a) (some d))
      (Deployment.print (o.withStore b) (some d)) := by
  have hpods : OrFails fault (d.podsTable (o.withStore a)) (d.podsTable (o.withStore b)) :=
    podsTable_orFails (o := o.withoutLabels) _ h
  have hitems : List.Forall₂ (Page.ItemOrFails fault) (d.page (o.withStore a)).items
      (d.page (o.withStore b)).items :=
    .cons ⟨rfl, hpods.map _⟩ (.cons (.refl _) .nil)
  exact Page.print_orFails rfl hitems fun _ => eventsTable_orFails h

theorem Job.print_orFails {j : Job}
    (h : ObjectStore.AnswersLike fault (WorkloadQuery j.metadata.inNamespace) a b) :
    OrFails fault (Job.print (o.withStore a) (some j)) (Job.print (o.withStore b) (some j)) := by
  have hpods : OrFails fault (j.podsTable (o.withStore a)) (j.podsTable (o.withStore b)) :=
    podsTable_orFails _ h
  have hitems : List.Forall₂ (Page.ItemOrFails fault) (j.page (o.withStore a)).items
      (j.page (o.withStore b)).items :=
    .cons ⟨rfl, hpods.map _⟩ (.cons (.refl _) .nil)
  exact Page.print_orFails rfl hitems fun _ => eventsTable_orFails h

theorem ReplicationController.print_orFails {r : ReplicationController}
    (h : ObjectStore.AnswersLike fault (WorkloadQuery r.metadata.inNamespace) a b) :
    OrFails fault (ReplicationController.print (o.withStore a) (some r))
      (ReplicationController.print (o.withStore b) (some r)) := by
  have hstatus : OrFails fault (r.statusQuadrant a) (r.statusQuadrant b) :=
    (listPods_orFails _ _ h).bind fun _ _ => .refl _
  have hpods : OrFails fault (r.podsTable (o.withStore a)) (r.podsTable (o.withStore b)) :=
    podsTable_orFails _ h
  have hconfiguration : ∀ store, r.configuration (o.withStore store) = r.configuration o :=
    fun _ => rfl
  simp only [print, orMissing, ok_bind, page, hconfiguration]
  cases r.configuration o with
  | error e =>
    rw [error_bind, error_bind, error_bind]
    exact .refl _
  | ok c =>
    refine Page.print_orFails rfl ?_ fun _ => eventsTable_orFails h
    exact .cons ⟨rfl, hstatus.map _⟩ (.cons ⟨rfl, hpods.map _⟩ .nil)

/-- The tokens of a service account are looked for among the secrets of its namespace. -/
theorem ServiceAccount.tokenLinks_orFails {x : ServiceAccount}
    (h : ∀ q : Query, q.inNamespace = x.metadata.inNamespace →
      OrFails (fun e => fault (.store e)) (a.list q) (b.list q)) :
    OrFails fault (x.tokenLinks (o.withStore a)) (x.tokenLinks (o.withStore b)) :=
  (h _ rfl).mapError.bind fun _ _ => .refl _

theorem ServiceAccount.configuration_orFails {x : ServiceAccount}
    (htokens : OrFails fault (x.tokenLinks (o.withStore a)) (x.tokenLinks (o.withStore b))) :
    OrFails fault (x.configuration (o.withStore a)) (x.configuration (o.withStore b)) :=
  .bind (.refl _) fun _ _ => .bind (.refl _) fun _ _ => htokens.bind fun _ _ => .refl _

/-- The page of a service account asks of the store what its tokens and its rules ask. -/
theorem ServiceAccount.print_orFails {x : ServiceAccount}
    (htokens : OrFails fault (x.tokenLinks (o.withStore a)) (x.tokenLinks (o.withStore b)))
    (hrules : OrFails fault (x.policyRules a) (x.policyRules b)) :
    OrFails fault (ServiceAccount.print (o.withStore a) (some x))
      (ServiceAccount.print (o.withStore b) (some x)) := by
  have htable : OrFails fault (x.policyRulesTable a) (x.policyRulesTable b) :=
    hrules.bind fun _ _ => .refl _
  simp only [print, orMissing, ok_bind]
  refine .bind ?_ fun layout _ => .refl _
  refine .bind (.refl _) fun added _ => (configuration_orFails htokens).bind fun config _ => ?_
  refine .bind (.refl _) fun top _ => .bind (.refl _) fun metadata _ => ?_
  exact .bind (.refl _) fun middle _ => htable.bind fun rules _ => .refl _

/-- **What a page asks.** Workloads ask for pods and events of their namespace, service accounts
for their tokens and rules, and no other object asks anything. -/
theorem PrintableKind.print_orFails (k : PrintableKind) (x : Object)
    (hworkload : ObjectStore.AnswersLike fault (WorkloadQuery x.metadata.inNamespace) a b)
    (htokens : ∀ account, x.convert ServiceAccount = .ok account →
      OrFails fault (account.tokenLinks (o.withStore a)) (account.tokenLinks (o.withStore b)))
    (hrules : ∀ account, x.convert ServiceAccount = .ok account →
      OrFails fault (account.policyRules a) (account.policyRules b)) :
    OrFails fault (k.print (o.withStore a) x) (k.print (o.withStore b) x) := by
  have hworkload' : ∀ {α : Type} [Resource α] [LawfulResource α] {r : α},
      (liftM (x.convert α) : Except PrintError α) = .ok r →
        ObjectStore.AnswersLike fault (WorkloadQuery (Resource.metadata r).inNamespace) a b := by
    intro α _ _ r hr
    rw [Object.metadata_of_convert (liftM_store_eq_ok_iff.1 hr)]
    exact hworkload
  cases k with
  | deployment =>
    exact .bind (.refl _) fun d hd => Deployment.print_orFails (hworkload' hd)
  | job => exact .bind (.refl _) fun j hj => Job.print_orFails (hworkload' hj)
  | configMap => exact .refl _
  | replicationController =>
    exact .bind (.refl _) fun r hr => ReplicationController.print_orFails (hworkload' hr)
  | secret => exact .refl _
  | serviceAccount =>
    refine .bind (.refl _) fun account haccount => ?_
    have hconvert := liftM_store_eq_ok_iff.1 haccount
    exact ServiceAccount.print_orFails (htokens account hconvert) (hrules account hconvert)

/-- Nothing but the printer of its kind asks anything for an object. -/
theorem printObject_orFails {input : Option Object}
    (h : ∀ x, input = some x → ∀ k : PrintableKind,
      OrFails fault (k.print (o.withStore a) x) (k.print (o.withStore b) x)) :
    OrFails fault (printObject (o.withStore a) input) (printObject (o.withStore b) input) := by
  cases input with
  | none => exact .refl _
  | some x =>
    simp only [printObject, orMissing, ok_bind]
    exact .bind (.refl _) fun types _ => .bind (.refl _) fun k _ => h x rfl k

end ClusterView

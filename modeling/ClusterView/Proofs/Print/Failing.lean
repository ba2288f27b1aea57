import ClusterView.Proofs.Access.Granted
import ClusterView.Proofs.Print.Answers

/-!
# Printing over a store that fails

`ObjectStore.withFaults` lets some queries of a store fail and leaves the other answers as they are.
What is printed over such a store is what is printed over the store without faults, or the error of
a query that fails (`orFails_withFaults`): no query that fails is taken for an object that is
missing or for a list without objects.
-/

namespace ClusterView

open Outcome

/-! ## Faults -/

/-- Which queries of a store fail, and with which errors. -/
structure ObjectStore.Faults where
  list : Query → Option StoreError
  get : Query → Option StoreError

/-- The store with faults: the answers of a query that does not fail are kept. -/
def ObjectStore.withFaults (s : ObjectStore) (f : ObjectStore.Faults) : ObjectStore where
  list q :=
    match f.list q with
    | some e => .error e
    | none => s.list q
  get q :=
    match f.get q with
    | some e => .error e
    | none => s.get q

/-- The errors of the faults, as printing reports them. -/
inductive ObjectStore.Faults.Reports (f : ObjectStore.Faults) : PrintError → Prop
  | list {q : Query} {e : StoreError} (h : f.list q = some e) : Reports f (.store e)
  | get {q : Query} {e : StoreError} (h : f.get q = some e) : Reports f (.store e)

theorem ObjectStore.answersLike_withFaults (s : ObjectStore) (f : ObjectStore.Faults) :
    ObjectStore.AnswersLike f.Reports (fun _ => True) (s.withFaults f) s where
  list q _ := by
    unfold withFaults
    cases hq : f.list q with
    | none => exact .of_eq (by simp only [hq])
    | some e => exact .inr ⟨e, .list hq, by simp only [hq]⟩
  get q _ := by
    unfold withFaults
    cases hq : f.get q with
    | none => exact .of_eq (by simp only [hq])
    | some e => exact .inr ⟨e, .get hq, by simp only [hq]⟩

/-! ## Printing -/

section

variable {fault : PrintError → Prop} {o : PrintOptions} {a b : ObjectStore}
  (h : ObjectStore.AnswersLike fault (fun _ => True) a b)
include h

theorem ServiceAccount.policyRules_orFails_of_answersLike (x : ServiceAccount) :
    OrFails fault (x.policyRules a) (x.policyRules b) :=
  x.policyRules_orFails_of_access (fun q _ => h.list q trivial) fun q _ => h.get q trivial

theorem ServiceAccount.tokenLinks_orFails_of_answersLike (x : ServiceAccount) :
    OrFails fault (x.tokenLinks (o.withStore a)) (x.tokenLinks (o.withStore b)) :=
  tokenLinks_orFails fun q _ => h.list q trivial

theorem Job.ownedTable_orFails (owner : Reference) :
    OrFails fault (Job.ownedTable owner (o.withStore a)) (Job.ownedTable owner (o.withStore b)) :=
  (ObjectStore.listAs_orFails Job (h.list _ trivial)).bind fun _ _ => .refl _

theorem printObject_orFails_of_answersLike (input : Option Object) :
    OrFails fault (printObject (o.withStore a) input) (printObject (o.withStore b) input) :=
  printObject_orFails fun x _ k => k.print_orFails x (h.mono fun _ _ => trivial)
    (fun account _ => account.tokenLinks_orFails_of_answersLike h)
    fun account _ => account.policyRules_orFails_of_answersLike h

end

/-- **A store that fails changes nothing but for its errors.** Over a store with faults, an object
is printed as over the store without them, or the error of a fault is reported; and so are its parts
that ask the store: the tables of pods and of owned jobs, the pods of a selector, and the
configuration and the rules of a service account. -/
theorem orFails_withFaults (s : ObjectStore) (f : ObjectStore.Faults) (o : PrintOptions) :
    let failing := s.withFaults f
    (∀ input, OrFails f.Reports (printObject (o.withStore failing) input)
      (printObject (o.withStore s) input)) ∧
    (∀ object labels, OrFails f.Reports (podsTable object labels (o.withStore failing))
      (podsTable object labels (o.withStore s))) ∧
    (∀ ns selector uid, OrFails f.Reports (listPods ns selector uid failing)
      (listPods ns selector uid s)) ∧
    (∀ owner, OrFails f.Reports (Job.ownedTable owner (o.withStore failing))
      (Job.ownedTable owner (o.withStore s))) ∧
    ∀ x : ServiceAccount,
      OrFails f.Reports (x.configuration (o.withStore failing)) (x.configuration (o.withStore s)) ∧
      OrFails f.Reports (x.policyRules failing) (x.policyRules s) := by
  intro failing
  have h : ObjectStore.AnswersLike f.Reports (fun _ => True) failing s := s.answersLike_withFaults f
  have hworkload : ∀ ns, ObjectStore.AnswersLike f.Reports (WorkloadQuery ns) failing s :=
    fun ns => h.mono fun _ _ => trivial
  refine ⟨printObject_orFails_of_answersLike h, fun object labels => ?_, fun ns selector uid => ?_,
    Job.ownedTable_orFails h, fun x => ⟨?_, x.policyRules_orFails_of_answersLike h⟩⟩
  · exact podsTable_orFails labels (hworkload _)
  · exact listPods_orFails selector uid (hworkload _)
  · exact ServiceAccount.configuration_orFails (x.tokenLinks_orFails_of_answersLike h)

/-- A role that cannot be looked up is not one that is missing. -/
example :
    let failing := builderStore.toObjectStore.withFaults
      { list := fun _ => none
        get := fun q => if q.kind = "Role" then some (.unanswered q.text "timeout") else none }
    builder.policyRules failing = .error (.store (.unanswered
      "rbac.authorization.k8s.io/v1/Role in default named reader" "timeout")) := by
  rfl

end ClusterView

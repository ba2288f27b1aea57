import ClusterView.Proofs.Store.Order
import ClusterView.Proofs.StringMap
import Mathlib.Data.Prod.Lex
import Mathlib.Data.String.Basic
import Mathlib.Order.WithBot

/-!
# What a store lists

The answer of a store to a query is determined by the objects that it was given: it holds those that
are asked for, as often as they were given, in the order of their places, and as they were given
where their places are the same (`Query.IsAnswer`). There is exactly one such answer
(`Query.IsAnswer.eq`), and a query that asks for more has a part of it (`list_sublist_of_narrows`).
-/

namespace ClusterView

/-! ## Places -/

/-- The rank of a namespace. Nothing ranks before every namespace. -/
def namespaceRank (ns : Option String) : WithBot String := ns.elim ⊥ WithBot.some

theorem namespaceRank_le_iff {a b : Option String} :
    namespaceRank a ≤ namespaceRank b ↔ namespaceLE a b = true := by
  match a, b with
  | none, b => simp [namespaceLE, namespaceRank]
  | some a, none => simp [namespaceLE, namespaceRank]
  | some a, some b => simp [namespaceLE, namespaceRank]

theorem namespaceRank_inj {a b : Option String} : namespaceRank a = namespaceRank b ↔ a = b := by
  cases a <;> cases b <;> simp [namespaceRank]

namespace Object

/-- Where an object stands in a store: by its namespace and then by the name that is shown. -/
def place (x : Object) : WithBot String ×ₗ String :=
  toLex (namespaceRank x.metadata.inNamespace, x.displayName)

theorem place_le_iff {x y : Object} : x.place ≤ y.place ↔ x.le y = true := by
  rw [place, place, Prod.Lex.toLex_le_toLex, le_iff, lt_iff_le_and_ne, namespaceRank_le_iff, Ne,
    namespaceRank_inj]
  tauto

theorem place_lt_iff {x y : Object} : x.place < y.place ↔ y.le x = false := by
  rw [← not_le, place_le_iff, Bool.not_eq_true]

/-- The order of a store does not tell objects of one place apart. -/
theorem alike_le_eq (x y : Object) : StableSort.alike le x y = decide (y.place = x.place) := by
  have halike : StableSort.alike le x y = true ↔ y.place = x.place := by
    rw [StableSort.alike, Bool.and_eq_true, ← place_le_iff, ← place_le_iff, and_comm,
      ← le_antisymm_iff]
  rw [Bool.eq_iff_iff, halike, decide_eq_true_iff]

end Object

/-! ## Queries -/

theorem labelsMatch_iff {wanted labels : StringMap String} : labelsMatch wanted labels = true ↔
    ∀ key value, wanted.get? key = some value → labels.get? key = some value := by
  simp only [labelsMatch, List.all_eq_true, Prod.forall, StringMap.mem_entries_iff, beq_iff_eq]

namespace Query

/-- An object is what a query asks for: it is of the type, and it has the namespace, the name and
the labels that the query names. -/
structure Asks (q : Query) (x : Object) : Prop where
  types : x.types = some ⟨q.apiVersion, q.kind⟩
  inNamespace : ∀ ns, q.inNamespace = some ns → x.metadata.inNamespace = some ns
  name : ∀ name, q.name = some name → x.metadata.name = some name
  labels : ∀ wanted, q.selector = some wanted →
    ∀ key value, wanted.get? key = some value → x.metadata.labelMap.get? key = some value

theorem selects_iff_asks {q : Query} {x : Object} : q.selects x = true ↔ q.Asks x := by
  simp only [selects_iff, Option.mem_def, labelsMatch_iff]
  constructor
  · rintro ⟨htypes, hns, hname, hlabels⟩
    exact ⟨htypes, hns, hname, hlabels⟩
  · rintro ⟨htypes, hns, hname, hlabels⟩
    exact ⟨htypes, hns, hname, hlabels⟩

instance (q : Query) : DecidablePred q.Asks := fun _ => decidable_of_iff _ selects_iff_asks

theorem filter_selects_eq (q : Query) (xs : List Object) :
    xs.filter q.selects = xs.filter q.Asks := by
  refine List.filter_congr fun x _ => ?_
  rw [Bool.eq_iff_iff, selects_iff_asks, decide_eq_true_iff]

/-- A query asks for all that another one asks for, and perhaps for more. -/
structure Narrows (q wide : Query) : Prop where
  apiVersion : q.apiVersion = wide.apiVersion
  kind : q.kind = wide.kind
  inNamespace : ∀ ns, wide.inNamespace = some ns → q.inNamespace = some ns
  name : ∀ name, wide.name = some name → q.name = some name
  labels : ∀ wanted, wide.selector = some wanted → ∀ key value, wanted.get? key = some value →
    ∃ more, q.selector = some more ∧ more.get? key = some value

theorem Narrows.asks {q wide : Query} (h : q.Narrows wide) {x : Object} (hx : q.Asks x) :
    wide.Asks x where
  types := by rw [← h.apiVersion, ← h.kind]; exact hx.types
  inNamespace ns hns := hx.inNamespace ns (h.inNamespace ns hns)
  name name hname := hx.name name (h.name name hname)
  labels wanted hwanted key value hvalue := by
    obtain ⟨more, hmore, hget⟩ := h.labels wanted hwanted key value hvalue
    exact hx.labels more hmore key value hget

/-! ## Answers -/

/-- The objects that answer a query, of those that are given. -/
structure IsAnswer (q : Query) (given answer : List Object) : Prop where
  /-- The answer holds what is asked for, each object as often as it is given. -/
  perm : answer.Perm (given.filter q.Asks)
  ascending : answer.Pairwise fun x y => x.place ≤ y.place
  /-- Objects of one place are in the order in which they are given. -/
  stable : ∀ x : Object, answer.filter (fun y => y.place = x.place) =
    given.filter fun y => q.Asks y ∧ y.place = x.place

/-- A query has one answer at most. -/
theorem IsAnswer.eq {q : Query} {given answer other : List Object} (h : q.IsAnswer given answer)
    (h' : q.IsAnswer given other) : answer = other := by
  have hle : ∀ {l : List Object}, (l.Pairwise fun x y => x.place ≤ y.place) →
      l.Pairwise fun x y => x.le y = true := fun hl => hl.imp fun hxy => Object.place_le_iff.1 hxy
  -- Two ascending lists are one if they agree on the objects of each place.
  refine StableSort.eq_of_filter_alike_eq Object.le_total (hle h.ascending) (hle h'.ascending) ?_
  intro x
  have halike : StableSort.alike Object.le x = fun y => decide (y.place = x.place) :=
    funext (Object.alike_le_eq x)
  rw [halike, h.stable x, h'.stable x]

end Query

namespace MemoryStore

/-- A store lists the answer to a query. -/
theorem isAnswer_list (given : List Object) (q : Query) :
    q.IsAnswer given ((ofObjects given).list q) := by
  have hlist : (ofObjects given).list q = (given.filter q.Asks).mergeSort Object.le := by
    rw [list, filter_ofObjects, Query.filter_selects_eq]
    rfl
  rw [hlist]
  refine ⟨List.mergeSort_perm _ _, ?_, fun x => ?_⟩
  · refine (List.pairwise_mergeSort Object.le_trans Object.le_total _).imp fun hxy => ?_
    exact Object.place_le_iff.2 hxy
  · have halike : (fun y : Object => decide (y.place = x.place)) = StableSort.alike Object.le x :=
      (funext (Object.alike_le_eq x)).symm
    rw [halike, StableSort.filter_alike_mergeSort Object.le_trans Object.le_total,
      List.filter_filter]
    refine List.filter_congr fun y _ => ?_
    rw [Object.alike_le_eq, Bool.and_comm, ← Bool.decide_and]

/-- What holds of the answer to a query holds of what a store lists. -/
theorem exists_isAnswer_iff {given : List Object} {q : Query} {P : List Object → Prop} :
    (∃ answer, q.IsAnswer given answer ∧ P answer) ↔ P ((ofObjects given).list q) := by
  have hlist := isAnswer_list given q
  constructor
  · rintro ⟨answer, hanswer, h⟩
    rwa [hlist.eq hanswer]
  · intro h
    exact ⟨_, hlist, h⟩

theorem list_sublist_of_narrows (s : MemoryStore) {q wide : Query} (h : q.Narrows wide) :
    (s.list q).Sublist (s.list wide) := by
  have hlist : s.list q = (s.list wide).filter q.selects := by
    rw [list, list, List.filter_filter]
    refine List.filter_congr fun x _ => ?_
    cases hx : q.selects x with
    | false => rfl
    | true =>
      have hwide : wide.selects x = true :=
        Query.selects_iff_asks.2 (h.asks (Query.selects_iff_asks.1 hx))
      rw [hwide]
      rfl
  rw [hlist]
  exact List.filter_sublist

end MemoryStore

/-- **A store answers exactly.** It lists the one answer to a query, the first object of the answer
is the one that it gets, and a query that asks for more has a part of the answer. -/
theorem answers_exactly (given : List Object) (q : Query) :
    let store := (MemoryStore.ofObjects given).toObjectStore
    ∃ answer, store.list q = .ok answer ∧ (∀ other, q.IsAnswer given other ↔ other = answer) ∧
      store.get q = .ok answer.head? ∧ (store.get q = .ok none ↔ answer = []) ∧
      ∀ narrow : Query, narrow.Narrows q →
        ∃ part, store.list narrow = .ok part ∧ part.Sublist answer := by
  intro store
  have hanswer := MemoryStore.isAnswer_list given q
  have hget : store.get q = .ok ((MemoryStore.ofObjects given).list q).head? :=
    congrArg Except.ok (MemoryStore.get?_eq_head? _ q)
  refine ⟨_, rfl, fun other => ⟨fun h => h.eq hanswer, ?_⟩, hget, ?_, fun narrow h => ?_⟩
  · rintro rfl
    exact hanswer
  · rw [hget, Except.ok.injEq, List.head?_eq_none_iff]
  · exact ⟨_, rfl, MemoryStore.list_sublist_of_narrows _ h⟩

end ClusterView

import ClusterView.Proofs.Print.Answers
import ClusterView.Proofs.Store.Order
import Mathlib.Data.List.Nodup

/-!
# The order of manifests

A store sorts objects by namespace and name only, so objects of different types that share both
stand in the order in which they were given. A query asks for one type: among its objects there are
no such ties if the objects of a type differ in namespace or name. So the answers do not depend on
the order in which objects were given (`answers_eq_of_perm`).
-/

namespace ClusterView

/-- What tells an object from others: its type, its namespace and the name that is shown. -/
def Object.identity (x : Object) : Option TypeMeta × Option String × String :=
  (x.types, x.metadata.inNamespace, x.displayName)

namespace MemoryStore

section

variable {xs ys : List Object} (hperm : xs.Perm ys) (hdistinct : (xs.map Object.identity).Nodup)
include hperm hdistinct

/-- A query has the same answer however the objects were given. -/
theorem list_eq_of_perm (q : Query) : (ofObjects xs).list q = (ofObjects ys).list q := by
  unfold list
  rw [filter_ofObjects, filter_ofObjects]
  -- What a query selects is of one type, so objects that tie in the order have one identity.
  refine StableSort.mergeSort_eq_of_perm Object.le_trans Object.le_total (hperm.filter _) ?_
  intro x hx y hy hxy hyx
  obtain ⟨hx, hqx⟩ := List.mem_filter.1 hx
  obtain ⟨hy, hqy⟩ := List.mem_filter.1 hy
  have htypes : x.types = y.types :=
    (Query.selects_iff.1 hqx).1.trans (Query.selects_iff.1 hqy).1.symm
  obtain ⟨hns, hname⟩ := Object.keys_eq_of_le_of_le hxy hyx
  refine List.inj_on_of_nodup_map hdistinct hx hy ?_
  simp only [Object.identity, htypes, hns, hname]

theorem toObjectStore_eq_of_perm :
    (ofObjects xs).toObjectStore = (ofObjects ys).toObjectStore := by
  have hlist := list_eq_of_perm hperm hdistinct
  simp only [toObjectStore, get?_eq_head?, hlist]

end

end MemoryStore

/-- **The order of manifests does not matter.** Stores of the same objects, given in any order and
pairwise different in type, namespace or name, have the same answer to every query and print every
object alike. -/
theorem answers_eq_of_perm {xs ys : List Object} (hperm : xs.Perm ys)
    (hdistinct : (xs.map Object.identity).Nodup) :
    let a := (MemoryStore.ofObjects xs).toObjectStore
    let b := (MemoryStore.ofObjects ys).toObjectStore
    (∀ q, a.list q = b.list q) ∧ (∀ q, a.get q = b.get q) ∧
      ∀ (o : PrintOptions) (input : Option Object),
        printObject (o.withStore a) input = printObject (o.withStore b) input := by
  intro a b
  have hstores : a = b := MemoryStore.toObjectStore_eq_of_perm hperm hdistinct
  rw [hstores]
  exact ⟨fun _ => rfl, fun _ => rfl, fun _ _ => rfl⟩

/-- An object without further fields. -/
def bareObject (apiVersion kind name : String) : Object where
  types := some ⟨apiVersion, kind⟩
  metadata := { name := some name, inNamespace := some "default" }
  fields := []

/-- A pod and a secret of one name are stored as they are given, and yet no answer tells the stores
apart. -/
theorem answers_pod_and_secret :
    let pod := bareObject "v1" "Pod" "web"
    let secret := bareObject "v1" "Secret" "web"
    let a := MemoryStore.ofObjects [pod, secret]
    let b := MemoryStore.ofObjects [secret, pod]
    a.objects ≠ b.objects ∧ (∀ q, a.toObjectStore.list q = b.toObjectStore.list q) ∧
      (∀ q, a.toObjectStore.get q = b.toObjectStore.get q) ∧
      ∀ (o : PrintOptions) (input : Option Object),
        printObject (o.withStore a.toObjectStore) input =
          printObject (o.withStore b.toObjectStore) input := by
  intro pod secret a b
  have ha : a.objects = [pod, secret] := List.mergeSort_of_pairwise (by decide)
  have hb : b.objects = [secret, pod] := List.mergeSort_of_pairwise (by decide)
  refine ⟨?_, answers_eq_of_perm (.swap secret pod []) (by decide)⟩
  rw [ha, hb]
  simp [pod, secret, bareObject]

end ClusterView

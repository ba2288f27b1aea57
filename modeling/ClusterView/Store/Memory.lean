import ClusterView.Store.Basic

/-!
# Stores in memory

A `MemoryStore` holds objects in ascending order of namespace and name, objects without a namespace
first and equal ones in the order in which they were given. Its answers are the objects that satisfy
the query, in that order.
-/

namespace ClusterView

/-! ## The order of objects -/

/-- Whether a namespace comes before another or is the same; none comes first. -/
def namespaceLE : Option String → Option String → Bool
  | none, _ => true
  | some _, none => false
  | some a, some b => a ≤ b

/-- Whether an object may stand before another: by namespace, then by the name that is shown. -/
def Object.le (a b : Object) : Bool :=
  if a.metadata.inNamespace = b.metadata.inNamespace then a.displayName ≤ b.displayName
  else namespaceLE a.metadata.inNamespace b.metadata.inNamespace

/-! ## Stores -/

/-- Objects in the order of their namespaces and names. -/
structure MemoryStore where
  objects : List Object

namespace MemoryStore

/-- The store of some objects. -/
def ofObjects (objects : List Object) : MemoryStore := ⟨objects.mergeSort Object.le⟩

/-- The store without objects. -/
def empty : MemoryStore := ⟨[]⟩

/-- The objects that satisfy a query. -/
def list (s : MemoryStore) (q : Query) : List Object := s.objects.filter q.selects

/-- The first object that satisfies a query. -/
def get? (s : MemoryStore) (q : Query) : Option Object := s.objects.find? q.selects

/-- The store as a source of objects, which always has an answer. -/
def toObjectStore (s : MemoryStore) : ObjectStore where
  list q := .ok (s.list q)
  get q := .ok (s.get? q)

/-- The first object of a query is the first of all its objects. -/
theorem get?_eq_head? (s : MemoryStore) (q : Query) : s.get? q = (s.list q).head? := by
  simp [get?, list, List.head?_filter]

end MemoryStore

end ClusterView

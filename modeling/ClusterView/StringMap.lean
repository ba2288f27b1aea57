/-!
# Maps with text keys

`StringMap α` holds its entries in strictly ascending key order, by code point, so two maps with
the same entries are equal and a walk over a map never depends on how it was built. `get?` is its
view: `get?_insert` says what an insertion does to it, and `get?_ofList` that of repeated keys the
last one counts.
-/

namespace ClusterView

/-! ## Ordered entries -/

/-- Whether the keys of an entry list are strictly ascending. -/
def Ascending {α : Type u} (entries : List (String × α)) : Prop :=
  entries.Pairwise (fun a b => a.1 < b.1)

instance {α : Type u} (entries : List (String × α)) : Decidable (Ascending entries) :=
  inferInstanceAs (Decidable (List.Pairwise _ _))

/-- Puts a value under a key, replacing the one there, at the place where the order wants it. -/
def insertEntry {α : Type u} (key : String) (value : α) : List (String × α) → List (String × α)
  | [] => [(key, value)]
  | (k, v) :: rest =>
    if key < k then (key, value) :: (k, v) :: rest
    else if key = k then (key, value) :: rest
    else (k, v) :: insertEntry key value rest

/-- The first value under a key. -/
def findEntry {α : Type u} (key : String) : List (String × α) → Option α
  | [] => none
  | (k, v) :: rest => if k = key then some v else findEntry key rest

theorem mem_insertEntry {α : Type u} {key : String} {value : α} {entries : List (String × α)}
    {e : String × α} (h : e ∈ insertEntry key value entries) : e = (key, value) ∨ e ∈ entries := by
  induction entries with
  | nil => simpa [insertEntry] using h
  | cons head rest ih =>
    obtain ⟨k, v⟩ := head
    simp only [insertEntry] at h
    split at h
    · simpa using h
    · split at h
      · simp only [List.mem_cons] at h ⊢
        exact h.imp id Or.inr
      · rcases List.mem_cons.1 h with rfl | h
        · simp
        · exact (ih h).imp id (List.mem_cons_of_mem _)

theorem Ascending.insertEntry {α : Type u} {entries : List (String × α)} (h : Ascending entries)
    (key : String) (value : α) : Ascending (insertEntry key value entries) := by
  induction entries with
  | nil => simp [ClusterView.insertEntry, Ascending]
  | cons head rest ih =>
    obtain ⟨k, v⟩ := head
    obtain ⟨hk, hr⟩ := List.pairwise_cons.1 h
    simp only [ClusterView.insertEntry]
    split
    next hlt =>
      refine List.pairwise_cons.2 ⟨fun e he => ?_, h⟩
      rcases List.mem_cons.1 he with rfl | he
      · exact hlt
      · exact String.lt_trans hlt (hk e he)
    next hlt =>
      split
      next heq => subst heq; exact List.pairwise_cons.2 ⟨hk, hr⟩
      next hne =>
        refine List.pairwise_cons.2 ⟨fun e he => ?_, ih hr⟩
        rcases mem_insertEntry he with rfl | he
        · show k < key
          grind
        · exact hk e he

theorem findEntry_insertEntry {α : Type u} (key : String) (value : α) (entries : List (String × α))
    (k : String) :
    findEntry k (insertEntry key value entries) =
      if key = k then some value else findEntry k entries := by
  induction entries with
  | nil => simp [insertEntry, findEntry]
  | cons head rest ih =>
    obtain ⟨k', v⟩ := head
    simp only [insertEntry]
    split
    · simp [findEntry]
    · split
      next h => subst h; by_cases hk : key = k <;> simp [findEntry, hk]
      next h =>
        simp only [findEntry, ih]
        split <;> split <;> simp_all

theorem findEntry_append {α : Type u} (k : String) (xs ys : List (String × α)) :
    findEntry k (xs ++ ys) = (findEntry k xs).or (findEntry k ys) := by
  induction xs with
  | nil => simp [findEntry]
  | cons e rest ih =>
    obtain ⟨k', v⟩ := e
    simp only [List.cons_append, findEntry]
    split <;> simp [ih]

theorem isSome_findEntry_iff {α : Type u} {k : String} {entries : List (String × α)} :
    (findEntry k entries).isSome ↔ k ∈ entries.map (·.1) := by
  induction entries with
  | nil => simp [findEntry]
  | cons e rest ih =>
    obtain ⟨k', v⟩ := e
    by_cases h : k' = k
    · simp [findEntry, h]
    · simp only [findEntry, if_neg h, ih, List.map_cons, List.mem_cons, Ne.symm h, false_or]

/-! ## Maps -/

/-- A finite map from text, with its keys in ascending order. -/
structure StringMap (α : Type u) where
  /-- The keys and their values. -/
  entries : List (String × α)
  /-- The keys ascend. -/
  ascending : Ascending entries
deriving DecidableEq

namespace StringMap

variable {α : Type u}

@[ext] theorem ext {m n : StringMap α} (h : m.entries = n.entries) : m = n := by
  cases m; cases n; cases h; rfl

/-- The map without entries. -/
def empty : StringMap α := ⟨[], List.Pairwise.nil⟩

instance : EmptyCollection (StringMap α) := ⟨empty⟩

instance : Inhabited (StringMap α) := ⟨empty⟩

/-- Puts a value under a key, replacing the one there. -/
def insert (m : StringMap α) (key : String) (value : α) : StringMap α :=
  ⟨insertEntry key value m.entries, m.ascending.insertEntry key value⟩

/-- The map of a list of entries; of a repeated key the last entry counts. -/
def ofList (entries : List (String × α)) : StringMap α :=
  entries.foldl (fun m e => m.insert e.1 e.2) empty

/-- The value under a key. -/
def get? (m : StringMap α) (key : String) : Option α := findEntry key m.entries

/-- The keys, ascending. -/
def keys (m : StringMap α) : List String := m.entries.map (·.1)

/-- The values, in the order of their keys. -/
def values (m : StringMap α) : List α := m.entries.map (·.2)

/-- The number of entries. -/
def size (m : StringMap α) : Nat := m.entries.length

/-- Whether the map has no entry. -/
def isEmpty (m : StringMap α) : Bool := m.entries.isEmpty

@[simp] theorem entries_empty : (empty : StringMap α).entries = [] := rfl

@[simp] theorem get?_empty (key : String) : (empty : StringMap α).get? key = none := rfl

theorem get?_insert (m : StringMap α) (key : String) (value : α) (k : String) :
    (m.insert key value).get? k = if key = k then some value else m.get? k :=
  findEntry_insertEntry key value m.entries k

/-- Of the entries of a list the last one under a key counts. -/
theorem get?_ofList (entries : List (String × α)) (k : String) :
    (ofList entries).get? k = findEntry k entries.reverse := by
  suffices ∀ m : StringMap α, (entries.foldl (fun m e => m.insert e.1 e.2) m).get? k =
      (findEntry k entries.reverse).or (m.get? k) by
    simpa [ofList] using this empty
  induction entries with
  | nil => simp [findEntry]
  | cons e rest ih =>
    intro m
    rw [List.foldl_cons, ih, get?_insert, List.reverse_cons, findEntry_append]
    obtain ⟨k', v⟩ := e
    by_cases h : k' = k <;> simp [findEntry, h]

theorem mem_keys_iff {m : StringMap α} {k : String} : k ∈ m.keys ↔ (m.get? k).isSome :=
  isSome_findEntry_iff.symm

theorem mem_keys_ofList {entries : List (String × α)} {k : String} :
    k ∈ (ofList entries).keys ↔ k ∈ entries.map (·.1) := by
  rw [mem_keys_iff, get?_ofList, isSome_findEntry_iff, List.map_reverse, List.mem_reverse]

end StringMap

end ClusterView

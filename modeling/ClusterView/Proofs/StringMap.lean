import ClusterView.StringMap
import Mathlib.Data.List.Induction
import Mathlib.Data.List.Sort

/-!
# Maps by their entries

The entries of a map are what it has under its keys (`mem_entries_iff`). Their order is that of the
keys, so a map is known by its members (`eq_of_mem_iff`), and it is the map that is made of its
entries (`ofList_entries`).
-/

namespace ClusterView

theorem insertEntry_of_lt {α : Type} {key : String} {value : α} {entries : List (String × α)}
    (h : ∀ e ∈ entries, e.1 < key) : insertEntry key value entries = entries ++ [(key, value)] := by
  induction entries with
  | nil => rfl
  | cons e rest ih =>
    obtain ⟨hlt, hrest⟩ := List.forall_mem_cons.1 h
    have hle : ¬ key < e.1 := fun hgt => String.lt_irrefl e.1 (String.lt_trans hlt hgt)
    have hne : key ≠ e.1 := fun heq => String.lt_irrefl key (heq ▸ hlt)
    rw [insertEntry, if_neg hle, if_neg hne, ih hrest]
    rfl

theorem mem_of_findEntry_eq_some {α : Type} {key : String} {value : α}
    {entries : List (String × α)} (h : findEntry key entries = some value) :
    (key, value) ∈ entries := by
  induction entries with
  | nil => cases h
  | cons e rest ih =>
    obtain ⟨k, v⟩ := e
    rw [findEntry] at h
    split at h
    next hk =>
      obtain rfl := Option.some.inj h
      exact hk ▸ List.mem_cons_self
    next => exact List.mem_cons_of_mem _ (ih h)

/-- Of entries under different keys, each is what is found under its key. -/
theorem findEntry_eq_some_iff_of_nodup {α : Type} {k : String} {v : α}
    {entries : List (String × α)} (h : (entries.map (·.1)).Nodup) :
    findEntry k entries = some v ↔ (k, v) ∈ entries := by
  induction entries with
  | nil => simp [findEntry]
  | cons e rest ih =>
    obtain ⟨key, value⟩ := e
    obtain ⟨hkey, hrest⟩ := List.nodup_cons.1 h
    rw [List.mem_cons, findEntry]
    split
    next heq =>
      subst heq
      have hnot : (key, v) ∉ rest := fun hmem => hkey (List.mem_map.2 ⟨_, hmem, rfl⟩)
      simp [hnot, eq_comm]
    next hne => simp [Ne.symm hne, ih hrest]

theorem Ascending.nodup_keys {α : Type} {entries : List (String × α)} (h : Ascending entries) :
    (entries.map (·.1)).Nodup := by
  refine List.pairwise_map.2 (h.imp fun {d e} hlt heq => ?_)
  rw [heq] at hlt
  exact String.lt_irrefl e.1 hlt

theorem findEntry_filter_ne {α : Type} (key k : String) (entries : List (String × α)) :
    findEntry k (entries.filter fun e => e.1 ≠ key) =
      if k = key then none else findEntry k entries := by
  induction entries with
  | nil => simp [findEntry]
  | cons e rest ih =>
    obtain ⟨k', v⟩ := e
    by_cases hkey : k' = key
    · rw [List.filter_cons_of_neg (by simpa using hkey), ih, findEntry]
      split
      · rfl
      next hk => rw [if_neg fun h => hk (h.symm.trans hkey)]
    · rw [List.filter_cons_of_pos (by simpa using hkey), findEntry, findEntry, ih]
      by_cases hk : k' = k
      · subst hk
        rw [if_pos rfl, if_pos rfl, if_neg hkey]
      · rw [if_neg hk, if_neg hk]

namespace StringMap

variable {α : Type}

/-- An entry of a map is what the map has under its key. -/
theorem mem_entries_iff {m : StringMap α} {k : String} {v : α} :
    (k, v) ∈ m.entries ↔ m.get? k = some v :=
  (findEntry_eq_some_iff_of_nodup m.ascending.nodup_keys).symm

/-- What a map that may be missing has under a key. -/
theorem get?_getD_eq_some_iff {m : Option (StringMap α)} {k : String} {v : α} :
    (m.getD ∅).get? k = some v ↔ ∃ given ∈ m, given.get? k = some v := by
  cases m with
  | none => simp [EmptyCollection.emptyCollection]
  | some given => simp

/-- Ascending entries are determined by their members. -/
theorem eq_of_mem_iff {xs ys : List (String × α)} (hxs : Ascending xs) (hys : Ascending ys)
    (h : ∀ e, e ∈ xs ↔ e ∈ ys) : xs = ys := by
  have hirrefl : Std.Irrefl fun a b : String × α => a.1 < b.1 := ⟨fun a => String.lt_irrefl a.1⟩
  have hantisymm : Std.Antisymm fun a b : String × α => a.1 < b.1 :=
    ⟨fun a b hab hba => absurd (String.lt_trans hab hba) (String.lt_irrefl a.1)⟩
  exact hxs.eq_of_mem_iff hys h

theorem entries_ofList {entries : List (String × α)} (h : Ascending entries) :
    (ofList entries).entries = entries := by
  induction entries using List.reverseRecOn with
  | nil => rfl
  | append_singleton entries e ih =>
    obtain ⟨hinit, -, hlast⟩ := List.pairwise_append.1 h
    have hstep : (ofList (entries ++ [e])).entries =
        insertEntry e.1 e.2 (ofList entries).entries := by
      rw [ofList, List.foldl_append]
      rfl
    rw [hstep, ih hinit, insertEntry_of_lt fun d hd => hlast d hd e (List.mem_singleton_self e)]

/-- A map has no entries but those that it is made of. -/
theorem mem_of_mem_entries_ofList {entries : List (String × α)} {e : String × α}
    (h : e ∈ (ofList entries).entries) : e ∈ entries := by
  obtain ⟨k, v⟩ := e
  rw [mem_entries_iff, get?_ofList] at h
  exact List.mem_reverse.1 (mem_of_findEntry_eq_some h)

/-- A map is made of its entries. -/
theorem ofList_entries (m : StringMap α) : ofList m.entries = m := ext (entries_ofList m.ascending)

/-- Leaving a key out of a map is leaving its entries out of what the map is made of. -/
theorem filter_entries_ofList (key : String) (entries : List (String × α)) :
    (ofList entries).entries.filter (fun e => e.1 ≠ key) =
      (ofList (entries.filter fun e => e.1 ≠ key)).entries := by
  refine eq_of_mem_iff ((ofList entries).ascending.filter _) (ofList _).ascending ?_
  rintro ⟨k, v⟩
  rw [List.mem_filter, mem_entries_iff, mem_entries_iff, get?_ofList, get?_ofList,
    ← List.filter_reverse, findEntry_filter_ne]
  split
  next h => simp [h]
  next h => simp [h]

end StringMap

end ClusterView

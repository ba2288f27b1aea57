import ClusterView.Files.Path

/-!
# Parts of paths

A path is its parts with slashes between them (`intercalate_splitAll`), so what is made of some of
its names is no longer than the path and can be a path if the path can be one
(`isPathText_of_sublist`).
-/

namespace ClusterView

namespace Text

theorem pieces_ne_nil (c : Char) (s : List Char) : pieces c s ≠ [] := by
  cases s with
  | nil => simp [pieces]
  | cons x rest =>
    rw [pieces]
    split
    · simp
    · split <;> simp

theorem intercalate_pieces (c : Char) (s : List Char) : [c].intercalate (pieces c s) = s := by
  induction s with
  | nil => rfl
  | cons x rest ih =>
    rw [pieces]
    obtain ⟨p, ps, hrest⟩ := List.exists_cons_of_ne_nil (pieces_ne_nil c rest)
    rw [hrest] at ih ⊢
    split
    next hx =>
      rw [List.intercalate_cons_cons, ih, hx]
      rfl
    next => rw [List.intercalate_cons_cons_left, ih]

/-- A text is its parts with the character between them. -/
theorem intercalate_splitAll (c : Char) (s : String) :
    (String.singleton c).intercalate (splitAll c s) = s := by
  apply String.toList_inj.1
  rw [String.toList_intercalate, splitAll, List.map_map]
  simp [Function.comp_def, intercalate_pieces]

end Text

/-! ## Joined names -/

theorem size_intercalate_le {parts names : List String} (h : names.Sublist parts) :
    (String.intercalate "/" names).utf8ByteSize ≤ (String.intercalate "/" parts).utf8ByteSize := by
  induction h with
  | slnil => exact Nat.le_refl _
  | @cons names parts part h ih =>
    cases parts with
    | nil =>
      rw [List.sublist_nil.1 h]
      exact Nat.zero_le _
    | cons other parts =>
      rw [String.intercalate_cons_cons, String.utf8ByteSize_append, String.utf8ByteSize_append]
      omega
  | @cons_cons names parts part h ih =>
    cases names with
    | nil =>
      rw [String.intercalate_singleton]
      cases parts with
      | nil => exact Nat.le_refl _
      | cons other parts =>
        rw [String.intercalate_cons_cons, String.utf8ByteSize_append, String.utf8ByteSize_append]
        omega
    | cons name names =>
      obtain ⟨other, more, rfl⟩ := List.exists_cons_of_ne_nil
        (List.ne_nil_of_mem (h.subset List.mem_cons_self))
      simp only [String.intercalate_cons_cons, String.utf8ByteSize_append]
      omega

theorem mem_intercalate_iff {names : List String} {c : Char} (hc : c ≠ '/') :
    c ∈ (String.intercalate "/" names).toList ↔ ∃ name ∈ names, c ∈ name.toList := by
  induction names with
  | nil => simp
  | cons name rest ih =>
    cases rest with
    | nil => simp
    | cons other rest =>
      rw [String.intercalate_cons_cons, String.toList_append, String.toList_append,
        List.mem_append, List.mem_append, ih]
      simp [hc]

/-- Some of the names of a path that can be one can be a path. -/
theorem isPathText_of_sublist {path : String} {names : List String} (h : isPathText path = true)
    (hnames : names.Sublist (Text.splitAll '/' path)) :
    isPathText (String.intercalate "/" names) = true := by
  have hpath : String.intercalate "/" (Text.splitAll '/' path) = path :=
    Text.intercalate_splitAll '/' path
  have hsize := size_intercalate_le hnames
  rw [hpath] at hsize
  simp only [isPathText, Bool.and_eq_true, Bool.not_eq_true', List.contains_eq_mem,
    decide_eq_false_iff_not, decide_eq_true_eq] at h ⊢
  refine ⟨fun hnull => h.1 ?_, by omega⟩
  obtain ⟨name, hname, hmem⟩ := (mem_intercalate_iff (by decide)).1 hnull
  rw [← hpath]
  exact (mem_intercalate_iff (by decide)).2 ⟨name, hnames.subset hname, hmem⟩

theorem FilePath.names_sublist {path : String} {p : FilePath} (h : ofText? path = some p) :
    p.names.Sublist (Text.splitAll '/' path) := by
  unfold ofText? at h
  split at h
  · cases h
  · cases h
    exact List.filter_sublist

end ClusterView

import ClusterView.Proofs.Layout.Widths

/-!
# The fewest sections

Items can be cut into consecutive groups of at most the width of the page in many ways
(`Layout.Cut`). A greedy packing never has more sections than such a cut has groups
(`Packing.length_le`): where its first section ends, no first group of a cut can have gone further.
-/

namespace ClusterView

namespace Layout

variable {α : Type}

/-- Items cut into consecutive groups of at most the width of the page. -/
structure Cut (items : List (Item α)) (groups : List (List (Item α))) : Prop where
  flatten_eq : groups.flatten = items
  used_le : ∀ g ∈ groups, usedBy g ≤ Width.page

/-- The sections of a packing are a cut. -/
theorem Packing.cut {items : List (Item α)} {sections : List (Section α)}
    (h : Packing items sections) : Cut items (sections.map (·.items)) where
  flatten_eq := by rw [← List.flatMap_def, h.flatMap_eq]
  used_le := by simpa [Section.used] using h.used_le

theorem usedBy_le_of_suffix {items more : List (Item α)} (h : items <:+ more) :
    usedBy items ≤ usedBy more := by
  obtain ⟨front, rfl⟩ := h
  rw [usedBy_append]
  exact Nat.le_add_left _ _

/-- What is left of items that end with a group and more, after a section that the next item does
not go into, ends within what is left after the group. -/
theorem suffix_of_full {s : Section α} {rest group more : List (Item α)}
    (h : s.items ++ rest <:+ group ++ more) (hgroup : usedBy group ≤ Width.page)
    (hfull : ∀ item ∈ rest.head?, Width.page < s.used + item.width.value) : rest <:+ more := by
  have hrest : rest <:+ group ++ more := (List.suffix_append s.items rest).trans h
  rcases List.suffix_or_suffix_of_suffix hrest (List.suffix_append group more) with hle | ⟨x, rfl⟩
  · exact hle
  cases x with
  | nil => exact List.suffix_rfl
  | cons item x =>
    -- The group would hold the section and the item that does not go into it.
    have hheld : s.items ++ item :: x <:+ group := by
      rw [← List.append_assoc] at h
      exact ((List.suffix_append_inj_of_length_eq rfl).1 h).1
    have hwide := usedBy_le_of_suffix hheld
    have hnext := hfull item rfl
    rw [usedBy_append, usedBy_cons] at hwide
    rw [Section.used] at hnext
    omega

/-- Sections of the last items have no more of them than there are groups of all items, if the first
item of each does not go into the one above. -/
theorem section_length_le {sections : List (Section α)} {groups : List (List (Item α))}
    (hsections : sections.flatMap (·.items) <:+ groups.flatten)
    (hne : ∀ s ∈ sections, s.items ≠ [])
    (hfull : sections.IsChain fun s t =>
      ∀ item ∈ t.items.head?, Width.page < s.used + item.width.value)
    (hgroups : ∀ g ∈ groups, usedBy g ≤ Width.page) : sections.length ≤ groups.length := by
  induction groups generalizing sections with
  | nil =>
    cases sections with
    | nil => exact Nat.le_refl _
    | cons s rest =>
      rw [List.flatten_nil, List.suffix_nil, List.flatMap_cons, List.append_eq_nil_iff] at hsections
      exact absurd hsections.1 (hne s List.mem_cons_self)
  | cons g groups ih =>
    cases sections with
    | nil => exact Nat.zero_le _
    | cons s rest =>
      rw [List.forall_mem_cons] at hne hgroups
      rw [List.flatMap_cons, List.flatten_cons] at hsections
      have hrest := suffix_of_full hsections hgroups.1 (full_below hne.2 hfull)
      exact Nat.succ_le_succ (ih hrest hne.2 hfull.tail hgroups.2)

/-- **No cut of the items has fewer groups than their packing has sections.** -/
theorem Packing.length_le {items : List (Item α)} {sections : List (Section α)}
    {groups : List (List (Item α))} (h : Packing items sections) (hcut : Cut items groups) :
    sections.length ≤ groups.length := by
  have hsame := h.flatMap_eq.trans hcut.flatten_eq.symm
  exact section_length_le (hsame ▸ List.suffix_rfl) h.ne_nil h.full hcut.used_le

/-- **Packing cuts the items, in their order, into as few sections as there can be**, below those
that are there; widths summed in bytes do the same. -/
theorem pack_fewest (l : Layout α) (items : List (Item α)) :
    ∃ added, l.pack items = { l with sections := l.sections ++ added } ∧
      l.packInBytes? items = some (l.pack items) ∧ Packing items added ∧
      Cut items (added.map (·.items)) ∧ ∀ groups, Cut items groups → added.length ≤ groups.length :=
  have hpacking := packing_packed items
  ⟨_, rfl, packInBytes?_eq l items, hpacking, hpacking.cut, fun _ => hpacking.length_le⟩

end Layout

end ClusterView

import ClusterView.View.Layout
import Mathlib.Data.List.Chain

/-!
# Greedy packing

A packing puts items into sections in their order and opens a section only where the next item does
not go into the one before (`Layout.Packing`). Items have exactly one packing, the one that
`Layout.packed` makes: `packing_packed` says that it is one, and `Packing.eq_packed` that there is
no other.
-/

namespace ClusterView

namespace Layout

variable {α : Type}

/-- Items in sections of at most the width of the page, each section as full as the items let it
be. -/
structure Packing (items : List (Item α)) (sections : List (Section α)) : Prop where
  /-- The sections hold the items in their order. -/
  flatMap_eq : sections.flatMap (·.items) = items
  ne_nil : ∀ s ∈ sections, s.items ≠ []
  used_le : ∀ s ∈ sections, s.used ≤ Width.page
  /-- The first item of a section does not go into the section above. -/
  full : sections.IsChain fun s t => ∀ item ∈ t.items.head?, Width.page < s.used + item.width.value

/-! ## Sections -/

theorem Section.hasRoom_iff {s : Section α} {w : Width} :
    s.hasRoom w = true ↔ s.used + w.value ≤ Width.page := by
  simp [Section.hasRoom]

theorem Section.isEmpty_eq_false_iff {s : Section α} : s.isEmpty = false ↔ s.items ≠ [] := by
  simp [Section.isEmpty]

/-! ## Steps of packing -/

theorem packed_empty_nil : packed (Section.empty : Section α) [] = [] := rfl

theorem packed_cons_of_room {current : Section α} {item : Item α} {rest : List (Item α)}
    (h : current.used + item.width.value ≤ Width.page) :
    packed current (item :: rest) = packed (current.push item) rest := by
  rw [packed, if_pos (Section.hasRoom_iff.2 h)]

theorem packed_cons_of_full {current : Section α} {item : Item α} {rest : List (Item α)}
    (h : Width.page < current.used + item.width.value) :
    packed current (item :: rest) = current :: packed (Section.empty.push item) rest := by
  rw [packed, if_neg (by rw [Section.hasRoom_iff]; omega)]

theorem packed_empty_cons (item : Item α) (rest : List (Item α)) :
    packed Section.empty (item :: rest) = packed (Section.empty.push item) rest := by
  have h := item.width.value_le_page
  exact packed_cons_of_room (by rw [Section.used_empty]; omega)

/-- Items that all go into the current section are added to it. -/
theorem packed_append (current : Section α) (items rest : List (Item α))
    (h : current.used + usedBy items ≤ Width.page) :
    packed current (items ++ rest) = packed ⟨current.items ++ items⟩ rest := by
  induction items generalizing current with
  | nil => simp
  | cons item items ih =>
    rw [usedBy_cons] at h
    rw [List.cons_append, packed_cons_of_room (by omega), ih (current.push item)]
    · simp [Section.push]
    · rw [Section.used_push]
      omega

/-- The current section is closed where the next item does not go into it. -/
theorem packed_of_full {current : Section α} {rest : List (Item α)} (hne : current.items ≠ [])
    (h : ∀ item ∈ rest.head?, Width.page < current.used + item.width.value) :
    packed current rest = current :: packed Section.empty rest := by
  cases rest with
  | nil =>
    have hcur := Section.isEmpty_eq_false_iff.2 hne
    have hemp : (Section.empty : Section α).isEmpty = true := rfl
    simp [packed, hcur, hemp]
  | cons item rest => rw [packed_cons_of_full (h item rfl), packed_empty_cons]

/-! ## The packing that is made -/

theorem head?_flatMap_items {s : Section α} {rest : List (Section α)} (h : s.items ≠ []) :
    ((s :: rest).flatMap (·.items)).head? = s.items.head? := by
  rw [List.flatMap_cons, List.head?_append_of_ne_nil _ h]

/-- In a packing, the first item below a section does not go into it. -/
theorem full_below {s : Section α} {rest : List (Section α)} (hne : ∀ t ∈ rest, t.items ≠ [])
    (hfull : (s :: rest).IsChain fun s t =>
      ∀ item ∈ t.items.head?, Width.page < s.used + item.width.value) :
    ∀ item ∈ (rest.flatMap (·.items)).head?, Width.page < s.used + item.width.value := by
  cases rest with
  | nil => simp
  | cons t rest =>
    rw [head?_flatMap_items (hne t List.mem_cons_self)]
    exact (List.isChain_cons_cons.1 hfull).1

theorem packing_nil : Packing ([] : List (Item α)) [] :=
  ⟨rfl, by simp, by simp, List.isChain_nil⟩

/-- A section goes above a packing if the first item below does not go into it. -/
theorem Packing.cons {s : Section α} {items : List (Item α)} {sections : List (Section α)}
    (h : Packing items sections) (hne : s.items ≠ []) (hle : s.used ≤ Width.page)
    (hnext : ∀ item ∈ items.head?, Width.page < s.used + item.width.value) :
    Packing (s.items ++ items) (s :: sections) := by
  refine ⟨?_, List.forall_mem_cons.2 ⟨hne, h.ne_nil⟩, List.forall_mem_cons.2 ⟨hle, h.used_le⟩,
    List.isChain_cons.2 ⟨fun t ht item hitem => hnext item ?_, h.full⟩⟩
  · rw [List.flatMap_cons, h.flatMap_eq]
  · cases sections with
    | nil => simp at ht
    | cons t' rest =>
      obtain rfl : t' = t := by simpa using ht
      rwa [← h.flatMap_eq, head?_flatMap_items (h.ne_nil t' List.mem_cons_self)]

theorem packing_packed_of_ne_nil (current : Section α) (items : List (Item α))
    (hne : current.items ≠ []) (hle : current.used ≤ Width.page) :
    Packing (current.items ++ items) (packed current items) := by
  induction items generalizing current with
  | nil =>
    rw [packed_of_full hne (by simp), packed_empty_nil]
    exact packing_nil.cons hne hle (by simp)
  | cons item items ih =>
    by_cases h : current.used + item.width.value ≤ Width.page
    · have hpush := ih (current.push item) (by simp [Section.push]) (by rwa [Section.used_push])
      rw [packed_cons_of_room h]
      simpa [Section.push] using hpush
    · have hitem := item.width.value_le_page
      have hnew := ih (Section.empty.push item) (by simp [Section.push])
        (by rw [Section.used_push, Section.used_empty]; omega)
      rw [packed_cons_of_full (by omega)]
      refine Packing.cons (by simpa [Section.push, Section.empty] using hnew) hne hle ?_
      simpa using Nat.lt_of_not_le h

/-- **Packing puts items into sections greedily.** -/
theorem packing_packed (items : List (Item α)) : Packing items (packed Section.empty items) := by
  cases items with
  | nil => exact packing_nil
  | cons item items =>
    have hitem := item.width.value_le_page
    rw [packed_empty_cons]
    simpa [Section.push, Section.empty] using
      packing_packed_of_ne_nil (Section.empty.push item) items (by simp [Section.push])
        (by rw [Section.used_push, Section.used_empty]; omega)

/-! ## No other packing -/

theorem packed_flatMap (sections : List (Section α)) (hne : ∀ s ∈ sections, s.items ≠ [])
    (hle : ∀ s ∈ sections, s.used ≤ Width.page)
    (hfull : sections.IsChain fun s t =>
      ∀ item ∈ t.items.head?, Width.page < s.used + item.width.value) :
    packed Section.empty (sections.flatMap (·.items)) = sections := by
  induction sections with
  | nil => rfl
  | cons s rest ih =>
    rw [List.forall_mem_cons] at hne hle
    have hroom : (Section.empty : Section α).used + usedBy s.items ≤ Width.page := by
      rw [Section.used_empty, Nat.zero_add]
      exact hle.1
    rw [List.flatMap_cons, packed_append _ _ _ hroom]
    change packed s (rest.flatMap (·.items)) = s :: rest
    rw [packed_of_full hne.1 (full_below hne.2 hfull), ih hne.2 hle.2 hfull.tail]

/-- **Items have no packing but the one that is made.** -/
theorem Packing.eq_packed {items : List (Item α)} {sections : List (Section α)}
    (h : Packing items sections) : packed Section.empty items = sections := by
  rw [← h.flatMap_eq]
  exact packed_flatMap sections h.ne_nil h.used_le h.full

/-! ## Items of half and of full width -/

/-- Members two by two; the last one may be alone. -/
def pairs {β : Type} : List β → List (List β)
  | [] => []
  | [a] => [[a]]
  | a :: b :: rest => [a, b] :: pairs rest

/-- Items of half the width are packed two by two. -/
theorem packing_pairs (items : List (Item α)) (h : ∀ item ∈ items, item.width = .half) :
    Packing items ((pairs items).map Section.mk) := by
  fun_induction pairs items with
  | case1 => exact packing_nil
  | case2 a =>
    refine packing_nil.cons (s := ⟨[a]⟩) (by simp) ?_ (by simp)
    simp [Section.used, h a, Width.value, Width.page]
  | case3 a b rest ih =>
    have hused : (⟨[a, b]⟩ : Section α).used = Width.page := by
      simp [Section.used, h a, h b, Width.value, Width.page]
    refine (ih fun item hitem => h item (by simp [hitem])).cons (s := ⟨[a, b]⟩) (by simp)
      hused.le fun item _ => ?_
    have hpos := item.width.value_pos
    omega

/-- An item over the full width has a section for itself. -/
theorem Packing.cons_full {item : Item α} {items : List (Item α)} {sections : List (Section α)}
    (h : Packing items sections) (hitem : item.width = .full) :
    Packing (item :: items) (⟨[item]⟩ :: sections) := by
  have hused : (⟨[item]⟩ : Section α).used = Width.page := by
    simp [Section.used, hitem, Width.value, Width.page]
  refine h.cons (s := ⟨[item]⟩) (by simp) hused.le fun next _ => ?_
  have hpos := next.width.value_pos
  omega

theorem packed_cons_full {item : Item α} (hitem : item.width = .full) (rest : List (Item α)) :
    packed Section.empty (item :: rest) = ⟨[item]⟩ :: packed Section.empty rest :=
  ((packing_packed rest).cons_full hitem).eq_packed

/-- The items before one over the full width and those after it are packed apart. -/
theorem packed_append_full {current : Section α} {before : List (Item α)} {item : Item α}
    (hitem : item.width = .full) (rest : List (Item α)) :
    packed current (before ++ item :: rest) =
      packed current before ++ ⟨[item]⟩ :: packed Section.empty rest := by
  induction before generalizing current with
  | nil =>
    obtain ⟨items⟩ := current
    cases items with
    | nil => exact packed_cons_full hitem rest
    | cons first more =>
      have hpos := first.width.value_pos
      have hfull : Width.page < usedBy (first :: more) + item.width.value := by
        rw [usedBy_cons, hitem]
        exact Nat.lt_add_left_iff_pos.2 (by omega)
      rw [List.nil_append, packed_cons_of_full hfull, ← packed_empty_cons,
        packed_cons_full hitem]
      rfl
  | cons head before ih =>
    by_cases hroom : current.used + head.width.value ≤ Width.page
    · rw [List.cons_append, packed_cons_of_room hroom, packed_cons_of_room hroom, ih]
    · rw [List.cons_append, packed_cons_of_full (by omega), packed_cons_of_full (by omega), ih]
      rfl

end Layout

end ClusterView

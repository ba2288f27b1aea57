import ClusterView.Proofs.Layout.Packing

/-!
# Widths in bytes

A section can be filled with its widths summed in bytes instead of exactly. The sum of a section
that was filled so is at most the width of the page, so it never leaves a byte, and items are placed
(`placeAllInBytes?_eq`) and packed (`packedInBytes?_eq`) as by exact sums.
-/

namespace ClusterView

namespace Layout

variable {α : Type}

/-! ## Sums of bytes -/

/-- The sum of two bytes, if it is a byte. -/
def addBytes? (a b : UInt8) : Option UInt8 := if a.toNat + b.toNat < 256 then some (a + b) else none

/-- The sum of two bytes, the largest byte where it is none. -/
def addSaturating (a b : UInt8) : UInt8 := (addBytes? a b).getD 255

/-- A width as a byte. -/
def widthByte (w : Width) : UInt8 := .ofNat w.value

/-- The widths of some items, added one by one to a sum; `none` where the sum leaves a byte. -/
def sumInBytes? (sum : UInt8) : List (Item α) → Option UInt8
  | [] => some sum
  | item :: rest => (addBytes? sum (widthByte item.width)).bind fun sum => sumInBytes? sum rest

theorem toNat_widthByte (w : Width) : (widthByte w).toNat = w.value := by cases w <;> rfl

theorem addBytes?_eq_some {a b : UInt8} (h : a.toNat + b.toNat < 256) :
    ∃ c, addBytes? a b = some c ∧ c.toNat = a.toNat + b.toNat := by
  refine ⟨a + b, if_pos h, ?_⟩
  rw [UInt8.toNat_add, Nat.mod_eq_of_lt h]

/-- A sum that stays below 256 is exact in bytes. -/
theorem sumInBytes?_eq_some {sum : UInt8} {items : List (Item α)}
    (h : sum.toNat + usedBy items < 256) :
    ∃ total, sumInBytes? sum items = some total ∧ total.toNat = sum.toNat + usedBy items := by
  induction items generalizing sum with
  | nil => exact ⟨sum, rfl, rfl⟩
  | cons item rest ih =>
    rw [usedBy_cons] at h
    obtain ⟨next, hnext, hsum⟩ := addBytes?_eq_some (a := sum) (b := widthByte item.width)
      (by rw [toNat_widthByte]; omega)
    rw [toNat_widthByte] at hsum
    obtain ⟨total, htotal, hrest⟩ := @ih next (by omega)
    refine ⟨total, ?_, by rw [hrest, hsum, usedBy_cons]; omega⟩
    rw [sumInBytes?, hnext]
    exact htotal

/-- A width is added to the width in use without leaving a byte, or it does not go in. -/
theorem addSaturating_le_iff {used : UInt8} {n : Nat} (h : used.toNat = n) (w : Width) :
    addSaturating used (widthByte w) ≤ 24 ↔ n + w.value ≤ Width.page := by
  have hw := toNat_widthByte w
  rw [UInt8.le_iff_toNat_le]
  by_cases hlt : used.toNat + (widthByte w).toNat < 256
  · obtain ⟨c, hc, hsum⟩ := addBytes?_eq_some hlt
    simp only [addSaturating, hc, Option.getD_some, hsum, h, hw]
    rfl
  · have hnone : addBytes? used (widthByte w) = none := if_neg hlt
    simp only [addSaturating, hnone, Option.getD_none, Width.page]
    rw [h, hw] at hlt
    constructor
    · intro hle
      exact absurd hle (by decide)
    · intro hle
      omega

/-! ## Sections filled in bytes -/

namespace Section

/-- The width in use, summed in bytes. -/
def usedInBytes? (s : Section α) : Option UInt8 := sumInBytes? 0 s.items

/-- Adds an item at the end if it goes in by a sum in bytes; `none` where the sum overflows. -/
def placeInBytes? (s : Section α) (item : Item α) : Option (Except ViewError (Section α)) :=
  s.usedInBytes?.map fun used =>
    if addSaturating used (widthByte item.width) ≤ 24 then .ok (s.push item)
    else .error (.sectionFull (widthByte item.width).toNat used.toNat)

/-- Adds items one by one, up to the first that is refused. -/
def placeAllInBytes? (s : Section α) : List (Item α) → Option (Except ViewError (Section α))
  | [] => some (.ok s)
  | item :: rest =>
    (s.placeInBytes? item).bind fun
      | .ok t => t.placeAllInBytes? rest
      | .error e => some (.error e)

theorem usedInBytes?_eq_some {s : Section α} (h : s.used ≤ Width.page) :
    ∃ used, s.usedInBytes? = some used ∧ used.toNat = s.used := by
  have hzero : (0 : UInt8).toNat = 0 := rfl
  have hlt : (0 : UInt8).toNat + usedBy s.items < 256 := by
    rw [hzero, Nat.zero_add]
    exact Nat.lt_of_le_of_lt h (by decide)
  obtain ⟨used, hused, hsum⟩ := sumInBytes?_eq_some hlt
  exact ⟨used, hused, by rw [hsum, hzero, Nat.zero_add]; rfl⟩

/-- Whether an item goes into a section within the page can be told in bytes. -/
theorem placeInBytes?_eq {s : Section α} (h : s.used ≤ Width.page) (item : Item α) :
    s.placeInBytes? item = some (s.place item) := by
  obtain ⟨used, hused, hsum⟩ := usedInBytes?_eq_some h
  simp only [placeInBytes?, hused, Option.map_some, place, hasRoom, decide_eq_true_eq,
    addSaturating_le_iff hsum, toNat_widthByte, hsum]

/-- A section stays within the page when an item is placed. -/
theorem used_le_of_place {s t : Section α} {item : Item α} (h : s.place item = .ok t) :
    t.used ≤ Width.page := by
  obtain ⟨hroom, rfl⟩ := place_eq_ok_iff.1 h
  rwa [used_push]

/-- A section within the page stays there while items are placed. -/
theorem used_le_of_placeAll {s t : Section α} {items : List (Item α)} (hs : s.used ≤ Width.page)
    (h : items.foldlM place s = .ok t) : t.used ≤ Width.page := by
  induction items generalizing s with
  | nil => cases h; exact hs
  | cons item rest ih =>
    rw [List.foldlM_cons] at h
    cases hplace : s.place item with
    | error e =>
      rw [hplace] at h
      cases h
    | ok next =>
      rw [hplace] at h
      exact ih (used_le_of_place hplace) h

/-- **Items are placed in bytes as by exact sums.** -/
theorem placeAllInBytes?_eq {s : Section α} (h : s.used ≤ Width.page) (items : List (Item α)) :
    s.placeAllInBytes? items = some (items.foldlM place s) := by
  induction items generalizing s with
  | nil => rfl
  | cons item rest ih =>
    rw [placeAllInBytes?, placeInBytes?_eq h, Option.bind_some, List.foldlM_cons]
    cases hplace : s.place item with
    | error e => rfl
    | ok t => exact ih (used_le_of_place hplace)

end Section

/-! ## Packing in bytes -/

/-- Packs items as `packed` does, with widths summed in bytes; `none` where a sum overflows. -/
def packedInBytes? (current : Section α) : List (Item α) → Option (List (Section α))
  | [] => some (if current.isEmpty then [] else [current])
  | item :: rest =>
    current.usedInBytes?.bind fun used =>
      if addSaturating used (widthByte item.width) ≤ 24 then
        packedInBytes? (current.push item) rest
      else (packedInBytes? (Section.empty.push item) rest).map (current :: ·)

/-- **Items are packed in bytes as by exact sums.** -/
theorem packedInBytes?_eq {current : Section α} (h : current.used ≤ Width.page)
    (items : List (Item α)) : packedInBytes? current items = some (packed current items) := by
  induction items generalizing current with
  | nil => rfl
  | cons item rest ih =>
    obtain ⟨used, hused, hsum⟩ := Section.usedInBytes?_eq_some h
    rw [packedInBytes?, hused, Option.bind_some]
    by_cases hroom : current.used + item.width.value ≤ Width.page
    · rw [if_pos ((addSaturating_le_iff hsum _).2 hroom), packed_cons_of_room hroom]
      exact ih (by rwa [Section.used_push])
    · have hitem := item.width.value_le_page
      rw [if_neg (mt (addSaturating_le_iff hsum _).1 hroom), packed_cons_of_full (by omega),
        ih (by rw [Section.used_push, Section.used_empty]; omega)]
      rfl

/-- Adds the items in new sections, with widths summed in bytes; `none` where a sum overflows. -/
def packInBytes? (l : Layout α) (items : List (Item α)) : Option (Layout α) :=
  (packedInBytes? Section.empty items).map fun sections =>
    { l with sections := l.sections ++ sections }

theorem packInBytes?_eq (l : Layout α) (items : List (Item α)) :
    l.packInBytes? items = some (l.pack items) := by
  rw [packInBytes?, packedInBytes?_eq (Nat.zero_le _)]
  rfl

end Layout

end ClusterView

import ClusterView.Proofs.Layout.Widths
import ClusterView.Proofs.Outcome

/-!
# Edits of a layout

A layout is made by opening sections, placing items in the last one, packing items into new ones and
compacting, in any order and any number of times. However it was made, its sections are within the
page (`WithinPage.afterAll`), so widths are summed in bytes without a sum that leaves a byte
(`afterAllInBytes?_eq`), and what was placed stays before what is placed later
(`items_prefix_items_afterAll`). `afterAll_isReliable` says what the next edit does.
-/

namespace ClusterView

namespace Layout

variable {α : Type}

/-! ## Edits -/

/-- What is done to a layout in one step. -/
inductive Edit (α : Type) where
  | openSection
  /-- Adds an item to the last section. -/
  | place (item : Item α)
  /-- Adds items in new sections. -/
  | pack (items : List (Item α))
  | compact

/-- Makes an edit. An item that does not go in is refused. -/
def edit (l : Layout α) : Edit α → Except ViewError (Layout α)
  | .openSection => .ok l.openSection
  | .place item => l.place item
  | .pack items => .ok (l.pack items)
  | .compact => .ok l.compact

/-- The layout after an edit, which leaves it as it is where it is refused. -/
def after (l : Layout α) (e : Edit α) : Layout α :=
  match l.edit e with
  | .ok edited => edited
  | .error _ => l

/-- The layout after some edits. -/
def afterAll (l : Layout α) (es : List (Edit α)) : Layout α := es.foldl after l

theorem afterAll_append (l : Layout α) (es more : List (Edit α)) :
    l.afterAll (es ++ more) = (l.afterAll es).afterAll more :=
  List.foldl_append

theorem after_eq_of_error {l : Layout α} {e : Edit α} {err : ViewError}
    (h : l.edit e = .error err) : l.after e = l := by
  rw [after, h]

/-- What every edit keeps that is made is kept after an edit. -/
theorem after_induction {P : Layout α → Prop} {l : Layout α} {e : Edit α} (hl : P l)
    (h : ∀ t, l.edit e = .ok t → P t) : P (l.after e) := by
  cases hedit : l.edit e with
  | error err => rwa [after_eq_of_error hedit]
  | ok t =>
    have hafter : l.after e = t := by rw [after, hedit]
    rw [hafter]
    exact h t hedit

/-! ## Placing in the last section -/

/-- Placing an item changes the last section only. -/
theorem place_eq_of_concat {l : Layout α} {above : List (Section α)} {last : Section α}
    (h : l.sections = above ++ [last]) (item : Item α) :
    l.place item = (last.place item).map fun s => { l with sections := above ++ [s] } := by
  simp only [place, h, List.getLast?_concat, List.dropLast_concat]

/-- An item that is placed is the last one of the last section. A layout without sections has got
that section for it. -/
theorem exists_place_eq_ok {l t : Layout α} {item : Item α} (h : l.place item = .ok t) :
    ∃ above last, (l.sections = above ++ [last] ∨ l.sections = [] ∧ above = [] ∧ last = .empty) ∧
      last.used + item.width.value ≤ Width.page ∧
      t = { l with sections := above ++ [last.push item] } := by
  rcases List.eq_nil_or_concat' l.sections with hnil | ⟨above, last, hlast⟩
  · simp only [place, hnil, List.getLast?_nil] at h
    obtain ⟨s, hs, rfl⟩ := Outcome.map_eq_ok_iff.1 h
    obtain ⟨hroom, rfl⟩ := Section.place_eq_ok_iff.1 hs
    exact ⟨[], .empty, .inr ⟨hnil, rfl, rfl⟩, hroom, by rw [addSection, hnil]⟩
  · rw [place_eq_of_concat hlast] at h
    obtain ⟨s, hs, rfl⟩ := Outcome.map_eq_ok_iff.1 h
    obtain ⟨hroom, rfl⟩ := Section.place_eq_ok_iff.1 hs
    exact ⟨above, last, .inl hlast, hroom, rfl⟩

/-! ## Items -/

/-- The items of a layout, from the first section to the last. -/
def items (l : Layout α) : List (Item α) := l.sections.flatMap (·.items)

/-- The items that an edit adds. -/
def Edit.items : Edit α → List (Item α)
  | .place item => [item]
  | .pack items => items
  | .openSection | .compact => []

/-- Sections without items can be left out. -/
theorem flatMap_items_filter (sections : List (Section α)) :
    (sections.filter fun s => !s.isEmpty).flatMap (·.items) = sections.flatMap (·.items) :=
  calc (sections.filter fun s => !s.isEmpty).flatMap (·.items)
      = ((sections.map (·.items)).filter fun items => !items.isEmpty).flatten := by
        rw [List.filter_map, List.flatMap_def]
        rfl
    _ = sections.flatMap (·.items) := by
        rw [List.flatten_filter_not_isEmpty, List.flatMap_def]

/-- Every edit keeps the items and their order, and adds its own at the end. -/
theorem items_edit {l t : Layout α} {e : Edit α} (h : l.edit e = .ok t) :
    t.items = l.items ++ e.items := by
  cases e with
  | openSection =>
    cases h
    simp [items, openSection, Section.empty, Edit.items]
  | place item =>
    obtain ⟨above, last, hlast, -, rfl⟩ := exists_place_eq_ok h
    rcases hlast with hlast | ⟨hnil, rfl, rfl⟩
    · simp [items, hlast, Section.push, Edit.items]
    · simp [items, hnil, Section.push, Section.empty, Edit.items]
  | pack items =>
    cases h
    simp [Layout.items, pack, flatten_packed, Section.empty, Edit.items]
  | compact =>
    cases h
    simp only [items, compact, flatMap_items_filter, Edit.items, List.append_nil]

/-- What was placed stays, in its order, before what is placed later. -/
theorem items_prefix_items_afterAll (l : Layout α) (es : List (Edit α)) :
    l.items <+: (l.afterAll es).items := by
  induction es generalizing l with
  | nil => exact List.prefix_rfl
  | cons e es ih =>
    have hstep : l.items <+: (l.after e).items :=
      after_induction (P := fun t => l.items <+: t.items) List.prefix_rfl fun t h => by
        rw [items_edit h]
        exact List.prefix_append _ _
    exact hstep.trans (ih (l.after e))

/-! ## Widths -/

/-- No section is wider than the page. -/
def WithinPage (l : Layout α) : Prop := ∀ s ∈ l.sections, s.used ≤ Width.page

theorem withinPage_empty (title : String) : (empty title : Layout α).WithinPage := by
  intro s hs
  cases hs

/-- Every edit keeps the sections within the page. -/
theorem WithinPage.of_edit {l t : Layout α} {e : Edit α} (hl : l.WithinPage)
    (h : l.edit e = .ok t) : t.WithinPage := by
  cases e with
  | openSection =>
    cases h
    intro s hs
    rcases List.mem_append.1 hs with hs | hs
    · exact hl s hs
    · obtain rfl := List.mem_singleton.1 hs
      exact Nat.zero_le _
  | place item =>
    obtain ⟨above, last, hlast, hroom, rfl⟩ := exists_place_eq_ok h
    intro s hs
    rcases List.mem_append.1 hs with hs | hs
    · rcases hlast with hlast | ⟨-, rfl, -⟩
      · exact hl s (by rw [hlast]; exact List.mem_append_left _ hs)
      · cases hs
    · obtain rfl := List.mem_singleton.1 hs
      rwa [Section.used_push]
  | pack items =>
    cases h
    intro s hs
    rcases List.mem_append.1 hs with hs | hs
    · exact hl s hs
    · exact (packing_packed items).used_le s hs
  | compact =>
    cases h
    intro s hs
    exact hl s (List.mem_filter.1 hs).1

/-- A layout within the page stays there whatever is done to it. -/
theorem WithinPage.afterAll {l : Layout α} (hl : l.WithinPage) (es : List (Edit α)) :
    (l.afterAll es).WithinPage := by
  induction es generalizing l with
  | nil => exact hl
  | cons e es ih => exact ih (after_induction hl fun t h => hl.of_edit h)

/-! ## Edits in bytes -/

/-- Adds an item at the end of the last section if it goes in by a sum in bytes; `none` where the
sum overflows. -/
def placeInBytes? (l : Layout α) (item : Item α) : Option (Except ViewError (Layout α)) :=
  match l.sections.getLast? with
  | none => (Section.empty.placeInBytes? item).map fun placed => placed.map l.addSection
  | some last =>
    (last.placeInBytes? item).map fun placed =>
      placed.map fun s => { l with sections := l.sections.dropLast ++ [s] }

/-- Makes an edit with widths summed in bytes; `none` where a sum overflows. -/
def editInBytes? (l : Layout α) : Edit α → Option (Except ViewError (Layout α))
  | .openSection => some (.ok l.openSection)
  | .place item => l.placeInBytes? item
  | .pack items => (l.packInBytes? items).map .ok
  | .compact => some (.ok l.compact)

/-- The layout after some edits with widths summed in bytes; `none` where a sum overflows. -/
def afterAllInBytes? (l : Layout α) : List (Edit α) → Option (Layout α)
  | [] => some l
  | e :: es =>
    (l.editInBytes? e).bind fun
      | .ok edited => edited.afterAllInBytes? es
      | .error _ => l.afterAllInBytes? es

theorem placeInBytes?_eq {l : Layout α} (hl : l.WithinPage) (item : Item α) :
    l.placeInBytes? item = some (l.place item) := by
  unfold placeInBytes? place
  cases hlast : l.sections.getLast? with
  | none =>
    have hempty : (Section.empty : Section α).used ≤ Width.page := Nat.zero_le _
    simp only [Section.placeInBytes?_eq hempty, Option.map_some]
  | some last =>
    have hused : last.used ≤ Width.page := hl last (List.mem_of_getLast? hlast)
    simp only [Section.placeInBytes?_eq hused, Option.map_some]

/-- **An edit of a layout within the page is made in bytes as by exact sums.** -/
theorem editInBytes?_eq {l : Layout α} (hl : l.WithinPage) (e : Edit α) :
    l.editInBytes? e = some (l.edit e) := by
  cases e with
  | openSection => rfl
  | place item => exact placeInBytes?_eq hl item
  | pack items => rw [editInBytes?, packInBytes?_eq, Option.map_some, edit]
  | compact => rfl

theorem afterAllInBytes?_eq {l : Layout α} (hl : l.WithinPage) (es : List (Edit α)) :
    l.afterAllInBytes? es = some (l.afterAll es) := by
  induction es generalizing l with
  | nil => rfl
  | cons e es ih =>
    -- The sum of the next edit is exact only because this one kept the sections within the page.
    have hnext : (l.after e).WithinPage := after_induction hl fun t h => hl.of_edit h
    have hrest := ih hnext
    rw [afterAllInBytes?, editInBytes?_eq hl, Option.bind_some]
    cases hedit : l.edit e with
    | error err =>
      rw [after, hedit] at hrest
      rw [afterAll, List.foldl_cons, after, hedit]
      exact hrest
    | ok t =>
      rw [after, hedit] at hrest
      rw [afterAll, List.foldl_cons, after, hedit]
      exact hrest

/-! ## What can be relied on -/

/-- A layout takes the next edit as its user expects. -/
structure IsReliable (l : Layout α) : Prop where
  /-- The widths of a section sum to at most the page, and in bytes to the same. -/
  used : ∀ s ∈ l.sections, s.used ≤ Width.page ∧
    ∃ sum, s.usedInBytes? = some sum ∧ sum.toNat = s.used
  /-- No sum of an edit leaves a byte. -/
  bytes : ∀ e, l.editInBytes? e = some (l.edit e)
  /-- A section is opened below the others, without items. -/
  opened : l.after .openSection = { l with sections := l.sections ++ [⟨[]⟩] }
  /-- An item is added to the last section exactly if it goes in. -/
  placed : ∀ above last item t, l.sections = above ++ [last] →
    (l.edit (.place item) = .ok t ↔
      last.used + item.width.value ≤ Width.page ∧
        t = { l with sections := above ++ [⟨last.items ++ [item]⟩] })
  /-- Else the width of the item and that in use are told, and nothing changes. -/
  refused : ∀ above last item, l.sections = above ++ [last] →
    Width.page < last.used + item.width.value →
    l.edit (.place item) = .error (.sectionFull item.width.value last.used) ∧
      l.after (.place item) = l
  /-- Packing leaves the sections alone and adds the items in new ones. -/
  packed : ∀ items, ∃ added, l.after (.pack items) = { l with sections := l.sections ++ added } ∧
    added.flatMap (·.items) = items
  /-- Compacting leaves out the sections without items and no others. -/
  compacted : l.after .compact = { l with sections := l.sections.filter (·.items ≠ []) } ∧
    (l.after .compact).items = l.items
  /-- Compacting once is enough. -/
  compactedOnce : (l.after .compact).after .compact = l.after .compact

theorem WithinPage.isReliable {l : Layout α} (hl : l.WithinPage) : l.IsReliable where
  used s hs := ⟨hl s hs, Section.usedInBytes?_eq_some (hl s hs)⟩
  bytes := editInBytes?_eq hl
  opened := rfl
  placed above last item t h := by
    rw [edit, place_eq_of_concat h, Outcome.map_eq_ok_iff]
    constructor
    · rintro ⟨s, hs, rfl⟩
      obtain ⟨hroom, rfl⟩ := Section.place_eq_ok_iff.1 hs
      exact ⟨hroom, rfl⟩
    · rintro ⟨hroom, rfl⟩
      exact ⟨last.push item, Section.place_eq_ok_iff.2 ⟨hroom, rfl⟩, rfl⟩
  refused above last item h hfull := by
    have hroom : last.hasRoom item.width = false := by
      rw [Section.hasRoom]
      exact decide_eq_false (by omega)
    have hedit : l.edit (.place item) = .error (.sectionFull item.width.value last.used) := by
      rw [edit, place_eq_of_concat h, Section.place, hroom]
      rfl
    exact ⟨hedit, after_eq_of_error hedit⟩
  packed items := ⟨_, rfl, (packing_packed items).flatMap_eq⟩
  compacted := by
    have hfilter : (fun s : Section α => !s.isEmpty) = fun s => decide (s.items ≠ []) := by
      funext s
      obtain ⟨_ | _⟩ := s <;> simp [Section.isEmpty]
    refine ⟨?_, flatMap_items_filter l.sections⟩
    rw [← hfilter]
    rfl
  compactedOnce := by
    change l.compact.compact = l.compact
    simp only [compact, List.filter_filter, Bool.and_self]

/-- **Whatever was done to a layout, no section is wider than the page and the next edit can be
relied on.** -/
theorem afterAll_isReliable (title : String) (es : List (Edit α)) :
    (empty title).afterAllInBytes? es = some ((empty title).afterAll es) ∧
      ((empty title).afterAll es).IsReliable ∧
      ∀ earlier later, es = earlier ++ later →
        ((empty title).afterAll earlier).items <+: ((empty title).afterAll es).items := by
  have hempty : (empty title : Layout α).WithinPage := withinPage_empty title
  refine ⟨afterAllInBytes?_eq hempty es, (hempty.afterAll es).isReliable, ?_⟩
  rintro earlier later rfl
  rw [afterAll_append]
  exact items_prefix_items_afterAll _ later

end Layout

end ClusterView

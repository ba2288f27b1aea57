import ClusterView.View.Error

/-!
# Flexible layouts

A layout is a stack of sections, a section a row of items whose widths, in units of a twenty-fourth
of the page, sum to at most 24. `Layout.place` adds to the last section and refuses what does not
go in (`place_eq_ok_iff`); `Layout.pack` opens a new section whenever the next item does not go in,
and `flatten_packed` says that it keeps the items and their order.
-/

namespace ClusterView

/-! ## Widths -/

/-- The width of an item. -/
inductive Width where
  | quarter
  | third
  | half
  | full
deriving DecidableEq, Inhabited

namespace Width

/-- The width in units of a twenty-fourth of the page. -/
def value : Width → Nat
  | quarter => 6
  | third => 8
  | half => 12
  | full => 24

/-- The width of the page, and of a section. -/
def page : Nat := 24

theorem value_pos (w : Width) : 0 < w.value := by cases w <;> decide

theorem value_le_page (w : Width) : w.value ≤ page := by cases w <;> decide

end Width

/-! ## Sections -/

/-- A view with its width. -/
structure Layout.Item (α : Type) where
  width : Width
  view : α

/-- A row of items. -/
structure Layout.Section (α : Type) where
  items : List (Layout.Item α)

/-- A titled stack of sections. -/
structure Layout (α : Type) where
  title : String
  sections : List (Layout.Section α)

namespace Layout

variable {α : Type}

/-- The sum of the widths of some items. -/
def usedBy : List (Item α) → Nat
  | [] => 0
  | item :: items => item.width.value + usedBy items

@[simp] theorem usedBy_nil : usedBy ([] : List (Item α)) = 0 := rfl

@[simp] theorem usedBy_cons (item : Item α) (items : List (Item α)) :
    usedBy (item :: items) = item.width.value + usedBy items := rfl

@[simp] theorem usedBy_append (items more : List (Item α)) :
    usedBy (items ++ more) = usedBy items + usedBy more := by
  induction items with
  | nil => simp
  | cons item items ih => simp [ih, Nat.add_assoc]

namespace Section

/-- The section without items. -/
def empty : Section α := ⟨[]⟩

/-- The width in use. -/
def used (s : Section α) : Nat := usedBy s.items

/-- Whether an item of a width goes into the section. -/
def hasRoom (s : Section α) (w : Width) : Bool := s.used + w.value ≤ Width.page

/-- The section with one more item at its end. -/
def push (s : Section α) (item : Item α) : Section α := ⟨s.items ++ [item]⟩

/-- Adds an item at the end if it goes in. -/
def place (s : Section α) (item : Item α) : Except ViewError (Section α) :=
  if s.hasRoom item.width then .ok (s.push item)
  else .error (.sectionFull item.width.value s.used)

/-- Whether the section has no item. -/
def isEmpty (s : Section α) : Bool := s.items.isEmpty

@[simp] theorem used_empty : (empty : Section α).used = 0 := rfl

@[simp] theorem used_push (s : Section α) (item : Item α) :
    (s.push item).used = s.used + item.width.value := by
  simp [used, push]

/-- An item goes in exactly when its width and the width in use sum to at most the page. -/
theorem place_eq_ok_iff {s t : Section α} {item : Item α} :
    s.place item = .ok t ↔ s.used + item.width.value ≤ Width.page ∧ t = s.push item := by
  by_cases h : s.used + item.width.value ≤ Width.page <;> simp [place, hasRoom, h, eq_comm]

end Section

/-! ## Layouts -/

/-- The layout without sections. -/
def empty (title : String) : Layout α := ⟨title, []⟩

/-- Opens a section below the others. -/
def openSection (l : Layout α) : Layout α := { l with sections := l.sections ++ [Section.empty] }

/-- Adds a section below the others. -/
def addSection (l : Layout α) (s : Section α) : Layout α := { l with sections := l.sections ++ [s] }

/-- Adds an item at the end of the last section if it goes in. A layout without sections gets
one. -/
def place (l : Layout α) (item : Item α) : Except ViewError (Layout α) :=
  match l.sections.getLast? with
  | none => (Section.empty.place item).map fun s => l.addSection s
  | some last =>
    (last.place item).map fun s => { l with sections := l.sections.dropLast ++ [s] }

/-- Sections for some items, the first of them added to the items of the current section: a new
section begins where the next item does not go into the current one. -/
def packed (current : Section α) : List (Item α) → List (Section α)
  | [] => if current.isEmpty then [] else [current]
  | item :: rest =>
    if current.hasRoom item.width then packed (current.push item) rest
    else current :: packed (Section.empty.push item) rest

/-- Adds the items in new sections, as few items in one as have to be. -/
def pack (l : Layout α) (items : List (Item α)) : Layout α :=
  { l with sections := l.sections ++ packed Section.empty items }

/-- Removes the sections without items. -/
def compact (l : Layout α) : Layout α :=
  { l with sections := l.sections.filter fun s => !s.isEmpty }

/-- Packing keeps the items and their order. -/
theorem flatten_packed (current : Section α) (items : List (Item α)) :
    (packed current items).flatMap (·.items) = current.items ++ items := by
  induction items generalizing current with
  | nil => by_cases h : current.items = [] <;> simp [packed, Section.isEmpty, h]
  | cons item rest ih =>
    simp only [packed]
    split <;> simp [ih, Section.push, Section.empty]

end Layout

end ClusterView

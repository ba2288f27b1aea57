import ClusterView.Proofs.Outcome
import ClusterView.Proofs.StringMap
import ClusterView.Proofs.Text.Bytes
import ClusterView.View.Table

/-!
# The rows that a table takes

A row goes into a table if the table has a column for each of its cells (`Row.Fits`); otherwise it
is blamed on the first of its columns, in the order of their bytes, that is not there
(`Row.IsBlamed`). Rows that are given together go in together or not at all, and then the first one
that does not fit is blamed (`addAll_eq_error_iff`). Rows that are added one after the other are
taken or refused each by itself: the table has the rows that it took (`afterAll_eq`), and these are
the rows that fit (`taken_eq_filter`). `takes_rows` puts this together for tables that are made and
then added to.
-/

namespace ClusterView

namespace Table

variable {α : Type}

/-! ## Rows and columns -/

namespace Row

/-- Whether every cell of a row belongs to a column. -/
def Fits (row : Row α) (columns : List Column) : Prop :=
  ∀ c ∈ row.columns, c ∈ columns.map (·.accessor)

instance (row : Row α) (columns : List Column) : Decidable (row.Fits columns) :=
  inferInstanceAs (Decidable (∀ c ∈ row.columns, c ∈ columns.map (·.accessor)))

/-- Whether a name is what keeps a row out: of the names under which it has a cell and that belong
to no column, the first in the order of their bytes. -/
structure IsBlamed (row : Row α) (columns : List Column) (name : String) : Prop where
  used : name ∈ row.columns
  unknown : name ∉ columns.map (·.accessor)
  least : ∀ c ∈ row.columns, c ∉ columns.map (·.accessor) → c ≠ name →
    Text.bytes name < Text.bytes c

variable {row : Row α} {columns : List Column} {name other : String}

/-- A row is blamed on one name at most. -/
theorem IsBlamed.eq (h : row.IsBlamed columns name) (h' : row.IsBlamed columns other) :
    name = other := by
  by_contra hne
  have hlt := h.least other h'.used h'.unknown (Ne.symm hne)
  exact List.lt_asymm hlt (h'.least name h.used h.unknown hne)

theorem IsBlamed.not_fits (h : row.IsBlamed columns name) : ¬ row.Fits columns :=
  fun hfits => h.unknown (hfits name h.used)

/-- The names of a row ascend, in whatever order its cells were set. -/
theorem columns_ofCells_ascending (cells : List (String × α)) :
    (ofCells cells).columns.Pairwise (· < ·) := by
  rw [columns, cells_ofCells, List.pairwise_map]
  exact (StringMap.ofList cells).ascending

end Row

/-! ## One row -/

variable {t u : Table α} {row : Row α} {e : ViewError}

theorem add_eq_ok_iff_fits :
    t.add row = .ok u ↔ row.Fits t.columns ∧ u = { t with rows := t.rows ++ [row] } := by
  simp only [add_eq_ok_iff, hasColumn_iff, Row.Fits]

/-- A row is refused with the name that it is blamed on. -/
theorem add_eq_error_iff (hrow : row.columns.Pairwise (· < ·)) :
    t.add row = .error e ↔
      ∃ name, row.IsBlamed t.columns name ∧ e = .unknownColumn t.title name := by
  have hunknown : ∀ c, (!t.hasColumn c) = true ↔ c ∉ t.columns.map (·.accessor) := fun c => by
    rw [Bool.not_eq_true', ← Bool.not_eq_true, hasColumn_iff]
  unfold add
  cases hfind : row.columns.find? fun c => !t.hasColumn c with
  | none =>
    have hfits : row.Fits t.columns := fun c hc => by
      simpa only [hunknown, not_not] using List.find?_eq_none.1 hfind c hc
    exact ⟨fun h => (nomatch h), fun ⟨_, hblamed, _⟩ => absurd hfits hblamed.not_fits⟩
  | some name =>
    -- The names before the one that is found belong to columns, and those behind it are greater.
    obtain ⟨hname, before, behind, hcolumns, hbefore⟩ := List.find?_eq_some_iff_append.1 hfind
    have hblamed : row.IsBlamed t.columns name := by
      refine ⟨by rw [hcolumns]; simp, (hunknown name).1 hname, fun c hc hcolumn hne => ?_⟩
      apply Text.bytes_lt
      rw [hcolumns] at hc hrow
      rcases List.mem_append.1 hc with hc | hc
      · exact absurd ((hunknown c).2 hcolumn) (by simpa using hbefore c hc)
      · have hbehind := (List.mem_cons.1 hc).resolve_left hne
        exact (List.pairwise_cons.1 (List.pairwise_append.1 hrow).2.1).1 c hbehind
    constructor
    · rintro ⟨⟩
      exact ⟨name, hblamed, rfl⟩
    · rintro ⟨other, hother, rfl⟩
      rw [hblamed.eq hother]

/-! ## Rows that are given together -/

variable {rows : List (Row α)}

theorem addAll_append (t : Table α) (earlier later : List (Row α)) :
    t.addAll (earlier ++ later) = t.addAll earlier >>= fun u => u.addAll later :=
  List.foldlM_append

theorem addAll_eq_ok_iff_fits : t.addAll rows = .ok u ↔
    (∀ row ∈ rows, row.Fits t.columns) ∧ u = { t with rows := t.rows ++ rows } := by
  simp only [addAll_eq_ok_iff, hasColumn_iff, Row.Fits]

/-- The first row that does not fit is refused, and no row behind it is looked at. -/
theorem addAll_eq_error_iff (hrows : ∀ row ∈ rows, row.columns.Pairwise (· < ·)) :
    t.addAll rows = .error e ↔ ∃ earlier row later name, rows = earlier ++ row :: later ∧
      (∀ r ∈ earlier, r.Fits t.columns) ∧ row.IsBlamed t.columns name ∧
      e = .unknownColumn t.title name := by
  constructor
  · intro h
    induction rows generalizing t with
    | nil => cases h
    | cons row rest ih =>
      obtain ⟨hrow, hrest⟩ := List.forall_mem_cons.1 hrows
      change t.add row >>= (fun u => u.addAll rest) = .error e at h
      cases hadd : t.add row with
      | error e' =>
        rw [hadd] at h
        obtain ⟨name, hblamed, rfl⟩ := (add_eq_error_iff hrow).1 hadd
        exact ⟨[], row, rest, name, rfl, by simp, hblamed, (Except.error.inj h).symm⟩
      | ok u =>
        rw [hadd] at h
        obtain ⟨hfits, rfl⟩ := add_eq_ok_iff_fits.1 hadd
        obtain ⟨earlier, bad, later, name, rfl, hearlier, hblamed, rfl⟩ := ih hrest h
        exact ⟨row :: earlier, bad, later, name, rfl, List.forall_mem_cons.2 ⟨hfits, hearlier⟩,
          hblamed, rfl⟩
  · rintro ⟨earlier, row, later, name, rfl, hearlier, hblamed, rfl⟩
    have hadd : add { t with rows := t.rows ++ earlier } row =
        .error (.unknownColumn t.title name) :=
      (add_eq_error_iff (hrows row (by simp))).2 ⟨name, hblamed, rfl⟩
    rw [addAll_append, addAll_eq_ok_iff_fits.2 ⟨hearlier, rfl⟩]
    show add _ row >>= _ = _
    rw [hadd]
    rfl

/-! ## Rows that are added one after the other -/

/-- The table after a row is added. A table that refuses the row stays as it is. -/
def after (t : Table α) (row : Row α) : Table α :=
  match t.add row with
  | .ok added => added
  | .error _ => t

/-- The table after some rows are added, from the first on. -/
def afterAll (t : Table α) (rows : List (Row α)) : Table α := rows.foldl after t

/-- The rows that are taken of some that are added one after the other, each by the table as it is
when its turn comes. -/
def taken (t : Table α) : List (Row α) → List (Row α)
  | [] => []
  | row :: rest =>
    match t.add row with
    | .ok added => row :: added.taken rest
    | .error _ => t.taken rest

/-- A table has, behind the rows it had, those it took. Nothing else of it changes. -/
theorem afterAll_eq (t : Table α) (rows : List (Row α)) :
    t.afterAll rows = { t with rows := t.rows ++ t.taken rows } := by
  induction rows generalizing t with
  | nil => simp [afterAll, taken]
  | cons row rest ih =>
    have hstep : t.afterAll (row :: rest) = (t.after row).afterAll rest := rfl
    cases hadd : t.add row with
    | ok u =>
      obtain ⟨-, rfl⟩ := add_eq_ok_iff_fits.1 hadd
      simp [hstep, ih, after, taken, hadd]
    | error e => simp [hstep, ih, after, taken, hadd]

/-- Whether a row is taken does not depend on the rows before it. -/
theorem taken_eq_filter (t : Table α) (rows : List (Row α)) :
    t.taken rows = rows.filter fun row => row.Fits t.columns := by
  induction rows generalizing t with
  | nil => rfl
  | cons row rest ih =>
    cases hadd : t.add row with
    | ok u =>
      obtain ⟨hfits, rfl⟩ := add_eq_ok_iff_fits.1 hadd
      rw [taken, hadd, List.filter_cons_of_pos (by simpa using hfits)]
      exact congrArg (row :: ·) (ih _)
    | error e =>
      have hfits : ¬ row.Fits t.columns := fun hfits => by
        rw [add_eq_ok_iff_fits.2 ⟨hfits, rfl⟩] at hadd
        cases hadd
      rw [taken, hadd, List.filter_cons_of_neg (by simpa using hfits)]
      exact ih t

/-! ## Tables that are made and added to -/

/-- How a table takes rows that are added to it one after the other. -/
structure Takes (t : Table α) (rows : List (Row α)) : Prop where
  /-- The rows that are taken come behind those that are there, and nothing else changes. -/
  afterAll : t.afterAll rows = { t with rows := t.rows ++ t.taken rows }
  /-- The rows that are taken are those that fit. -/
  taken : t.taken rows = rows.filter fun row => row.Fits t.columns
  /-- Every row of the table belongs to its columns. -/
  fits : ∀ row ∈ (t.afterAll rows).rows, row.Fits t.columns
  /-- The next row is taken if it fits, as the last one. -/
  next_ok : ∀ cells u, (t.afterAll rows).add (.ofCells cells) = .ok u ↔
    (Row.ofCells cells).Fits t.columns ∧
      u = { t with rows := t.rows ++ t.taken rows ++ [.ofCells cells] }
  /-- Otherwise it is refused with the name that it is blamed on. -/
  next_error : ∀ cells e, (t.afterAll rows).add (.ofCells cells) = .error e ↔
    ∃ name, (Row.ofCells cells).IsBlamed t.columns name ∧ e = .unknownColumn t.title name

theorem takes (h : ∀ row ∈ t.rows, row.Fits t.columns) (rows : List (Row α)) : t.Takes rows where
  afterAll := t.afterAll_eq rows
  taken := t.taken_eq_filter rows
  fits row hrow := by
    rw [afterAll_eq, taken_eq_filter] at hrow
    rcases List.mem_append.1 hrow with hrow | hrow
    · exact h row hrow
    · exact of_decide_eq_true (List.mem_filter.1 hrow).2
  next_ok cells u := by rw [afterAll_eq, add_eq_ok_iff_fits]
  next_error cells e := by
    rw [afterAll_eq]
    exact add_eq_error_iff (Row.columns_ofCells_ascending cells)

/-- **A table has the rows that it takes.** Rows that are given together make a table of them
exactly if all of them fit, and otherwise the first one that does not fit is blamed. Whatever rows
are then added, the table has those that it took, and all its rows fit. -/
theorem takes_rows (title emptyContent : String) (columns : List Column)
    (given : List (List (String × α))) :
    let rows : List (Row α) := given.map Row.ofCells
    (∀ t, ofRows title emptyContent columns rows = .ok t ↔ (∀ row ∈ rows, row.Fits columns) ∧
        t = { title, columns, rows, emptyContent }) ∧
      (∀ e, ofRows title emptyContent columns rows = .error e ↔
        ∃ earlier row later name, rows = earlier ++ row :: later ∧
          (∀ r ∈ earlier, r.Fits columns) ∧ row.IsBlamed columns name ∧
          e = .unknownColumn title name) ∧
      ∀ t, ofRows title emptyContent columns rows = .ok t →
        ∀ added : List (List (String × α)), t.Takes (added.map Row.ofCells) := by
  intro rows
  have hascending : ∀ row ∈ rows, row.columns.Pairwise (· < ·) :=
    List.forall_mem_map.2 fun cells _ => Row.columns_ofCells_ascending cells
  refine ⟨fun t => addAll_eq_ok_iff_fits, fun e => addAll_eq_error_iff hascending, ?_⟩
  intro t ht added
  obtain ⟨hfits, rfl⟩ := addAll_eq_ok_iff_fits.1 ht
  exact takes hfits _

end Table

end ClusterView

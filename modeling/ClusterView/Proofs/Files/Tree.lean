import ClusterView.Files.Tree
import Mathlib.Data.Option.Basic

/-!
# What file operations leave alone

Making directories loses nothing: the tree grows by directories only (`FileTree.Grows`), so a path
that leads to a file leads there afterwards (`read?_of_grows`). Writing a file changes one place and
no directory (`write_eq_true_iff`), so it moves no path and every other file reads as before
(`read?_of_write`).
-/

namespace ClusterView.FileTree

variable {t u v : FileTree} {place q : Place} {path text : String}

/-! ## Places -/

theorem find?_insert_self {e : FileEntry} (h : place ≠ [] ∧ place ≠ root) :
    (t.insert place e).find? place = some e := by
  simp [find?, insert, h]

theorem find?_insert_of_ne {e : FileEntry} (h : q ≠ place) :
    (t.insert place e).find? q = t.find? q := by
  have hne : (q == place) = false := by simpa using h
  simp only [find?, insert, List.lookup_cons, hne]

theorem isDirectory_iff : t.isDirectory place = true ↔ t.find? place = some .directory := by
  simp [isDirectory]

/-- The directories that are always there are no files. -/
theorem not_fixed (h : t.isDirectory place = false) : place ≠ [] ∧ place ≠ root := by
  constructor
  · rintro rfl
    cases h
  · rintro rfl
    cases h

theorem read?_eq_some_iff : t.read? path = some text ↔
    ∃ place, t.locate path = some place ∧ t.find? place = some (.file text) := by
  unfold read?
  cases t.locate path with
  | none => simp
  | some place =>
    simp only [Option.bind_some, Option.some.injEq, exists_eq_left']
    cases t.find? place with
    | none => simp
    | some e => cases e <;> simp

/-! ## Growing -/

/-- Whether a tree is another one with more directories where nothing was. -/
def Grows (t u : FileTree) : Prop :=
  ∀ q, u.find? q = t.find? q ∨ t.find? q = none ∧ u.find? q = some .directory

theorem Grows.refl (t : FileTree) : t.Grows t := fun _ => .inl rfl

theorem Grows.trans (h : t.Grows u) (h' : u.Grows v) : t.Grows v := by
  intro q
  rcases h q with hq | ⟨hnone, hq⟩ <;> rcases h' q with hq' | ⟨hnone', hq'⟩
  · exact .inl (hq'.trans hq)
  · exact .inr ⟨hq.symm.trans hnone', hq'⟩
  · exact .inr ⟨hnone, hq'.trans hq⟩
  · exact .inr ⟨hnone, hq'⟩

theorem Grows.find? (h : t.Grows u) {e : FileEntry} (hq : t.find? q = some e) :
    u.find? q = some e := by
  rcases h q with hsame | ⟨hnone, -⟩
  · exact hsame.trans hq
  · rw [hnone] at hq
    cases hq

theorem Grows.isDirectory (h : t.Grows u) (hq : t.isDirectory q = true) :
    u.isDirectory q = true :=
  isDirectory_iff.2 (h.find? (isDirectory_iff.1 hq))

theorem grows_insert (h : t.find? place = none) : t.Grows (t.insert place .directory) := by
  intro q
  by_cases hq : q = place
  · subst hq
    have hfixed : q ≠ [] ∧ q ≠ root := not_fixed (t := t) (by simp [FileTree.isDirectory, h])
    exact .inr ⟨h, find?_insert_self hfixed⟩
  · exact .inl (find?_insert_of_ne hq)

theorem grows_makeWay (t : FileTree) (place : Place) (names : List String) :
    t.Grows (t.makeWay place names).2 := by
  induction names generalizing t place with
  | nil => exact .refl t
  | cons name rest ih =>
    unfold makeWay
    dsimp only
    split
    next => exact ih t _
    next => exact .refl t
    next hnone =>
      split
      · exact (grows_insert hnone).trans (ih _ _)
      · exact .refl t

theorem grows_makeParents (t : FileTree) (path : String) : t.Grows (t.makeParents path).2 := by
  unfold makeParents makeNames
  split
  · exact .refl t
  · split
    · exact grows_makeWay t _ _
    · exact .refl t

/-! ## Ways -/

/-- A way leads on as long as no directory is lost. -/
theorem walk_mono (h : ∀ q, t.isDirectory q = true → u.isDirectory q = true) {names : List String}
    (hwalk : t.walk place names = some q) : u.walk place names = some q := by
  induction names generalizing place with
  | nil => exact hwalk
  | cons name rest ih =>
    rw [walk] at hwalk ⊢
    split at hwalk
    next hstep =>
      rw [Bool.and_eq_true] at hstep
      rw [if_pos (by rw [Bool.and_eq_true]; exact ⟨h _ hstep.1, hstep.2⟩)]
      exact ih hwalk
    next => cases hwalk

theorem locate_eq_some_iff : t.locate path = some place ↔ isPathText path = true ∧
    ∃ p, FilePath.ofText? path = some p ∧ t.walk (start p) p.names = some place ∧
      (p.namesDirectory = true → t.isDirectory place = true) := by
  have hguard : ∀ b : Bool, (guard (b = true) : Option Unit) = some () ↔ b = true := by
    intro b
    cases b <;> simp [guard]
  simp only [locate, Option.bind_eq_bind, Option.bind_eq_some_iff, hguard, Option.some.injEq]
  constructor
  · rintro ⟨-, htext, p, hp, q, hwalk, -, hend, rfl⟩
    exact ⟨htext, p, hp, hwalk, fun hname => by simpa [hname] using hend⟩
  · rintro ⟨htext, p, hp, hwalk, hend⟩
    refine ⟨(), htext, p, hp, place, hwalk, (), ?_, rfl⟩
    cases hname : p.namesDirectory with
    | true => simp [hend hname]
    | false => rfl

theorem locate_mono (h : ∀ q, t.isDirectory q = true → u.isDirectory q = true)
    (hlocate : t.locate path = some place) : u.locate path = some place := by
  obtain ⟨htext, p, hp, hwalk, hend⟩ := locate_eq_some_iff.1 hlocate
  exact locate_eq_some_iff.2 ⟨htext, p, hp, walk_mono h hwalk, fun hname => h _ (hend hname)⟩

/-- What a path leads to depends on the directories only. -/
theorem locate_congr (h : ∀ q, u.isDirectory q = t.isDirectory q) :
    u.locate path = t.locate path := by
  refine Option.ext fun place => ⟨locate_mono fun q hq => ?_, locate_mono fun q hq => ?_⟩
  · rwa [← h]
  · rwa [h]

theorem read?_of_grows (h : t.Grows u) (hread : t.read? path = some text) :
    u.read? path = some text := by
  obtain ⟨place, hlocate, hfind⟩ := read?_eq_some_iff.1 hread
  exact read?_eq_some_iff.2 ⟨place, locate_mono (fun _ => h.isDirectory) hlocate, h.find? hfind⟩

/-! ## Writing -/

/-- A file is written where the path leads to, unless there is a directory. -/
theorem write_eq_true_iff : t.write path text = (true, u) ↔
    ∃ place, t.locate path = some place ∧ t.isDirectory place = false ∧
      u = t.insert place (.file text) := by
  unfold write
  cases t.locate path with
  | none => simp
  | some place =>
    cases hdirectory : t.isDirectory place with
    | true => simp [hdirectory]
    | false =>
      simp only [Bool.false_eq_true, if_false, Option.some.injEq, exists_eq_left', hdirectory,
        true_and, Prod.mk.injEq]
      exact eq_comm

theorem write_fst_iff : (t.write path text).1 = true ↔
    ∃ place, t.locate path = some place ∧ t.isDirectory place = false := by
  constructor
  · intro h
    obtain ⟨place, hplace, hdirectory, -⟩ := write_eq_true_iff.1 (Prod.ext h rfl)
    exact ⟨place, hplace, hdirectory⟩
  · rintro ⟨place, hplace, hdirectory⟩
    rw [write_eq_true_iff.2 ⟨place, hplace, hdirectory, rfl⟩]

theorem write_of_false (h : (t.write path text).1 = false) : (t.write path text).2 = t := by
  unfold write at h ⊢
  cases hlocate : t.locate path with
  | none => rfl
  | some place =>
    rw [hlocate] at h
    cases hdirectory : t.isDirectory place with
    | true => simp [hdirectory]
    | false => simp [hdirectory] at h

/-- Writing a file makes and loses no directory. -/
theorem isDirectory_insert_file (h : t.isDirectory place = false) (q : Place) :
    (t.insert place (.file text)).isDirectory q = t.isDirectory q := by
  by_cases hq : q = place
  · subst hq
    rw [h, FileTree.isDirectory, find?_insert_self (not_fixed h)]
    rfl
  · rw [FileTree.isDirectory, find?_insert_of_ne hq, FileTree.isDirectory]

theorem locate_of_write (h : t.write path text = (true, u)) (other : String) :
    u.locate other = t.locate other := by
  obtain ⟨place, -, hdirectory, rfl⟩ := write_eq_true_iff.1 h
  exact locate_congr (isDirectory_insert_file hdirectory)

/-- A file that was written is read back. -/
theorem read?_write (h : t.write path text = (true, u)) : u.read? path = some text := by
  obtain ⟨place, hlocate, hdirectory, rfl⟩ := write_eq_true_iff.1 h
  exact read?_eq_some_iff.2
    ⟨place, (locate_of_write h path).trans hlocate, find?_insert_self (not_fixed hdirectory)⟩

/-- A file that another path leads to reads as before. -/
theorem read?_of_write (h : t.write path text = (true, u)) {other : String}
    (hother : u.locate other ≠ u.locate path) : u.read? other = t.read? other := by
  rw [locate_of_write h, locate_of_write h] at hother
  have hlocate := locate_of_write h other
  obtain ⟨place, hplace, hdirectory, rfl⟩ := write_eq_true_iff.1 h
  rw [hplace] at hother
  unfold read?
  rw [hlocate]
  cases hq : t.locate other with
  | none => rfl
  | some q =>
    have hne : q ≠ place := by
      rintro rfl
      exact hother hq
    rw [Option.bind_some, Option.bind_some, find?_insert_of_ne hne]

end ClusterView.FileTree

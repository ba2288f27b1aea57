import ClusterView.Proofs.Files.Path
import ClusterView.Proofs.Files.Tree

/-!
# Where files can be made

A path without `..` leads to the place that its names spell (`walk_eq_some_iff`), and the
directories on its way can be made unless a file is in it (`makeWay_iff`). So a file can be made at
such a path exactly if the path can be that of a file, no file is on its way and no directory at its
place (`canMake_iff`).
-/

namespace ClusterView.FileTree

variable {t u : FileTree} {place q : Place} {path text : String} {names : List String}

theorem next_of_ne {name : String} (h : name ≠ "..") : next place name = place ++ [name] :=
  if_neg h

/-! ## Ways -/

/-- Whether all directories on a way are there, and its names are those of files. -/
def IsWay (t : FileTree) (place : Place) : List String → Prop
  | [] => True
  | name :: rest =>
    t.isDirectory place = true ∧ isFileName name = true ∧ IsWay t (place ++ [name]) rest

theorem walk_eq_some_iff (h : ".." ∉ names) :
    t.walk place names = some q ↔ t.IsWay place names ∧ place ++ names = q := by
  induction names generalizing place with
  | nil => simp [walk, IsWay]
  | cons name rest ih =>
    rw [List.mem_cons, not_or] at h
    rw [walk, next_of_ne (Ne.symm h.1), IsWay]
    split
    next hstep =>
      rw [Bool.and_eq_true] at hstep
      rw [ih h.2]
      simp [hstep]
    next hstep =>
      rw [Bool.and_eq_true] at hstep
      simp only [reduceCtorEq, false_iff]
      exact fun hway => hstep ⟨hway.1.1, hway.1.2.1⟩

theorem IsWay.isFileName (h : t.IsWay place names) : ∀ name ∈ names, isFileName name = true := by
  induction names generalizing place with
  | nil => simp
  | cons name rest ih => exact List.forall_mem_cons.2 ⟨h.2.1, ih h.2.2⟩

theorem isWay_append_singleton {last : String} : t.IsWay place (names ++ [last]) ↔
    t.IsWay place names ∧ t.isDirectory (place ++ names) = true ∧ isFileName last = true := by
  induction names generalizing place with
  | nil => simp [IsWay]
  | cons name rest ih => simp [IsWay, ih, and_assoc]

/-! ## Making directories -/

/-- A step on a way ends at a file, or goes on from a directory that is there now. -/
theorem makeWay_cons (t : FileTree) (place : Place) {name : String} (h : name ≠ "..")
    (hname : isFileName name = true) (rest : List String) :
    (∃ text, t.find? (place ++ [name]) = some (.file text) ∧
      t.makeWay place (name :: rest) = (false, t)) ∨
    (∀ text, t.find? (place ++ [name]) ≠ some (.file text)) ∧
      ∃ u : FileTree, u.isDirectory (place ++ [name]) = true ∧
        (∀ q, q ≠ place ++ [name] → u.find? q = t.find? q) ∧
        t.makeWay place (name :: rest) = u.makeWay (place ++ [name]) rest := by
  rw [makeWay, next_of_ne h]
  cases hfind : t.find? (place ++ [name]) with
  | none =>
    refine .inr ⟨by simp, t.insert (place ++ [name]) .directory, ?_, ?_, by rw [if_pos hname]⟩
    · refine isDirectory_iff.2 (find?_insert_self (not_fixed (t := t) ?_))
      simp [isDirectory, hfind]
    · exact fun q hq => find?_insert_of_ne hq
  | some e =>
    cases e with
    | file text => exact .inl ⟨text, rfl, rfl⟩
    | directory => exact .inr ⟨by simp, t, isDirectory_iff.2 hfind, fun _ _ => rfl, rfl⟩

theorem append_singleton_ne {name : String} {way : List String} (h : way ≠ []) :
    place ++ [name] ++ way ≠ place ++ [name] := by
  simpa using h

/-- Directories are made on a way unless a file is in it. -/
theorem makeWay_iff (h : ".." ∉ names) (hnames : ∀ name ∈ names, isFileName name = true)
    (hplace : t.isDirectory place = true) : (t.makeWay place names).1 = true ↔
      ∀ way, way <+: names → ∀ text, t.find? (place ++ way) ≠ some (.file text) := by
  induction names generalizing t place with
  | nil =>
    simp only [makeWay, List.prefix_nil, forall_eq, List.append_nil, true_iff]
    rw [isDirectory_iff.1 hplace]
    simp
  | cons name rest ih =>
    rw [List.mem_cons, not_or] at h
    obtain ⟨hname, hrest⟩ := List.forall_mem_cons.1 hnames
    rcases makeWay_cons t place (Ne.symm h.1) hname rest with
      ⟨text, hfile, hmade⟩ | ⟨hfree, u, hu, hsame, hmade⟩
    · rw [hmade]
      simp only [Bool.false_eq_true, false_iff]
      exact fun hall => hall [name] (by simp) text hfile
    · rw [hmade, ih h.2 hrest hu]
      constructor
      · intro hall way hway text
        cases way with
        | nil =>
          rw [List.append_nil, isDirectory_iff.1 hplace]
          simp
        | cons other way =>
          obtain ⟨rfl, hbelow⟩ := List.cons_prefix_cons.1 hway
          cases way with
          | nil => exact hfree text
          | cons next way =>
            have hwhole := hall (next :: way) hbelow text
            rw [hsame _ (append_singleton_ne (List.cons_ne_nil _ _))] at hwhole
            simpa using hwhole
      · intro hall way hway text
        cases way with
        | nil =>
          rw [List.append_nil, isDirectory_iff.1 hu]
          simp
        | cons next way =>
          rw [hsame _ (append_singleton_ne (List.cons_ne_nil _ _))]
          have hwhole := hall (name :: next :: way) (List.cons_prefix_cons.2 ⟨rfl, hway⟩) text
          simpa using hwhole

/-- Nothing changes below the way that is made. -/
theorem find?_makeWay (h : ".." ∉ names) (hnames : ∀ name ∈ names, isFileName name = true)
    (hq : place.length + names.length < q.length) :
    (t.makeWay place names).2.find? q = t.find? q := by
  induction names generalizing t place with
  | nil => rfl
  | cons name rest ih =>
    rw [List.mem_cons, not_or] at h
    obtain ⟨hname, hrest⟩ := List.forall_mem_cons.1 hnames
    rw [List.length_cons] at hq
    rcases makeWay_cons t place (Ne.symm h.1) hname rest with
      ⟨text, -, hmade⟩ | ⟨-, u, -, hsame, hmade⟩
    · rw [hmade]
    · have hne : q ≠ place ++ [name] := by
        rintro rfl
        simp only [List.length_append, List.length_singleton] at hq
        omega
      rw [hmade, ih h.2 hrest (by simp only [List.length_append, List.length_singleton]; omega),
        hsame q hne]

/-- The directories that were made are a way. -/
theorem isWay_makeWay (h : ".." ∉ names) (hnames : ∀ name ∈ names, isFileName name = true)
    (hplace : t.isDirectory place = true) (hmade : (t.makeWay place names).1 = true) :
    (t.makeWay place names).2.IsWay place names ∧
      (t.makeWay place names).2.isDirectory (place ++ names) = true := by
  induction names generalizing t place with
  | nil => exact ⟨trivial, by simpa [makeWay] using hplace⟩
  | cons name rest ih =>
    have hgrown := (grows_makeWay t place (name :: rest)).isDirectory hplace
    rw [List.mem_cons, not_or] at h
    obtain ⟨hname, hrest⟩ := List.forall_mem_cons.1 hnames
    rcases makeWay_cons t place (Ne.symm h.1) hname rest with
      ⟨text, -, hstep⟩ | ⟨-, u, hu, -, hstep⟩
    · rw [hstep] at hmade
      cases hmade
    · rw [hstep] at hmade hgrown ⊢
      obtain ⟨hway, hend⟩ := ih h.2 hrest hu hmade
      exact ⟨⟨hgrown, hname, hway⟩, by simpa using hend⟩

/-! ## Making files -/

/-- Whether a file can be made at a path without `..`: the path can be that of a file, and there is
no file on its way and no directory at its place. -/
structure CanHold (t : FileTree) (path : String) (p : FilePath) : Prop where
  isPathText : isPathText path = true
  isFileName : ∀ name ∈ p.names, isFileName name = true
  namesFile : p.namesDirectory = false
  way : ∀ way, way <+: p.names.dropLast → ∀ text, t.find? (start p ++ way) ≠ some (.file text)
  place : t.isDirectory (start p ++ p.names) = false

theorem isDirectory_start (t : FileTree) (p : FilePath) : t.isDirectory (start p) = true := by
  unfold start
  split <;> rfl

/-- Whether the directories around the file of a path can be made, and then the file. -/
def canMake (t : FileTree) (path text : String) : Bool :=
  (t.makeParents path).1 && ((t.makeParents path).2.write path text).1

theorem canMake_iff {p : FilePath} (hp : FilePath.ofText? path = some p) (hdots : ".." ∉ p.names) :
    t.canMake path text = true ↔ t.CanHold path p := by
  have hdots' : ".." ∉ p.names.dropLast := fun h => hdots (List.dropLast_subset _ h)
  have hparents : t.makeParents path = t.makeNames p p.names.dropLast := by rw [makeParents, hp]
  have hstart := isDirectory_start t p
  have hlocate : ∀ {u : FileTree} {q : Place}, u.locate path = some q ↔
      isPathText path = true ∧ (u.IsWay (start p) p.names ∧ start p ++ p.names = q) ∧
        (p.namesDirectory = true → u.isDirectory q = true) := by
    intro u q
    rw [locate_eq_some_iff, hp]
    simp [walk_eq_some_iff hdots]
  rw [canMake, Bool.and_eq_true, hparents, write_fst_iff]
  constructor
  · rintro ⟨hmade, place, hplace, hdirectory⟩
    obtain ⟨htext, ⟨hway, rfl⟩, hnames⟩ := hlocate.1 hplace
    have hjoined := isPathText_of_sublist htext
      ((List.dropLast_sublist _).trans (FilePath.names_sublist hp))
    have hfiles : ∀ name ∈ p.names.dropLast, isFileName name = true := fun name hname =>
      hway.isFileName name (List.dropLast_subset _ hname)
    rw [makeNames, if_pos hjoined] at hmade hdirectory hnames
    refine ⟨htext, hway.isFileName, ?_, (makeWay_iff hdots' hfiles hstart).1 hmade, ?_⟩
    · rw [hdirectory] at hnames
      simpa using hnames
    · rw [← Bool.not_eq_true] at hdirectory ⊢
      exact fun h => hdirectory ((grows_makeWay t _ _).isDirectory h)
  · intro h
    have hjoined := isPathText_of_sublist h.isPathText
      ((List.dropLast_sublist _).trans (FilePath.names_sublist hp))
    have hfiles : ∀ name ∈ p.names.dropLast, isFileName name = true := fun name hname =>
      h.isFileName name (List.dropLast_subset _ hname)
    have hmade := (makeWay_iff hdots' hfiles hstart).2 h.way
    obtain ⟨hway, hend⟩ := isWay_makeWay hdots' hfiles hstart hmade
    -- The start is a directory, so there is a last name, and nothing is made at its place.
    have hne : p.names ≠ [] := by
      intro hnil
      have hplace := h.place
      rw [hnil, List.append_nil, hstart] at hplace
      cases hplace
    have hwhole := isWay_append_singleton.2 ⟨hway, hend, h.isFileName _ (List.getLast_mem hne)⟩
    rw [List.dropLast_concat_getLast hne] at hwhole
    have hbelow : (start p).length + p.names.dropLast.length < (start p ++ p.names).length := by
      have hlength := List.length_pos_iff.2 hne
      simp only [List.length_append, List.length_dropLast]
      omega
    have hsame := find?_makeWay (t := t) hdots' hfiles hbelow
    rw [makeNames, if_pos hjoined]
    refine ⟨hmade, start p ++ p.names, hlocate.2 ⟨h.isPathText, ⟨hwhole, rfl⟩, ?_⟩, ?_⟩
    · rw [h.namesFile]
      exact nofun
    · rw [isDirectory, hsame]
      exact h.place

/-! ## Files that can be read -/

/-- Whether all places around a place are directories. -/
def Reached (t : FileTree) (q : Place) : Prop :=
  ∀ way, way <+: q → way ≠ q → t.isDirectory way = true

theorem reached_next (h : t.Reached place) (hplace : t.isDirectory place = true) (name : String) :
    t.Reached (next place name) := by
  unfold next
  split
  · split
    next hroot => exact hroot ▸ h
    next =>
      intro way hway hne
      refine h way (hway.trans (List.dropLast_prefix _)) ?_
      rintro rfl
      have hlength := hway.length_le
      rw [List.length_dropLast] at hlength
      obtain rfl : way = [] := List.length_eq_zero_iff.1 (by omega)
      exact hne rfl
  · intro way hway hne
    rcases List.prefix_concat_iff.1 hway with rfl | hbefore
    · exact absurd rfl hne
    · by_cases hsame : way = place
      · rwa [hsame]
      · exact h way hbefore hsame

/-- What a way leads to is reached through directories, also where it goes back. -/
theorem reached_of_walk (h : t.Reached place) (hwalk : t.walk place names = some q) :
    t.Reached q := by
  induction names generalizing place with
  | nil =>
    cases hwalk
    exact h
  | cons name rest ih =>
    rw [walk] at hwalk
    split at hwalk
    next hstep =>
      rw [Bool.and_eq_true] at hstep
      exact ih (reached_next h hstep.1 name) hwalk
    next => cases hwalk

theorem reached_start (t : FileTree) (p : FilePath) : t.Reached (start p) := by
  have hroot : ∀ way, way <+: root → way ≠ root → way = [] := by
    intro way hway hne
    rcases List.prefix_cons_iff.1 hway with hnil | ⟨rest, rfl, hrest⟩
    · exact hnil
    · rw [List.prefix_nil.1 hrest] at hne
      exact absurd rfl hne
  intro way hway hne
  have hempty : way = [] := by
    unfold start at hway hne
    split at hway
    next hfrom => exact hroot way hway (by rwa [if_pos hfrom] at hne)
    next => exact List.prefix_nil.1 hway
  rw [hempty]
  rfl

theorem isWay_of_reached (h : t.Reached (place ++ names))
    (hnames : ∀ name ∈ names, isFileName name = true) : t.IsWay place names := by
  induction names generalizing place with
  | nil => trivial
  | cons name rest ih =>
    obtain ⟨hname, hrest⟩ := List.forall_mem_cons.1 hnames
    refine ⟨h place (List.prefix_append _ _) (by simp), hname, ih ?_ hrest⟩
    simpa using h

/-- A path without `..` that could hold a file leads to what another path finds at its place. -/
theorem has_of_locate {p : FilePath} (hp : FilePath.ofText? path = some p) (hdots : ".." ∉ p.names)
    (h : t.CanHold path p) {other : String} (hother : t.locate other = some (start p ++ p.names))
    (hfind : (t.find? (start p ++ p.names)).isSome) : t.has path = true := by
  obtain ⟨-, p', -, hwalk, -⟩ := locate_eq_some_iff.1 hother
  have hway := isWay_of_reached (reached_of_walk (reached_start t p') hwalk) h.isFileName
  have hlocate : t.locate path = some (start p ++ p.names) := by
    refine locate_eq_some_iff.2 ⟨h.isPathText, p, hp, (walk_eq_some_iff hdots).2 ⟨hway, rfl⟩, ?_⟩
    rw [h.namesFile]
    exact nofun
  rw [has, hlocate, Option.bind_some]
  exact hfind

/-- Where nothing is at a path without `..` that could hold a file, no file that can be read is at
its place, also when directories have been made. -/
theorem locate_ne_of_read? {p : FilePath} (hp : FilePath.ofText? path = some p)
    (hdots : ".." ∉ p.names) (h : t.CanHold path p) (hhas : t.has path = false) (hgrows : t.Grows u)
    {other : String} (hread : t.read? other = some text) : u.locate other ≠ u.locate path := by
  intro hsame
  obtain ⟨place, hlocate, hfind⟩ := read?_eq_some_iff.1 hread
  have hmoved := locate_mono (fun _ => hgrows.isDirectory) hlocate
  obtain ⟨-, p', hp', hwalk, -⟩ := locate_eq_some_iff.1 (hsame.symm.trans hmoved)
  obtain rfl : p = p' := Option.some.inj (hp.symm.trans hp')
  obtain rfl := ((walk_eq_some_iff hdots).1 hwalk).2
  have hfound := has_of_locate hp hdots h hlocate (by rw [hfind]; rfl)
  rw [hhas] at hfound
  cases hfound

end ClusterView.FileTree

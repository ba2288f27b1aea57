import ClusterView.Proofs.Config.RoundTrip
import ClusterView.Proofs.Files.Making

/-!
# Configuration files that are kept

What `Config.loadOrCreate` does to a file system (`Config.loadOrCreate_keeps`): where there is
something it changes nothing, and where there is nothing it creates a file that is read back as the
default configuration from then on. A file that can be read is changed only if the path leads to it
once the missing directories are made, for which the path has to go back by `..`.
-/

namespace ClusterView

namespace Config

variable {t u : FileTree} {path text : String} {c : Config}

/-! ## Runs -/

/-- What loading gives in a file system, and what it leaves there. -/
def loadIn (t : FileTree) (path : String) : Except ConfigError Config × FileTree :=
  (load path : ExceptT ConfigError (StateM FileTree) Config).run.run t

/-- What saving gives in a file system, and what it leaves there. -/
def saveIn (c : Config) (t : FileTree) (path : String) : Except ConfigError Unit × FileTree :=
  (c.save path : ExceptT ConfigError (StateM FileTree) Unit).run.run t

/-- What loading or creating gives in a file system, and what it leaves there. -/
def loadOrCreateIn (t : FileTree) (path : String) : Except ConfigError Config × FileTree :=
  (loadOrCreate path : ExceptT ConfigError (StateM FileTree) Config).run.run t

theorem loadIn_eq (t : FileTree) (path : String) : loadIn t path =
    ((match t.read? path with
      | some text => parse text
      | none => .error .inaccessible), t) := by
  have hrun : (readText path : StateM FileTree (Option String)).run t = (t.read? path, t) := rfl
  unfold loadIn load
  simp only [ExceptT.run_bind, ExceptT.run_liftM, StateT.run_bind, StateT.run_map, hrun]
  cases t.read? path <;> rfl

theorem saveIn_eq (c : Config) (t : FileTree) (path : String) : c.saveIn t path =
    if (t.makeParents path).1 then
      (if ((t.makeParents path).2.write path c.toText).1 then .ok () else .error .inaccessible,
        ((t.makeParents path).2.write path c.toText).2)
    else (.error .inaccessible, (t.makeParents path).2) := by
  unfold saveIn save
  rcases hmade : t.makeParents path with ⟨made, v⟩
  have hparents : (makeParents path : StateM FileTree Bool).run t = (made, v) := hmade
  simp only [ExceptT.run_bind, ExceptT.run_liftM, StateT.run_bind, StateT.run_map, hparents]
  cases made with
  | false => rfl
  | true =>
    rcases hwritten : v.write path c.toText with ⟨written, w⟩
    have hwrite : (writeText path c.toText : StateM FileTree Bool).run v = (written, w) := hwritten
    change ((do
      if !(← (writeText path c.toText : StateM FileTree Bool)) then
        throw ConfigError.inaccessible : ExceptT ConfigError (StateM FileTree) Unit).run.run v) = _
    simp only [ExceptT.run_bind, ExceptT.run_liftM, StateT.run_bind, StateT.run_map, hwrite]
    cases written <;> rfl

theorem loadOrCreateIn_eq (t : FileTree) (path : String) : loadOrCreateIn t path =
    if t.has path then loadIn t path
    else ((saveIn {} t path).1.map fun _ => {}, (saveIn {} t path).2) := by
  have hexists : (pathExists path : StateM FileTree Bool).run t = (t.has path, t) := rfl
  unfold loadOrCreateIn loadOrCreate
  simp only [ExceptT.run_bind, ExceptT.run_liftM, StateT.run_bind, StateT.run_map, hexists]
  cases t.has path with
  | true => rfl
  | false =>
    rcases hsaved : saveIn {} t path with ⟨result, u⟩
    have hsave : (save {} path : ExceptT ConfigError (StateM FileTree) Unit).run.run t =
      (result, u) := hsaved
    change ((do
      let c : Config := {}
      c.save path
      return c : ExceptT ConfigError (StateM FileTree) Config).run.run t) = _
    simp only [ExceptT.run_bind, StateT.run_bind, hsave]
    cases result <;> rfl

/-! ## Saving -/

/-- Saving makes directories, and then it writes the file or fails. -/
theorem saveIn_cases (c : Config) (t : FileTree) (path : String) : ∃ v, t.Grows v ∧
    ((∃ u, v.write path c.toText = (true, u) ∧ t.canMake path c.toText = true ∧
        c.saveIn t path = (.ok (), u)) ∨
      t.canMake path c.toText = false ∧ c.saveIn t path = (.error .inaccessible, v)) := by
  refine ⟨_, t.grows_makeParents path, ?_⟩
  rw [saveIn_eq, FileTree.canMake]
  cases hmade : (t.makeParents path).1 with
  | false => exact .inr ⟨rfl, rfl⟩
  | true =>
    cases hwritten : ((t.makeParents path).2.write path c.toText).1 with
    | false => exact .inr ⟨rfl, by rw [FileTree.write_of_false hwritten]; rfl⟩
    | true => exact .inl ⟨_, Prod.ext hwritten rfl, rfl, rfl⟩

/-- A saved configuration is read back. -/
theorem loadIn_of_saveIn (h : c.saveIn t path = (.ok (), u)) :
    u.read? path = some c.toText ∧ loadIn u path = (.ok c, u) := by
  obtain ⟨v, -, ⟨w, hwrite, -, hsave⟩ | ⟨-, hsave⟩⟩ := c.saveIn_cases t path
  · obtain ⟨-, rfl⟩ := Prod.mk.inj (h.symm.trans hsave)
    have hread := FileTree.read?_write hwrite
    refine ⟨hread, ?_⟩
    rw [loadIn_eq, hread]
    simp only [parse_toText]
  · rw [hsave] at h
    cases h

/-! ## Loading or creating -/

theorem has_of_read? (h : t.read? path = some text) : t.has path = true := by
  obtain ⟨place, hlocate, hfind⟩ := FileTree.read?_eq_some_iff.1 h
  rw [FileTree.has, hlocate, Option.bind_some, hfind]
  rfl

theorem loadOrCreateIn_of_has (h : t.has path = true) :
    loadOrCreateIn t path = ((loadIn t path).1, t) := by
  rw [loadOrCreateIn_eq, if_pos h, loadIn_eq]

/-- What loading or creating gives and leaves where there was nothing. -/
structure Created (t : FileTree) (path : String) (result : Except ConfigError Config)
    (u : FileTree) : Prop where
  /-- It gives the default configuration if the directories around the file and the file can be
  made. -/
  result_eq : result = if t.canMake path (toText {}) then .ok {} else .error .inaccessible
  /-- A file that could be read is still there, unless the path leads to it now. -/
  kept {other text : String} (h : t.read? other = some text) :
    u.read? other = some text ∨ result = .ok {} ∧ u.locate other = u.locate path
  /-- The file that was created is read from then on, after any number of runs at any paths. -/
  later (h : result = .ok {}) (paths : List String) :
    let v := paths.foldl (fun v other => (loadOrCreateIn v other).2) u
    loadOrCreateIn v path = (.ok {}, v)
  /-- For a path that does not go back it depends on the files in the way whether the file can be
  made, and no file that could be read changes. -/
  plain {p : FilePath} (hp : FilePath.ofText? path = some p) (hdots : ".." ∉ p.names) :
    (result = .ok {} ↔ t.CanHold path p) ∧
      ∀ other text, t.read? other = some text → u.read? other = some text

/-- Once the default configuration is read at a path, it is read there whatever is loaded or created
next. -/
theorem read?_loadOrCreateIn (h : t.read? path = some (toText {})) (other : String) :
    (loadOrCreateIn t other).2.read? path = some (toText {}) := by
  rw [loadOrCreateIn_eq]
  split
  next => rwa [loadIn_eq]
  next =>
    obtain ⟨v, hgrows, ⟨u, hwrite, -, hsave⟩ | ⟨-, hsave⟩⟩ := saveIn_cases {} t other
    · rw [hsave]
      have hread := FileTree.read?_of_grows hgrows h
      by_cases hsame : u.locate path = u.locate other
      · have hwritten := FileTree.read?_write hwrite
        rwa [FileTree.read?, ← hsame] at hwritten
      · exact (FileTree.read?_of_write hwrite hsame).trans hread
    · rw [hsave]
      exact FileTree.read?_of_grows hgrows h

theorem read?_foldl_loadOrCreateIn (h : t.read? path = some (toText {})) (paths : List String) :
    (paths.foldl (fun v other => (loadOrCreateIn v other).2) t).read? path =
      some (toText {}) := by
  induction paths generalizing t with
  | nil => exact h
  | cons other rest ih => exact ih (read?_loadOrCreateIn h other)

theorem loadOrCreateIn_of_read? (h : t.read? path = some c.toText) :
    loadOrCreateIn t path = (.ok c, t) := by
  rw [loadOrCreateIn_of_has (has_of_read? h), loadIn_eq, h]
  simp only [parse_toText]

theorem created_loadOrCreateIn (h : t.has path = false) :
    Created t path (loadOrCreateIn t path).1 (loadOrCreateIn t path).2 := by
  have hcreate : loadOrCreateIn t path =
      ((saveIn {} t path).1.map fun _ => {}, (saveIn {} t path).2) := by
    rw [loadOrCreateIn_eq, h]
    rfl
  rw [hcreate]
  obtain ⟨v, hgrows, ⟨u, hwrite, hmake, hsave⟩ | ⟨hmake, hsave⟩⟩ := saveIn_cases {} t path
  · rw [hsave]
    have hframe : ∀ {other text : String}, u.locate other ≠ u.locate path →
        t.read? other = some text → u.read? other = some text := fun hne hread =>
      (FileTree.read?_of_write hwrite hne).trans (FileTree.read?_of_grows hgrows hread)
    refine ⟨by rw [hmake]; rfl, fun {other text} hread => ?_, fun _ paths => ?_,
      fun {p} hp hdots => ?_⟩
    · by_cases hsame : u.locate other = u.locate path
      · exact .inr ⟨rfl, hsame⟩
      · exact .inl (hframe hsame hread)
    · exact loadOrCreateIn_of_read?
        (read?_foldl_loadOrCreateIn (FileTree.read?_write hwrite) paths)
    · have hhold := (FileTree.canMake_iff hp hdots).1 hmake
      refine ⟨iff_of_true rfl hhold, fun other text hread => hframe ?_ hread⟩
      rw [FileTree.locate_of_write hwrite, FileTree.locate_of_write hwrite]
      exact FileTree.locate_ne_of_read? hp hdots hhold h hgrows hread
  · rw [hsave]
    refine ⟨by rw [hmake]; rfl, fun hread => .inl (FileTree.read?_of_grows hgrows hread), nofun,
      fun {p} hp hdots => ⟨iff_of_false nofun fun hhold => ?_,
        fun _ _ hread => FileTree.read?_of_grows hgrows hread⟩⟩
    rw [(FileTree.canMake_iff hp hdots).2 hhold] at hmake
    cases hmake

/-! ## Keeping -/

/-- A configuration is read back from its text and from where it is saved. Loading or creating one
changes nothing where there is something, and where there is nothing it creates the default one. -/
theorem loadOrCreate_keeps :
    (∀ c : Config, parse c.toText = .ok c) ∧
    (∀ (c : Config) (t : FileTree) (path : String) (u : FileTree),
      c.saveIn t path = (.ok (), u) → u.read? path = some c.toText ∧ loadIn u path = (.ok c, u)) ∧
    ∀ (t : FileTree) (path : String),
      (t.has path = true → loadOrCreateIn t path = ((loadIn t path).1, t)) ∧
      (t.has path = false →
        Created t path (loadOrCreateIn t path).1 (loadOrCreateIn t path).2) :=
  ⟨parse_toText, fun _ _ _ _ => loadIn_of_saveIn, fun _ _ =>
    ⟨loadOrCreateIn_of_has, created_loadOrCreateIn⟩⟩

/-- A directory cannot be made where there is a file, and a path that goes back from a directory
that was missing leads to a configuration that is there. -/
theorem loadOrCreate_replaces :
    let t := FileTree.ofFiles [("settings", "x")]
    let u := FileTree.ofFiles [("kept.yaml", toText { inNamespace := "apps" })]
    (t.has "settings/config.yaml" = false ∧
      (loadOrCreateIn t "settings/config.yaml").1 = .error .inaccessible) ∧
    u.has "new/../kept.yaml" = false ∧ (loadIn u "kept.yaml").1 = .ok { inNamespace := "apps" } ∧
      (loadIn (loadOrCreateIn u "new/../kept.yaml").2 "kept.yaml").1 = .ok {} := by
  intro t u
  have hbefore : u.read? "kept.yaml" = some (toText { inNamespace := "apps" }) := rfl
  have hafter : (loadOrCreateIn u "new/../kept.yaml").2.read? "kept.yaml" = some (toText {}) := rfl
  refine ⟨⟨rfl, rfl⟩, rfl, ?_, ?_⟩
  · rw [loadIn_eq, hbefore]
    exact parse_toText _
  · rw [loadIn_eq, hafter]
    exact parse_toText _

end Config

end ClusterView

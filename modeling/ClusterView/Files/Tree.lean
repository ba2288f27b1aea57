import ClusterView.Files.Access
import ClusterView.Files.Path

/-!
# File trees

A `FileTree` is the state of a file system below a working directory: texts and directories under
their places. Directories on the way of a path have to be there, and nothing is where a name cannot
be given to a file.
-/

namespace ClusterView

/-- What is at a place. -/
inductive FileEntry where
  | file (text : String)
  | directory
deriving DecidableEq

/-- A place: the names on the way from the working directory, or from the root after a slash. -/
abbrev Place := List String

/-- The places of a file system that are in use. -/
structure FileTree where
  entries : List (Place × FileEntry) := []

namespace FileTree

/-- The place of the root directory. -/
def root : Place := ["/"]

/-- What is at a place; the root and the working directory are always there. -/
def find? (t : FileTree) (place : Place) : Option FileEntry :=
  if place = [] || place = root then some .directory else t.entries.lookup place

/-- Puts an entry at a place. -/
def insert (t : FileTree) (place : Place) (entry : FileEntry) : FileTree :=
  ⟨(place, entry) :: t.entries⟩

/-- Whether there is a directory at a place. -/
def isDirectory (t : FileTree) (place : Place) : Bool := t.find? place == some .directory

/-- The place next to a directory that a name leads to. -/
def next (place : Place) (name : String) : Place :=
  if name = ".." then if place = root then root else place.dropLast else place ++ [name]

/-- The place that names lead to; all on the way have to be directories. -/
def walk (t : FileTree) (place : Place) : List String → Option Place
  | [] => some place
  | name :: rest =>
    if t.isDirectory place && isFileName name then walk t (next place name) rest else none

/-- Where a path begins. -/
def start (p : FilePath) : Place := if p.fromRoot then root else []

/-- The place of a path. -/
def locate (t : FileTree) (path : String) : Option Place := do
  guard (isPathText path)
  let p ← FilePath.ofText? path
  let place ← t.walk (start p) p.names
  guard (!p.namesDirectory || t.isDirectory place)
  some place

/-- The text of the file of a path. -/
def read? (t : FileTree) (path : String) : Option String :=
  match (t.locate path).bind t.find? with
  | some (.file text) => some text
  | _ => none

/-- Whether there is something at a path. -/
def has (t : FileTree) (path : String) : Bool := ((t.locate path).bind t.find?).isSome

/-- Makes the directories on a way, as far as no file is in it and they can have their names; says
whether all are there now. -/
def makeWay (t : FileTree) (place : Place) : List String → Bool × FileTree
  | [] => (true, t)
  | name :: rest =>
    let place := next place name
    match t.find? place with
    | some .directory => makeWay t place rest
    | some (.file _) => (false, t)
    | none => if isFileName name then makeWay (t.insert place .directory) place rest else (false, t)

/-- Makes the directories on the way of some names of a path. -/
def makeNames (t : FileTree) (p : FilePath) (names : List String) : Bool × FileTree :=
  if isPathText (String.intercalate "/" names) then t.makeWay (start p) names else (false, t)

/-- Makes the directory of a path and those around it. -/
def makeDirectory (t : FileTree) (path : String) : Bool × FileTree :=
  match FilePath.ofText? path with
  | none => (true, t)
  | some p => t.makeNames p p.names

/-- Makes the directories around the file of a path. -/
def makeParents (t : FileTree) (path : String) : Bool × FileTree :=
  match FilePath.ofText? path with
  | none => (true, t)
  | some p => t.makeNames p p.names.dropLast

/-- Writes the file of a path, unless there is a directory. -/
def write (t : FileTree) (path text : String) : Bool × FileTree :=
  match t.locate path with
  | none => (false, t)
  | some place =>
    if t.isDirectory place then (false, t) else (true, t.insert place (.file text))

/-- The tree of some files, with the directories around them. -/
def ofFiles (files : List (String × String)) : FileTree :=
  files.foldl (fun t f => ((t.makeParents f.1).2.write f.1 f.2).2) {}

instance : FileAccess (StateM FileTree) where
  readText path := fun t => (t.read? path, t)
  pathExists path := fun t => (t.has path, t)
  makeDirectory path := fun t => t.makeDirectory path
  makeParents path := fun t => t.makeParents path
  writeText path text := fun t => t.write path text

end FileTree

end ClusterView

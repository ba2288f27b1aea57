/-!
# Access to files

What the program asks of a file system. What cannot be done is reported and changes nothing but the
directories made on the way.
-/

namespace ClusterView

/-- A monad in which files can be read and written. -/
class FileAccess (m : Type → Type) where
  /-- The text of a file, unless it cannot be read. -/
  readText : String → m (Option String)
  /-- Whether there is a file or a directory. -/
  pathExists : String → m Bool
  /-- Makes a directory and those around it, and says whether it is there now. -/
  makeDirectory : String → m Bool
  /-- Makes the directories around a file, and says whether they are there now. -/
  makeParents : String → m Bool
  /-- Writes a file, replacing its text, and says whether it was written. -/
  writeText : String → String → m Bool

export FileAccess (readText pathExists makeDirectory makeParents writeText)

end ClusterView

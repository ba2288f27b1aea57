import ClusterView.Text.Split

/-!
# Paths of files

A path is a text whose parts are separated by slashes. Empty parts and single dots name nothing; a
path that ends in one names a directory.
-/

namespace ClusterView

/-- The path of a name in a directory. -/
def joinPath (directory name : String) : String :=
  if directory = "" || Text.endsWith directory "/" then directory ++ name
  else directory ++ "/" ++ name

/-- A path by its parts. -/
structure FilePath where
  /-- Whether the path begins at the root directory. -/
  fromRoot : Bool
  /-- The names on the way. -/
  names : List String
  /-- Whether the last part can only name a directory. -/
  namesDirectory : Bool
deriving DecidableEq

/-- Whether a text can be a path at all: it has no null character and less than 4096 bytes. -/
def isPathText (s : String) : Bool := !s.toList.contains '\x00' && s.utf8ByteSize < 4096

/-- Whether a part of a path can name a file: it has at most 255 bytes. -/
def isFileName (part : String) : Bool := part.utf8ByteSize ≤ 255

namespace FilePath

/-- Whether a part of a path names nothing. -/
def isVoid (part : String) : Bool := part = "" || part = "."

/-- The path of a text; the empty text is none. -/
def ofText? (s : String) : Option FilePath :=
  if s = "" then none
  else
    let parts := Text.splitAll '/' s
    some
      { fromRoot := Text.startsWith s "/"
        names := parts.filter fun part => !isVoid part
        namesDirectory := parts.getLast?.any fun part => isVoid part || part = ".." }

end FilePath

/-- The path of the directory of a file, unless that is the working directory or there is none. -/
def directoryPath? (path : String) : Option String := do
  let p ← FilePath.ofText? path
  let way := String.intercalate "/" p.names.dropLast
  let directory := if p.fromRoot then "/" ++ way else way
  guard (directory ≠ "")
  some directory

end ClusterView

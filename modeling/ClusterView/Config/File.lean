import ClusterView.Config.Basic
import ClusterView.Files.Access
import ClusterView.Files.Path

/-!
# Configuration files

`Config.loadOrCreate` reads the configuration of a file; where there is nothing it writes the
default configuration.
-/

namespace ClusterView

/-- Why there is no configuration. -/
inductive ConfigError where
  /-- The file cannot be read or written. -/
  | inaccessible
  /-- The text of the file is no configuration. -/
  | malformed
deriving DecidableEq

/-- The text of the error. -/
def ConfigError.message : ConfigError → String
  | .inaccessible => "cannot read/write configuration file"
  | .malformed => "cannot serialize/deserialize configuration"

namespace Config

/-- The path of the configuration file of a user. -/
def defaultPath (home : String) : String := joinPath (joinPath home ".kdash") "config.yaml"

/-- Reads the configuration of a text. -/
def parse (text : String) : Except ConfigError Config :=
  match ofText? text with
  | some c => .ok c
  | none => .error .malformed

variable {m : Type → Type} [Monad m] [FileAccess m]

/-- Reads the configuration of a file. -/
def load (path : String) : ExceptT ConfigError m Config := do
  match ← (readText path : m _) with
  | some text => ExceptT.mk (pure (parse text))
  | none => throw .inaccessible

/-- Writes a configuration to a file, in directories that are made if they are not there. -/
def save (c : Config) (path : String) : ExceptT ConfigError m Unit := do
  if !(← (makeParents path : m _)) then throw .inaccessible
  if !(← (writeText path c.toText : m _)) then throw .inaccessible

/-- Reads the configuration of a file, or writes the default one if there is nothing. -/
def loadOrCreate (path : String) : ExceptT ConfigError m Config := do
  if ← (pathExists path : m _) then load path
  else do
    let c : Config := {}
    c.save path
    return c

end Config

end ClusterView

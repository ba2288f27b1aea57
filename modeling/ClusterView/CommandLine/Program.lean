import ClusterView.CommandLine.Selection
import ClusterView.Config.File
import ClusterView.Link.Path
import ClusterView.Print.PluginList
import ClusterView.Print.Printer
import ClusterView.Store.Manifest
import ClusterView.Text.Whitespace

/-!
# The program

`Program.run` does what a command line asks for, in any monad with access to files: it reads the
configuration, or writes the default one, loads the manifests, and prints what is selected as JSON.
-/

namespace ClusterView

/-! ## Failures -/

/-- Why the program fails. -/
inductive Failure where
  /-- The filter of logs is malformed. -/
  | logFilter
  | config (error : ConfigError)
  | store (error : StoreError)
  | plugin (error : PluginError)
  | print (error : PrintError)
  /-- No object is selected. -/
  | noObject
  /-- No objects are selected for a list. -/
  | noObjects
deriving DecidableEq

/-- The text of a failure. -/
def Failure.message : Failure → String
  | .logFilter =>
    "error parsing level filter: expected one of \"off\", \"error\", \"warn\", \"info\", " ++
      "\"debug\", \"trace\", or a number 0-5"
  | .config e => e.message
  | .store e => e.message
  | .plugin e => e.message
  | .print e => e.message
  | .noObject => "no object matches the print arguments"
  | .noObjects => "no objects match the print arguments"

/-! ## Logs -/

/-- The path of the directory of the logs of an application. -/
def logsPath (home application : String) : String :=
  joinPath (joinPath home ("." ++ application)) "logs"

/-- The names of the levels of logs; none is one as well. -/
def logLevels : List String := ["", "off", "error", "warn", "info", "debug", "trace"]

/-- Whether a text is the number of a level of logs, from 0 to 5, with a plus sign or without. -/
def isLogLevelNumber (s : String) : Bool :=
  let digits :=
    match s.toList with
    | '+' :: rest => rest
    | cs => cs
  !digits.isEmpty && digits.all Char.isDigit &&
    digits.foldl (fun n d => 10 * n + (d.toNat - 48)) 0 ≤ 5

/-- Whether a directive of a filter names a level, if it names any. The level stands after the first
equals sign behind the brackets of a span. -/
def isLogDirective (directive : String) : Bool :=
  let target :=
    match Text.splitLast? ']' directive with
    | some (_, rest) => rest
    | none => directive
  match Text.splitFirst? '=' target with
  | some (_, level) =>
    let level := Text.trim level
    logLevels.contains level.toLower || isLogLevelNumber level
  | none => true

/-- Whether all directives of a filter are well-formed. -/
def isLogFilter (filter : String) : Bool := (Text.splitAll ',' filter).all isLogDirective

/-! ## Commands -/

namespace Program

/-- The options of printing that a configuration sets. -/
def printOptions (c : Config) (store : MemoryStore) : Except Failure PrintOptions := do
  let registry ← (PluginDeclaration.registry c.plugins).mapError .plugin
  return { store := store.toObjectStore
           link := pathLinks c.linkPrefix
           plugins := registry.toManager
           showLabels := c.showLabels
           showEvents := c.events }

/-- JSON text, with one item a line or without any blank. -/
def jsonText (pretty : Bool) (j : Json) : String := if pretty then j.pretty else j.compact

/-- Prints what is selected of the objects of manifest files, which are given by their texts. -/
def printObjects (c : Config) (a : PrintArguments) (files : List (Option String)) :
    Except Failure String := do
  let store ← (MemoryStore.ofFiles c.inNamespace files).mapError .store
  let o ← printOptions c store
  let component ←
    if a.list then
      match selectList store.objects a with
      | none => .error .noObjects
      | some (types, objects) =>
        (ClusterView.printList o types.apiVersion types.kind objects).mapError .print
    else
      match selectObject store.objects a with
      | none => .error .noObject
      | some object => (printObject o (some object)).mapError .print
  return jsonText a.pretty component.toJson

/-- Prints the declared plugins. -/
def printPlugins (c : Config) (pretty : Bool) : Except Failure String := do
  let o ← printOptions c .empty
  let content ← (describePlugins o).mapError .print
  return jsonText pretty content.toJson

variable {m : Type → Type} [Monad m] [FileAccess m]

/-- Runs a command under a configuration. -/
def runCommand (c : Config) : Command → ExceptT Failure m String
  | .print a => do
    let files ← a.files.mapM fun path => (readText path : m _)
    ExceptT.mk (pure (printObjects c a files))
  | .plugins pretty => ExceptT.mk (pure (printPlugins c pretty))

/-- Runs the program with its arguments. -/
def runArguments (home : String) (a : Arguments) : ExceptT Failure m String := do
  if !a.logFilter.all isLogFilter then throw .logFilter
  let path := a.config.getD (Config.defaultPath home)
  let c ← (Config.loadOrCreate path : ExceptT ConfigError m Config).adapt .config
  runCommand c a.command

end Program

/-! ## Runs -/

/-- What a run of the program leaves behind. -/
structure Outcome where
  /-- The exit code. -/
  code : Nat
  /-- The text printed. -/
  output : String := ""
  /-- The text of the error, if there is one to be told. -/
  error : Option String := none
deriving DecidableEq

/-- The name and the version of the program. -/
def versionText : String := "kdash 0.1.0\n"

/-- How to use the program. -/
def usageText : String :=
  "Usage: kdash [--config <path>] [--log-filter <filter>] <print|plugins> [options]\n"

/-- What a command line leaves behind that is not run. -/
def ArgumentError.outcome : ArgumentError → Outcome
  | .versionWanted => { code := 0, output := versionText }
  | .helpWanted => { code := 0, output := usageText }
  | _ => { code := 2 }

/-- Runs the program. The directory of logs is made before anything else. -/
def Program.run {m : Type → Type} [Monad m] [FileAccess m] (words : List String)
    (env : Environment) : m Outcome := do
  match Arguments.ofWords words env with
  | .error e => return e.outcome
  | .ok a =>
    if ← makeDirectory (logsPath env.home "kdash") then
      match ← (Program.runArguments env.home a : ExceptT Failure m String).run with
      | .ok output => return { code := 0, output := output ++ "\n" }
      | .error e => return { code := 1, error := some e.message }
    else return { code := 101 }

end ClusterView

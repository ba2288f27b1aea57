import ClusterView.CommandLine.Options
import ClusterView.Text.Split

/-!
# The arguments of the program

`Arguments.ofWords` reads the words of a command line: options of the program, the name of a
command, and the options of the command. What they do not set may be set by variables of the
environment.
-/

namespace ClusterView

/-! ## Arguments -/

/-- What the command that prints objects is told. -/
structure PrintArguments where
  /-- The manifest files. -/
  files : List String := []
  /-- The kind of the objects, which may follow an API version and a slash. -/
  kind : Option String := none
  name : Option String := none
  inNamespace : Option String := none
  /-- Whether a list is printed. -/
  list : Bool := false
  /-- Whether the output has one item a line. -/
  pretty : Bool := false
deriving DecidableEq

/-- The API version and the kind that are asked for. -/
def PrintArguments.splitKind (a : PrintArguments) : Option String × Option String :=
  match a.kind with
  | none => (none, none)
  | some s =>
    match Text.splitLast? '/' s with
    | some (apiVersion, kind) => (some apiVersion, some kind)
    | none => (none, some s)

/-- A command with its arguments. -/
inductive Command where
  /-- Prints objects of manifest files. -/
  | print (arguments : PrintArguments)
  /-- Prints the declared plugins. -/
  | plugins (pretty : Bool)
deriving DecidableEq

/-- The arguments of the program. -/
structure Arguments where
  /-- The path of the configuration file. -/
  config : Option String
  /-- What is logged. -/
  logFilter : Option String
  command : Command
deriving DecidableEq

/-- The variables that the program reads. -/
structure Environment where
  /-- The home directory. -/
  home : String
  config : Option String := none
  logFilter : Option String := none

/-! ## Reading -/

namespace Arguments

/-- The option that asks for help. -/
def helpRule : OptionRule := { long := "help", short := some 'h', kind := .help }

/-- The options of the program. -/
def programRules : OptionSet :=
  [{ long := "config", kind := .path }, { long := "log-filter", kind := .text }, helpRule,
   { long := "version", short := some 'V', kind := .version }]

/-- The options of the command that prints objects. -/
def printRules : OptionSet :=
  [{ long := "file", short := some 'f', kind := .paths }, { long := "kind", kind := .text },
   { long := "name", kind := .text }, { long := "namespace", short := some 'n', kind := .text },
   { long := "list", kind := .flag }, { long := "pretty", kind := .flag }, helpRule]

/-- The options of the command that prints plugins. -/
def pluginsRules : OptionSet := [{ long := "pretty", kind := .flag }, helpRule]

/-- Reads words that are options only. -/
def optionsOnly (rules : OptionSet) (words : List String) : Except ArgumentError Given := do
  match ← rules.read {} words with
  | (p, .nothing) => p.close
  | _ => .error .unknownArgument

/-- Reads the words of the command that prints objects. -/
def readPrint (words : List String) : Except ArgumentError Command := do
  let g ← optionsOnly printRules words
  if g.has "file" then
    return .print
      { files := g.values "file", kind := g.value? "kind", name := g.value? "name",
        inNamespace := g.value? "namespace", list := g.has "list", pretty := g.has "pretty" }
  else .error .missingArgument

/-- Reads the words of the command that prints plugins. -/
def readPlugins (words : List String) : Except ArgumentError Command := do
  let g ← optionsOnly pluginsRules words
  return .plugins (g.has "pretty")

/-- The error of asking for help on a command, if there is one. -/
def helpError (words : List String) : ArgumentError :=
  match words with
  | [] | ["print"] | ["plugins"] | ["help"] => .helpWanted
  | _ => .unknownCommand

/-- The reader of the words of a command. -/
def commandReader? (name : String) : Option (List String → Except ArgumentError Command) :=
  match name with
  | "print" => some readPrint
  | "plugins" => some readPlugins
  | "help" => some fun words => .error (helpError words)
  | _ => none

/-- The value of an option, or else that of a variable, which has to be a path if the option is. -/
def orVariable (g : Given) (long : String) (isPath : Bool) (fallback : Option String) :
    Except ArgumentError (Option String) :=
  match g.value? long, fallback with
  | some value, _ => .ok (some value)
  | none, some value => if isPath && value = "" then .error .invalidValue else .ok (some value)
  | none, none => .ok none

/-- Reads the words of a command line behind the name of the program. -/
def ofWords (words : List String) (env : Environment) : Except ArgumentError Arguments := do
  let (p, remaining) ← programRules.read {} words
  let command : Option Command ←
    match remaining with
    | .nothing => .ok none
    | .afterDashes word =>
      .error (if (commandReader? word).isSome then .unknownArgument else .unknownCommand)
    | .word word rest =>
      match commandReader? word with
      | none => .error .unknownCommand
      | some reader => some <$> reader rest
  let given ← p.close
  let config ← orVariable given "config" true env.config
  let logFilter ← orVariable given "log-filter" false env.logFilter
  match command with
  | some command => return { config, logFilter, command }
  | none => .error (if config.isNone && logFilter.isNone then .nothingGiven else .missingCommand)

end Arguments

end ClusterView

/-!
# Options of a command

A command is told by words. An option is named by a long name after two dashes, some by a letter
after one dash as well; its values follow as words of their own or in the same word.
`OptionSet.read` reads the options at the begin of some words, up to the first word that is none.
-/

namespace ClusterView

/-! ## Errors -/

/-- Why words are no command, or ask for something else. -/
inductive ArgumentError where
  /-- An option that has to be there is missing. -/
  | missingArgument
  /-- A word is neither an option nor a value. -/
  | unknownArgument
  /-- An option lacks its value, or the value is no path. -/
  | invalidValue
  /-- A word names no command. -/
  | unknownCommand
  | missingCommand
  /-- An option is given twice. -/
  | conflict
  /-- An option without values is given one. -/
  | unneededValue
  | helpWanted
  | versionWanted
  /-- No words are given. -/
  | nothingGiven
deriving DecidableEq

/-! ## Options -/

/-- What follows the name of an option. -/
inductive OptionKind where
  | flag
  /-- A text. -/
  | text
  /-- A path, which is not empty. -/
  | path
  /-- One or more paths, each time the option is given. -/
  | paths
  | help
  | version
deriving DecidableEq

/-- An option of a command. -/
structure OptionRule where
  long : String
  short : Option Char := none
  kind : OptionKind
deriving DecidableEq

/-- The options of a command. -/
abbrev OptionSet := List OptionRule

/-- The options given so far, with their values. -/
structure Given where
  options : List (String × List String) := []

namespace Given

/-- Whether an option was given. -/
def has (g : Given) (long : String) : Bool := g.options.any fun o => o.1 == long

/-- All values of an option. -/
def values (g : Given) (long : String) : List String :=
  (g.options.filter fun o => o.1 == long).flatMap (·.2)

/-- The value of an option. -/
def value? (g : Given) (long : String) : Option String := (g.values long).head?

/-- Adds an option with its values. -/
def add (g : Given) (rule : OptionRule) (values : List String) : Except ArgumentError Given :=
  let isPath := rule.kind = .path ∨ rule.kind = .paths
  if rule.kind = .help then .error .helpWanted
  else if rule.kind = .version then .error .versionWanted
  else if rule.kind ≠ .flag ∧ values.isEmpty then .error .invalidValue
  else if rule.kind ≠ .paths ∧ g.has rule.long then .error .conflict
  else if isPath ∧ values.contains "" then .error .invalidValue
  else .ok ⟨g.options ++ [(rule.long, values)]⟩

end Given

/-! ## Words -/

/-- An option whose values are being read. -/
structure OpenOption where
  rule : OptionRule
  values : List String := []

/-- What was read, with the option that still may have values. -/
structure Progress where
  given : Given := {}
  opened : Option OpenOption := none

namespace Progress

/-- What was given once no more values follow. -/
def close (p : Progress) : Except ArgumentError Given :=
  match p.opened with
  | none => .ok p.given
  | some o => p.given.add o.rule o.values

/-- Whether a word is taken as a value. -/
def takesValue (p : Progress) : Bool :=
  match p.opened with
  | none => false
  | some o => o.rule.kind = .paths || o.values.isEmpty

/-- Takes a word as a value. -/
def take (p : Progress) (word : String) : Progress :=
  { p with opened := p.opened.map fun o => { o with values := o.values ++ [word] } }

/-- Gives an option its values in the same word, or begins to read them. -/
def give (p : Progress) (rule : OptionRule) (value : Option String) :
    Except ArgumentError Progress := do
  let given ← p.close
  match rule.kind, value with
  | .text, none | .path, none | .paths, none => return { given, opened := some { rule } }
  | _, value => return { given := ← given.add rule value.toList }

end Progress

/-- Whether an option of a kind has values. -/
def OptionKind.hasValue : OptionKind → Bool
  | .text | .path | .paths => true
  | .flag | .help | .version => false

/-- The parts of a text before and after its first equals sign. -/
def splitValue (cs : List Char) : String × Option String :=
  match cs.span (· ≠ '=') with
  | (name, _ :: value) => (String.ofList name, some (String.ofList value))
  | (name, []) => (String.ofList name, none)

namespace OptionSet

/-- Reads a word behind its two dashes. -/
def readLong (rules : OptionSet) (p : Progress) (cs : List Char) : Except ArgumentError Progress :=
  let (name, value) := splitValue cs
  match rules.find? fun r => r.long == name with
  | none => .error .unknownArgument
  | some rule =>
    if !rule.kind.hasValue && value.isSome then .error .unneededValue else p.give rule value

/-- Reads letters behind their dash. What follows the letter of an option with values is its value,
with or without an equals sign between them. -/
def readShort (rules : OptionSet) (p : Progress) : List Char → Except ArgumentError Progress
  | [] => .ok p
  | c :: rest =>
    match rules.find? fun r => r.short == some c with
    | none => .error .unknownArgument
    | some rule =>
      if rule.kind.hasValue then
        p.give rule (match rest with
          | [] => none
          | '=' :: value => some (String.ofList value)
          | value => some (String.ofList value))
      else do readShort rules (← p.give rule none) rest

/-- What is left of some words behind their options. -/
inductive Remaining where
  | nothing
  /-- A word that is no option, and the words behind it. -/
  | word (word : String) (rest : List String)
  /-- A word behind two dashes that stand alone. -/
  | afterDashes (word : String)

/-- Reads the options at the begin of some words. -/
def read (rules : OptionSet) (p : Progress) :
    List String → Except ArgumentError (Progress × Remaining)
  | [] => .ok (p, .nothing)
  | word :: rest =>
    match word.toList with
    | ['-', '-'] =>
      match rest with
      | [] => .ok (p, .nothing)
      | next :: _ => .ok (p, .afterDashes next)
    | '-' :: '-' :: cs => do read rules (← readLong rules p cs) rest
    | '-' :: c :: cs => do read rules (← readShort rules p (c :: cs)) rest
    | _ => if p.takesValue then read rules (p.take word) rest else .ok (p, .word word rest)

end OptionSet

end ClusterView

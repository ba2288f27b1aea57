import ClusterView.CommandLine.Program

/-!
# The command line

`main` runs the program on the files of the machine, its arguments and its environment.
-/

namespace ClusterView

/-- Runs an action on files for its value, unless it fails. -/
def attempt {α : Type} (action : IO α) : IO (Option α) := do
  match ← action.toBaseIO with
  | .ok value => return some value
  | .error _ => return none

instance : FileAccess IO where
  readText path := attempt (IO.FS.readFile path)
  pathExists path := return (← attempt (IO.FS.realPath path)).isSome
  makeDirectory path := return (← attempt (IO.FS.createDirAll path)).isSome
  makeParents path :=
    match directoryPath? path with
    | none => return true
    | some directory => return (← attempt (IO.FS.createDirAll directory)).isSome
  writeText path text := return (← attempt (IO.FS.writeFile path text)).isSome

end ClusterView

open ClusterView

/-- Runs the program on the words of its command line. -/
def main (words : List String) : IO UInt32 := do
  let env : Environment :=
    { home := (← IO.getEnv "HOME").getD ""
      config := ← IO.getEnv "KDASH_CONFIG"
      logFilter := ← IO.getEnv "KDASH_LOG" }
  let outcome ← (Program.run words env : IO Outcome)
  IO.print outcome.output
  if let some error := outcome.error then IO.eprintln ("Error: " ++ error)
  if outcome.code = 2 then IO.eprint usageText
  return outcome.code.toUInt32

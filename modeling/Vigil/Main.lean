import Vigil.Batch.Launch

/-!
# The Program

The command line: it hands the arguments and the files that it finds to a launch, writes what comes
of it, and exits with its code. Nothing here can reach a network, so every check finds it
unreachable.
-/

namespace Vigil

/-- What stands at a path. -/
def readEntry (path : String) : IO PathEntry := do
  try
    return .file (← IO.FS.readBinFile path)
  catch e =>
    match e with
    | .inappropriateType _ _ _ => return .directory
    | _ => return .absent

/-- The paths that a command line may lead to, with what stands there. -/
def readEntries (args : List String) (home : Option String) : IO (List (String × PathEntry)) := do
  let given :=
    match CommandLine.read args with
    | .ok o => o.config.toList
    | .error _ => []
  (given ++ Config.searchPaths home).mapM fun path => do return (path, ← readEntry path)

end Vigil

open Vigil

/-- The program. -/
def main (args : List String) : IO UInt32 := do
  let home := (← IO.getEnv "HOME").filter (!·.isEmpty)
  let entries ← readEntries args home
  let launch := Launch.run args {
    entry := fun path => (entries.lookup path).getD .absent
    home
    network := .unreachable }
  IO.print launch.output
  IO.eprint launch.errors
  return UInt32.ofNat launch.code

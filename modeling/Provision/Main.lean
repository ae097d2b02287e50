import Provision.Program

/-!
# The command line

The outer layer: it takes the arguments, the variables that a run consults and the working directory,
runs the program, and writes what the run has printed. The run begins in a world that has nothing but
the working directory, so no program is started and nothing is fetched or saved; help, plans and their
dry runs are shown as they are, and the steps of other runs fail as they do where nothing is found.
-/

namespace Provision

def consultedVariables : IO (Dictionary Bytes Bytes) := do
  let entries ← Variable.consulted.filterMapM fun name => do
    return (← IO.getEnv name).map fun value => (Utf8.encode name, Utf8.encode value)
  return .ofPairs entries

def workingDirectory : IO Host.Place := do
  let path := (← IO.currentDir).toString
  return (Text.splitOn Host.Path.slash (Utf8.encode path)).filter (· ≠ [])

def runHere (arguments : List String) : IO UInt32 := do
  let directory ← workingDirectory
  let machine : Machine := { surroundings := { bindings := ← consultedVariables, directory } }
  let (status, after) := Program.run machine arguments { files := .leadingTo directory }
  (← IO.getStdout).write after.output
  (← IO.getStderr).write after.errorOutput
  return (status % 256).toNat.toUInt32

end Provision

def main (arguments : List String) : IO UInt32 :=
  Provision.runHere arguments

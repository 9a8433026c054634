import ScenarioBench.CommandLine.Program
import ScenarioBench.Files.Placement
import ScenarioBench.Rehearsal.Shell.Host

/-! The program.

It rehearses a command line on a tree of the files that the command line and the environment name.
Programs are those of the rehearsal's host, and no network is reached.
-/

set_option autoImplicit false

namespace ScenarioBench.Rehearsal

def names : List String :=
  Variable.jmxDomain ++ Variable.secondDomain ++ Variable.serviceCredentials ++
    [Variable.instanceId, Variable.serviceName, Variable.boundServices, "PATH"]

def environment : IO (List (Octets × Octets)) := do
  let found ← names.filterMapM fun name => do
    return (← IO.getEnv name).map fun value => (Octets.ofText name, Octets.ofText value)
  return found

def file? (name : String) : IO (Option Placement) := do
  try
    let content ← IO.FS.readBinFile name
    return some (.file (.ofText name) content.data.toList false)
  catch _ => return none

/-- The names that arguments may give to files. -/
def fileNames (arguments : List String) : List String :=
  arguments ++ arguments.filterMap fun argument => (Text.splitAtFirst "=" argument).map (·.2)

/-- The tree of the files of some names, below the working directory. -/
def tree (names : List String) : IO FileTree := do
  let here := Path.ofText (← IO.currentDir).toString
  let made := (FileTree.empty.makeDirectories here).toOption.getD .empty
  let inside := (made.rebase here).toOption.getD made
  return Placement.placeAll inside (← names.filterMapM file?)

end ScenarioBench.Rehearsal

open ScenarioBench in
def main (arguments : List String) : IO UInt32 := do
  let pairs ← Rehearsal.environment
  let surroundings : CommandLine.Surroundings :=
    { environment := .ofRawPairs pairs, runner := Rehearsal.Shell.Host.runner pairs
      network := Http.unreachable }
  let bound := (surroundings.environment.get? Variable.boundServices).toList
  -- Of the files of the system, only those that the program could be told to read are in the tree.
  let tree ← Rehearsal.tree (defaultConfigFile :: bound ++ Rehearsal.fileNames arguments)
  let outcome := CommandLine.run surroundings (.fresh tree) (arguments.map Octets.ofText)
  IO.print outcome.stdout
  IO.eprint outcome.stderr
  return UInt32.ofNat outcome.code

import ScenarioBench.Bench.Command
import ScenarioBench.Rehearsal.Shell.Interpreter

/-! A host on which commands run.

Its programs are the shell, the utilities and the scripts that stand in the tree. A command sees the
environment of the host, reads nothing, and changes the tree.
-/

set_option autoImplicit false

namespace ScenarioBench.Rehearsal.Shell

namespace Host

def depth : Nat := 20000

def number : Nat := 4000

def process : Process where
  channels := [(0, .outlet 0), (1, .inlet 1), (2, .inlet 2)]
  bindings := []
  functions := []
  aliases := []
  name := ""
  arguments := []
  number := number
  shell := number
  ancestors := []
  lastJob := none
  options := []
  status := 0
  innerStatus := 0
  line := 1
  functionLine := 0
  command := ""
  traps := []
  skip := none
  loops := 0
  outside := []
  optionIndex := 1
  optionPlace := none
  directory := "/"
  mask := 18
  hasLost := false
  isUnicode := false

def world (tree : FileTree) : World where
  tree := tree
  twins := []
  pipes := #["", "", ""]
  files := #[]
  clock := 0
  jobs := []
  next := number + 1
  signals := []
  inBackground := false

def shown (machine : Machine) (index : Nat) : String :=
  (Octetwise.toOctets (machine.pipes.getD index "")).lossy

def exitCode : Ending → Int
  | .exit status => status
  | .signal number => -(number : Int)

def hasNul (command : Command) : Bool :=
  command.program.toList.contains '\x00' || command.directory.octets.contains 0 ||
    command.arguments.any fun argument => argument.toList.contains '\x00'

/-- Run a command in a tree with an environment: its output and the tree after it. The output is
complete when nothing goes on in the background any more. -/
def run (environment : List (String × String)) (tree : FileTree) (command : Command) :
    Except OsError (Output × FileTree) := do
  if hasNul command then throw .nulInArgument
  let inside ← tree.rebase command.directory
  let carry := Interpreter.execute depth
  let arguments := command.arguments.map Octetwise.ofText
  let search := environment.lookup "PATH"
  -- A host that spawns, unlike a shell, does not fall back on reading the file as a script.
  match Program.find inside search (Octetwise.ofText command.program) [] with
  | .error .unknownFormat => throw .unknownFormat
  | _ => pure ()
  let doing : Doing (Except OsError Ending) := do
    let ending ← Interpreter.startNamed carry Interpreter.launchDepth search environment
      (Octetwise.ofText command.program) arguments
    -- The output is read up to its end, which only comes when no job holds it any more.
    Interpreter.await carry (Interpreter.printing carry) fun _ => true
    return ending
  let (result, after) := doing ⟨process, world inside⟩
  let ending ← result.toOption.getD (.ok (.exit 1))
  return (⟨shown after 1, shown after 2, exitCode ending⟩, after.tree.seenFrom tree.base)

/-- The runner of a host with an environment of octet pairs; a later pair replaces an earlier one
of the same name. -/
def runner (environment : List (Octets × Octets)) : CommandRunner := fun _ tree command =>
  let settings := environment.reverse.map fun (name, value) =>
    (Octetwise.ofOctets name, Octetwise.ofOctets value)
  match run settings tree command with
  | .ok (output, after) => { outcome := .ok output, tree := after, cancels := false }
  | .error cause => { outcome := .error cause, tree := tree, cancels := false }

end Host

end ScenarioBench.Rehearsal.Shell

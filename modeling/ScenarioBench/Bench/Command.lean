import ScenarioBench.Files.Tree
import ScenarioBench.Vocabulary.Target
import ScenarioBench.Text.Search

/-! External commands.

A command is started with arguments in a directory and runs to its end. What it then answers and
does to the directory tree may depend on everything that happened before, so a command runner is a
function of the commands issued earlier and of the tree.
-/

set_option autoImplicit false

namespace ScenarioBench

structure Command where
  program : String
  arguments : List String
  directory : Path
  deriving DecidableEq, Repr

/-- What a finished command printed, and its exit code; a command that signal `n` ended has exit
code `-n`. -/
structure Output where
  stdout : String
  stderr : String
  exitCode : Int
  deriving DecidableEq, Repr, Inhabited

namespace Output

def success (output : Output) : Bool :=
  output.exitCode = 0

@[simp] theorem success_iff (output : Output) : output.success = true ↔ output.exitCode = 0 :=
  decide_eq_true_iff

def shows (output : Output) (marker : String) : Bool :=
  Text.contains output.stdout marker

end Output

/-- What issuing a command leads to: its output or the reason why it did not start, the tree after
it, and whether the run was cancelled meanwhile. -/
structure Reaction where
  outcome : Except OsError Output
  tree : FileTree
  cancels : Bool

abbrev CommandRunner := List Command → FileTree → Command → Reaction

def Target.arguments (target : Target) (extra : List String) : List String :=
  target.spelling :: extra

end ScenarioBench

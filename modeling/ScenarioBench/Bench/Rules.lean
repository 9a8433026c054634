import ScenarioBench.Bench.Command
import ScenarioBench.Files.Placement

/-! Commands that answer by rules.

No process is started. A command is answered by the first rule that has uses left and names the
command's first argument or the last segment of its program; a command without a rule succeeds and
prints nothing.
-/

set_option autoImplicit false

namespace ScenarioBench

structure Rule where
  name : String
  /-- How many commands the rule answers; `none` for any number. -/
  uses : Option Nat
  output : Output
  writes : List Placement
  cancels : Bool
  spawnFails : Bool

namespace Rule

def applies (command : Command) (rule : Rule) : Bool :=
  rule.uses ≠ some 0 &&
    (command.arguments.head? = some rule.name || Path.lastSegment command.program = rule.name)

def spend (command : Command) : List Rule → List Rule
  | [] => []
  | rule :: rest =>
    if rule.applies command then { rule with uses := rule.uses.map (· - 1) } :: rest
    else rule :: spend command rest

def react (rule : Rule) (tree : FileTree) (command : Command) : Reaction where
  outcome := if rule.spawnFails then .error .notFound else .ok rule.output
  tree := Placement.placeAll tree (rule.writes.map (.below command.directory))
  cancels := rule.cancels

def runner (rules : List Rule) : CommandRunner := fun earlier tree command =>
  -- The rules are spent anew from the commands so far: a runner keeps no state of its own.
  let left := earlier.foldl (fun rules issued => spend issued rules) rules
  match left.find? (applies command) with
  | some rule => rule.react tree command
  | none => { outcome := .ok ⟨"", "", 0⟩, tree := tree, cancels := false }

end Rule

end ScenarioBench

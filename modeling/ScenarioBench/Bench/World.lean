import ScenarioBench.Bench.Action
import ScenarioBench.Bench.Command
import ScenarioBench.Bench.Failure
import ScenarioBench.Bench.Journal
import ScenarioBench.Http.Message

/-! The world that scenarios and submissions act on.

Commands and requests are recorded as they are made, oldest first.
-/

set_option autoImplicit false

namespace ScenarioBench

structure World where
  tree : FileTree
  cancelled : Bool
  commands : List Command
  requests : List Http.Request
  journal : List JournalEntry

namespace World

def fresh (tree : FileTree) : World :=
  { tree := tree, cancelled := false, commands := [], requests := [], journal := [] }

def Extends (before after : World) : Prop :=
  before.commands <+: after.commands

instance : Std.Refl Extends :=
  ⟨fun world => List.prefix_refl world.commands⟩

instance : Trans Extends Extends Extends :=
  ⟨fun first second => List.IsPrefix.trans first second⟩

def Silent (before after : World) : Prop :=
  after.commands = before.commands

instance : Std.Refl Silent :=
  ⟨fun _ => rfl⟩

instance : Trans Silent Silent Silent :=
  ⟨fun first second => Eq.trans second first⟩

theorem Silent.extends {before after : World} (silent : Silent before after) :
    before.Extends after :=
  ⟨[], (List.append_nil _).trans (Eq.symm silent)⟩

def answered (world : World) (command : Command) (reaction : Reaction) : World :=
  -- What was cancelled once stays so, whatever later commands answer.
  { world with
    tree := reaction.tree
    commands := world.commands ++ [command]
    cancelled := world.cancelled || reaction.cancels }

end World

abbrev Act (ε α : Type) := Action World ε α

namespace Act

variable {ε α : Type}

def changeTree (convert : OsError → ε) (change : FileTree → Except OsError (FileTree × α)) :
    Act ε α := fun world =>
  match change world.tree with
  | .ok (tree, value) => (.ok value, { world with tree := tree })
  | .error cause => (.error (convert cause), world)

theorem changeTree_follows {relation : World → World → Prop} [Std.Refl relation]
    (changed : ∀ world tree, relation world { world with tree := tree }) (convert : OsError → ε)
    (change : FileTree → Except OsError (FileTree × α)) :
    Action.Follows (changeTree convert change) relation := by
  intro world
  unfold changeTree
  split
  · exact changed world _
  · exact Std.Refl.refl world

theorem changeTree_silent (convert : OsError → ε)
    (change : FileTree → Except OsError (FileTree × α)) :
    Action.Follows (changeTree convert change) World.Silent :=
  changeTree_follows (fun _ _ => rfl) convert change

end Act

namespace CommandRunner

def reaction (runner : CommandRunner) (world : World) (command : Command) : Reaction :=
  runner world.commands world.tree command

def issue (runner : CommandRunner) (command : Command) : Act HarnessError Output := fun world =>
  let reaction := runner.reaction world command
  (reaction.outcome.mapError (.spawn command.program ·), world.answered command reaction)

/-- A relation that each single change of a world is in. -/
structure Steady (runner : CommandRunner) (relation : World → World → Prop) : Prop where
  tree : ∀ world tree, relation world { world with tree := tree }
  cancel : ∀ world, relation world { world with cancelled := true }
  command : ∀ world command, relation world (world.answered command (runner.reaction world command))

theorem Steady.issue {runner : CommandRunner} {relation : World → World → Prop}
    (steady : runner.Steady relation) (command : Command) :
    Action.Follows (runner.issue command) relation :=
  fun world => steady.command world command

theorem steady_extends (runner : CommandRunner) : runner.Steady World.Extends where
  tree world _ := List.prefix_refl world.commands
  cancel world := List.prefix_refl world.commands
  command world command := List.prefix_append world.commands [command]

theorem issue_extends (runner : CommandRunner) (command : Command) :
    Action.Follows (runner.issue command) World.Extends :=
  runner.steady_extends.issue command

theorem issue_error {runner : CommandRunner} {command : Command} {world : World}
    {cause : HarnessError} (failed : (runner.issue command world).1 = .error cause) :
    ∃ refused, cause = .spawn command.program refused := by
  simp only [issue] at failed
  rcases met : (runner.reaction world command).outcome with refused | output
  · rw [met] at failed
    exact ⟨refused, (Except.error.inj failed).symm⟩
  · rw [met] at failed
    cases failed

end CommandRunner

end ScenarioBench

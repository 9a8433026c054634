import ScenarioBench.Bench.Environment
import ScenarioBench.Bench.World
import ScenarioBench.CommandLine.Invocation
import ScenarioBench.Config
import ScenarioBench.Launch.Error

/-! What the commands of the bench work with.

A command acts on the world and prints lines; what it printed before an error stays printed.
-/

set_option autoImplicit false

namespace ScenarioBench.CommandLine

structure Surroundings where
  environment : Environment
  runner : CommandRunner
  network : Http.Network

inductive CommandError where
  | noTests
  | unknownScenario (name : String)
  | config (cause : ConfigError)
  | harness (cause : HarnessError)
  | launch (cause : LaunchError)
  deriving Repr

namespace CommandError

def noTestsMessage : String :=
  "Error: Must specify either a test or a file of test names."

def message : CommandError → String
  | noTests => noTestsMessage
  | unknownScenario name => "Error: unable to find scenario " ++ name
  | config cause => "Error: " ++ cause.message
  | harness cause => "Error: " ++ cause.message
  | launch cause => "Error: " ++ cause.message

end CommandError

structure Session where
  world : World
  printed : String

abbrev Serving (α : Type) := Action Session CommandError α

namespace Serving

def print (text : String) : Serving Unit :=
  modify fun session => { session with printed := session.printed ++ text }

def say (line : String) : Serving Unit :=
  print (line ++ "\n")

def within {ε α : Type} (convert : ε → CommandError) (act : Act ε α) : Serving α := fun session =>
  let (result, after) := act session.world
  (result.mapError convert, { session with world := after })

def settled {α : Type} (result : Except LaunchError α) : Serving α :=
  Action.settled (result.mapError .launch)

end Serving

end ScenarioBench.CommandLine

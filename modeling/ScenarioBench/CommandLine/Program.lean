import ScenarioBench.CommandLine.Commands

/-! The bench as a program: from arguments to what it prints and its exit code. -/

set_option autoImplicit false

namespace ScenarioBench.CommandLine

structure Outcome where
  code : Nat
  stdout : String
  stderr : String
  world : World

namespace Outcome

def programName : String := "streams-harness"

def usage : String :=
  "Usage: " ++ programName ++ " [--config FILE] <COMMAND> [ARGUMENTS]\n\nCommands: "
    ++ ", ".intercalate (commands.map (·.1)) ++ "\n"

def ofStop (world : World) (stop : Stop) : Outcome :=
  let (stdout, stderr) := match stop with
    | .help => (usage, "")
    | .version => (programName ++ " " ++ version ++ "\n", "")
    | _ => ("", usage)
  { code := stop.exitCode, stdout := stdout, stderr := stderr, world := world }

def ofResult (result : Except CommandError Bool) (session : Session) : Outcome :=
  let (code, stderr) := match result with
    | .ok true => (0, "")
    | .ok false => (1, "")
    | .error cause => (1, cause.message ++ "\n")
  { code := code, stdout := session.printed, stderr := stderr, world := session.world }

end Outcome

def serve (surroundings : Surroundings) (invocation : Invocation) : Serving Bool := do
  let tree := (← Action.look).world.tree
  let config ← Action.settled ((Config.load tree invocation.config).mapError .config)
  carryOut surroundings config invocation.request

def run (surroundings : Surroundings) (world : World) (arguments : List Octets) : Outcome :=
  match Invocation.ofArguments arguments with
  | .error stop => .ofStop world stop
  | .ok invocation =>
    let (result, session) := (serve surroundings invocation).perform ⟨world, ""⟩
    .ofResult result session

end ScenarioBench.CommandLine

import ScenarioBench.Launch.Compiler
import ScenarioBench.Launch.Submission

/-! Running jobs as executables on this machine.

The job is compiled to an executable, which runs to its end in its output directory. What it printed
is captured, whatever its exit code.
-/

set_option autoImplicit false

namespace ScenarioBench

structure Standalone where
  runner : CommandRunner
  compiler : Compiler

namespace Standalone

def command (executable : Path) (bundle : Bundle) (topology : Topology) : Command :=
  { program := executable.display, arguments := topology.parameterArguments
    directory := bundle.directory }

def submit (standalone : Standalone) (topology : Topology) (_config : ConfigMap) :
    Launching World Handle := do
  let bundle ← standalone.compiler.build standalone.runner topology true
  let world ← Action.look
  -- The job runs in its output directory, so its own path has to be made absolute before.
  let executable ← Action.settled ((world.tree.absolute bundle.executable).mapError .io)
  let output ← (standalone.runner.issue (command executable bundle topology)).mapError .harness
  return { context := .standalone, name := topology.name, jobId := none, output := some output }

/-- The submitter that runs jobs; a job that ran to its end needs no cancelling. -/
def submitter (standalone : Standalone) : Submitter World :=
  { context := .standalone, capturesOutput := true, submit := standalone.submit
    cancel := fun _ => return () }

end Standalone

end ScenarioBench

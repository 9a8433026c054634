import ScenarioBench.Bench.Environment
import ScenarioBench.Launch.Compiler
import ScenarioBench.Launch.JobId
import ScenarioBench.Launch.Submission

/-! Submitting to an instance with the instance tool.

The tool is given the bundle and prints the id of the job that it made, by which the job is cancelled.
-/

set_option autoImplicit false

namespace ScenarioBench

structure Streamtool where
  runner : CommandRunner
  compiler : Compiler
  program : String
  domain : String
  instanceId : String

namespace Streamtool

def ofEnvironment (runner : CommandRunner) (compiler : Compiler) (program : String)
    (environment : Environment) : Except LaunchError Streamtool := do
  let domain ← (environment.require Variable.domainId).mapError .harness
  let instanceId ← (environment.require Variable.instanceId).mapError .harness
  return { runner := runner, compiler := compiler, program := program, domain := domain
           instanceId := instanceId }

def address (tool : Streamtool) : List String :=
  ["-d", tool.domain, "-i", tool.instanceId]

def traceArguments (config : ConfigMap) : List String :=
  match config.text? JobOption.tracing with
  | some level => ["-C", "tracing=" ++ level]
  | none => []

def submitArguments (tool : Streamtool) (archive : String) (topology : Topology)
    (config : ConfigMap) : List String :=
  ["submitjob", archive] ++ tool.address ++ ["--jobname", topology.name]
    ++ traceArguments config ++ topology.parameterArguments.flatMap fun argument => ["-P", argument]

def cancelArguments (tool : Streamtool) (id : String) : List String :=
  ["canceljob"] ++ tool.address ++ [id]

/-- Run the tool; it refuses by another exit code than 0. -/
def run (tool : Streamtool) (arguments : List String) : Act LaunchError Output := do
  let output ← (tool.runner.issue
    { program := tool.program, arguments := arguments, directory := .ofText "." }).mapError .harness
  if output.success then return output
  else throw (.submit .distributed (.refused output.stderr))

def submit (tool : Streamtool) (topology : Topology) (config : ConfigMap) :
    Launching World Handle := do
  let bundle ← tool.compiler.build tool.runner topology false
  let output ← tool.run (tool.submitArguments bundle.archive.display topology config)
  return { context := .distributed, name := topology.name, jobId := JobId.ofOutput? output
           output := none }

def cancel (tool : Streamtool) (handle : Handle) : Launching World Unit := do
  match handle.jobId with
  | none => throw (.submit .distributed (.noJobId handle.name))
  | some id =>
    let _ ← tool.run (tool.cancelArguments id)
    return ()

def submitter (tool : Streamtool) : Submitter World :=
  { context := .distributed, capturesOutput := false, submit := tool.submit, cancel := tool.cancel }

end Streamtool

end ScenarioBench

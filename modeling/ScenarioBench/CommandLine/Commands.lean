import ScenarioBench.CommandLine.Session
import ScenarioBench.Launch.Check
import ScenarioBench.Launch.DryRun
import ScenarioBench.Launch.Sample
import ScenarioBench.Launch.Service
import ScenarioBench.Launch.Standalone
import ScenarioBench.Launch.Streamtool
import ScenarioBench.Run.Dispatch
import ScenarioBench.Run.TestList
import ScenarioBench.Scenario.Catalogue

/-! The commands of the bench as they are carried out.

Each command answers whether everything it looked at went well.
-/

set_option autoImplicit false

namespace ScenarioBench.CommandLine

variable (surroundings : Surroundings)

def dispatcher (settings : HarnessSettings) (timeout : Option Nat) : Dispatcher where
  registry := Catalogue.registry
  environment := surroundings.environment
  runner := surroundings.runner
  make := settings.make
  waiter := match timeout with
    | some seconds => settings.waiter.withTimeout (seconds * Waiter.nanosecondsPerSecond)
    | none => settings.waiter
  logArchives := settings.logArchives

/-- The names of a run: those of the command line, then those of the list. -/
def namesToRun (request : RunRequest) : Serving (List String) := do
  match request.file with
  | none => return request.tests
  | some file => do
    let tree := (← Action.look).world.tree
    let listed ← Action.settled ((TestList.read tree file).mapError .harness)
    return request.tests ++ listed

def runScenarios (settings : HarnessSettings) (request : RunRequest) : Serving Bool := do
  -- A list without names is as good as none, but it has to be read first.
  if request.tests.isEmpty && request.file.isNone then throw .noTests
  let names ← namesToRun request
  if names.isEmpty then throw .noTests
  let options : RunOptions :=
    { root := request.root.getD settings.root, stopOnFail := request.stopOnFail
      filter := request.filter }
  let session ← Action.look
  let run := (dispatcher surroundings settings request.timeout).runScenarios options names
  let (report, after) := run session.world
  set { session with world := after }
  let console : Console := { verbose := request.verbose, coloured := true }
  Serving.print (console.report report.events)
  return report.success

def targetLine (target : Target) : String :=
  Text.padRight 20 target.spelling ++ " " ++ target.summary
    ++ if target.mustSucceed then "" else " (may fail)"

def scenarioLines (scenarios : List Scenario) : List String :=
  let width := (scenarios.map fun scenario => scenario.name.utf8ByteSize).foldl max 0
  scenarios.map fun scenario =>
    Text.padRight width scenario.name ++ "  " ++ scenario.description

def list (targets : Bool) : Serving Bool := do
  let lines := if targets then Target.table.map targetLine
    else scenarioLines Catalogue.registry.scenarios
  lines.forM Serving.say
  return true

def checkScenario (name : String) : Serving Bool := do
  match Catalogue.registry.scenario? name with
  | none => throw (.unknownScenario name)
  | some scenario =>
    let missing := surroundings.environment.missing scenario.required
    Serving.say
      (name ++ if missing.isEmpty then " ok" else " missing " ++ ", ".intercalate missing)
    return missing.isEmpty

def checkEnvironment (names : List String) : Serving Bool := do
  let selected := if names.isEmpty then Catalogue.registry.keys else names
  return (← selected.mapM (checkScenario surroundings)).all id

def submitterTo (settings : LauncherSettings) (context : JobContext) (dryRun : Bool) :
    Serving (Submitter World) := do
  let compiler := Compiler.ofProgram settings.compiler settings.output
  let runner := surroundings.runner
  let environment := surroundings.environment
  let tree := (← Action.look).world.tree
  -- To show a submission takes neither an instance nor credentials.
  if dryRun then return DryRun.submitter context
  match context with
  | .distributed => do
    let tool ← Serving.settled
      (Streamtool.ofEnvironment runner compiler settings.streamtool environment)
    return tool.submitter
  | .service => do
    let service ← Serving.settled
      (Service.ofEnvironment runner surroundings.network compiler environment tree)
    return { service with verifyPeer := false }.submitter
  | .standalone =>
    let machine : Standalone := { runner := runner, compiler := compiler }
    return machine.submitter

def requireOutput (submitter : Submitter World) (job : String) : Serving Unit := do
  if !submitter.capturesOutput then
    throw (.launch (.submit submitter.context (.unverifiable job)))

def report (dryRun : Bool) (handle : Handle) : Serving Unit := do
  if dryRun then
    match handle.output with
    | some output => Serving.say output.stdout
    | none => return ()
  else match handle.jobId with
    | some id =>
      Serving.say ("Submitted " ++ handle.name ++ " to " ++ handle.context.spelling ++ " (job "
        ++ id ++ ")")
    | none => Serving.say ("Ran " ++ handle.name ++ " in " ++ handle.context.spelling)

def launch (settings : LauncherSettings) (sample : Sample) (target : LaunchTarget) :
    Serving Bool := do
  let plan ← Serving.settled (LaunchPlan.ofSample sample (target.toolkit.getD settings.toolkit))
  let context := target.context.getD settings.context
  let submitter ← submitterTo surroundings settings context target.dryRun
  let handles ← Serving.within .launch (plan.launch submitter)
  handles.forM (report target.dryRun)
  return true

def jobName (request : CompositeRequest) : String :=
  request.name.getD (((Composite.splitKind? request.kind).map (·.2)).getD request.kind)

/-- The parameters that a job gets without being asked for: on the service, its user. -/
def usualParameters (context : JobContext) (dryRun : Bool) :
    Serving (List (String × String)) := do
  if context = .service && !dryRun then
    let tree := (← Action.look).world.tree
    let binding ← Serving.settled (ServiceBinding.ofEnvironment surroundings.environment tree)
    return binding.userParameters
  else return []

def launchComposite (settings : LauncherSettings) (request : CompositeRequest)
    (target : LaunchTarget) : Serving Bool := do
  let context := target.context.getD settings.context
  let job ← Serving.settled (Topology.ofComposite (jobName request) request.kind)
  let usual ← usualParameters surroundings context target.dryRun
  let topology := (((job.addToolkit (target.toolkit.getD settings.toolkit)).addToolkits
    request.toolkits).setParameters usual).setParameters request.parameters
  let config := { JobConfig.empty with verifyPeer := some false, tracing := request.trace }
  let submitter ← submitterTo surroundings settings context target.dryRun
  -- Nothing is submitted whose output could not be looked at.
  if request.expect.isSome then requireOutput submitter topology.name
  let handle ← Serving.within .launch (submitter.submit topology config.toMap)
  report target.dryRun handle
  match request.expect with
  | none => return true
  | some marker => do
    Serving.settled (handle.verify marker)
    Serving.say (handle.name ++ " pass")
    return true

def checkSetup (settings : LauncherSettings) (request : VerifyRequest) (target : LaunchTarget) :
    CheckSetup :=
  let standard := CheckSetup.ofToolkit (target.toolkit.getD settings.toolkit)
  let setup := match request.testToolkit with
    | some toolkit => standard.withTestToolkit toolkit (List.cons_ne_nil _ _)
    | none => standard
  { setup with parameters := setup.parameters.insertMany request.parameters }

def showCheck (setup : CheckSetup) (context : JobContext) (check : CompositeCheck) :
    Serving Unit := do
  let showJob (context : JobContext) (topology : Topology) : Serving Unit := do
    Serving.say (← Serving.settled (DryRun.render context topology setup.config.toMap))
  let before ← Serving.settled (setup.before check)
  let test ← Serving.settled (setup.test check)
  before.forM (showJob .distributed)
  showJob context test
  Serving.say (check.jobName ++ " verification skipped (dry run)")

def runCheck (setup : CheckSetup) (tests jobs : Submitter World) (check : CompositeCheck) :
    Serving Bool := do
  let run := Action.attempt (check.run setup tests jobs)
  match ← Serving.within .launch run with
  | .ok () => do
    Serving.say (check.jobName ++ " pass")
    return true
  | .error cause => do
    Serving.say (check.jobName ++ " FAILED\n" ++ cause.message)
    return false

/-- Run checks, all of them if none is named. The test composites run on this machine unless said
otherwise, and the jobs that have to run before them on the instance. -/
def verify (settings : LauncherSettings) (request : VerifyRequest) (target : LaunchTarget) :
    Serving Bool := do
  let context := target.context.getD .standalone
  let checks := if request.checks.isEmpty then CompositeCheck.table else request.checks
  let setup := checkSetup settings request target
  if target.dryRun then
    checks.forM (showCheck setup context)
    return true
  let tests ← submitterTo surroundings settings context false
  checks.forM fun check => requireOutput tests check.jobName
  -- The instance is needed only for jobs that run before a check.
  let jobs ← if checks.any fun check => check.prelaunch?.isSome then
      submitterTo surroundings settings .distributed false
    else pure tests
  return (← checks.mapM (runCheck setup tests jobs)).all id

def carryOut (config : Config) : Request → Serving Bool
  | .run request => runScenarios surroundings config.harness request
  | .list targets => list targets
  | .checkEnvironment scenarios => checkEnvironment surroundings scenarios
  | .launch sample target => launch surroundings config.launcher sample target
  | .launchComposite request target =>
    launchComposite surroundings config.launcher request target
  | .verify request target => verify surroundings config.launcher request target

end ScenarioBench.CommandLine

import ScenarioBench.Run.Report
import ScenarioBench.Scenario.Basic

/-! Dispatching scenarios.

A name is looked up, then the scenario's directory, its environment and its reason to be skipped are
checked, in this order; only then its phases run. Teardown follows every setup that succeeded, and a
scenario whose phases all succeeded is followed by the target that removes build output.
-/

set_option autoImplicit false

namespace ScenarioBench

structure Dispatcher where
  registry : Registry
  environment : Environment
  runner : CommandRunner
  make : String
  waiter : Waiter
  logArchives : String

structure RunOptions where
  root : Path
  stopOnFail : Bool
  filter : Option String
  deriving Repr

/-- What a run has come to: the results in the order of dispatch, their counts, and the events
reported. -/
structure RunReport where
  results : List (String × ScenarioResult)
  summary : Summary
  events : List RunEvent

namespace RunReport

def opened (count : Nat) : RunReport :=
  ⟨[], .empty, [.collected count]⟩

def tell (report : RunReport) (event : RunEvent) : RunReport :=
  { report with events := report.events ++ [event] }

def take (report : RunReport) (name : String) (result : ScenarioResult) : RunReport where
  results := report.results ++ [(name, result)]
  summary := report.summary.record result
  events := report.events ++ [.completed name result 0]

def closed (report : RunReport) : RunReport :=
  report.tell (.finished report.summary 0)

def success (report : RunReport) : Bool :=
  report.summary.allPassed

end RunReport

namespace Dispatcher

def contextIn (dispatcher : Dispatcher) (workdir : Path) : Context where
  workdir := workdir
  environment := dispatcher.environment
  runner := dispatcher.runner
  make := dispatcher.make
  waiter := dispatcher.waiter
  logArchives := dispatcher.logArchives

/-- Perform the phases of a scenario. The error of the run comes before that of the teardown. -/
def phases (scenario : Scenario) (context : Context) : Act HarnessError Unit := do
  scenario.setup context
  -- Only a failed setup leaves at once; run and teardown are settled after both were made.
  let run ← Action.attempt (scenario.run context)
  let teardown ← Action.attempt (scenario.teardown context)
  Action.settled run
  Action.settled teardown
  context.makeClean

def drive (dispatcher : Dispatcher) (scenario : Scenario) (directory : Path) :
    Act HarnessError Unit := do
  let workdir ← Action.settled (((← Action.look).tree.absolute directory).mapError .io)
  phases scenario (dispatcher.contextIn workdir)

def resultOf : Except HarnessError Unit → ScenarioResult
  | .ok () => .passed
  | .error cause => .failed (.ofError cause)

/-- What decides a scenario before its phases run, or the scenario and its directory. -/
def gate (dispatcher : Dispatcher) (root : Path) (tree : FileTree) (name : String) :
    Except ScenarioResult (Scenario × Path) := do
  let some scenario := dispatcher.registry.scenario? name
    | .error (resultOf (.error (.unknownScenario name)))
  let directory := root.join (.ofText scenario.directory)
  unless tree.isDirectory directory do
    .error (resultOf (.error (.scenarioDirectory directory)))
  match dispatcher.environment.requireAll scenario.required with
  | .ok () => pure ()
  | .error cause => .error (resultOf (.error cause))
  match scenario.skipReason dispatcher.environment with
  | some reason => .error (.skipped reason)
  | none => .ok (scenario, directory)

def runScenario (dispatcher : Dispatcher) (root : Path) (name : String) :
    StateM World ScenarioResult := fun world =>
  match dispatcher.gate root world.tree name with
  | .error result => (result, world)
  | .ok (scenario, directory) =>
    let (result, after) := (dispatcher.drive scenario directory).perform world
    (resultOf result, after)

def select (options : RunOptions) (names : List String) : List String :=
  names.filter fun name => match options.filter with
    | some keyword => Text.contains name keyword
    | none => true

def runEach (dispatcher : Dispatcher) (options : RunOptions) :
    List String → RunReport → StateM World RunReport
  | [], report => pure report
  | name :: rest, report => do
    let report := report.tell (.started name)
    let result ← dispatcher.runScenario options.root name
    let report := report.take name result
    -- The result that stops the run is part of it; a skipped scenario stops nothing.
    if options.stopOnFail && result.isFailure then return report
    dispatcher.runEach options rest report

def runScenarios (dispatcher : Dispatcher) (options : RunOptions) (names : List String) :
    StateM World RunReport := do
  -- The count that is collected is of what was selected, not of what comes to run.
  let selected := select options names
  let report ← dispatcher.runEach options selected (.opened selected.length)
  return report.closed

end Dispatcher

end ScenarioBench

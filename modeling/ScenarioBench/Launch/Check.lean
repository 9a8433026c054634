import ScenarioBench.Launch.Submission

/-! Composite checks.

A check submits a test composite and looks for the pass marker in what the job printed. One check
first starts a job that crashes, so that there is a failure to report. Every job that a check started
is cancelled afterwards, whatever happened.
-/

set_option autoImplicit false

namespace ScenarioBench

inductive CompositeCheck where
  | metrics
  | logs
  | jobStatus
  deriving DecidableEq, Repr

namespace CompositeCheck

def table : List CompositeCheck :=
  [metrics, logs, jobStatus]

def spelling : CompositeCheck → String
  | metrics => "metrics"
  | logs => "logs"
  | jobStatus => "job-status"

def ofSpelling? (text : String) : Option CompositeCheck :=
  table.find? fun check => check.spelling == text

def jobName : CompositeCheck → String
  | metrics => "test_metrics_monitor"
  | logs => "test_logs_monitor"
  | jobStatus => "test_jobs_status_monitor"

def composite : CompositeCheck → String
  | metrics => Composite.testMetricsSource
  | logs => Composite.testLogsSource
  | jobStatus => Composite.testJobStatusSource

def prelaunch? : CompositeCheck → Option (String × String)
  | jobStatus => some ("SampleCrashApp", Composite.sampleCrashSource)
  | metrics | logs => none

end CompositeCheck

structure CheckSetup where
  toolkits : List Path
  /-- Parameters of the test composites; a job that runs before takes none. -/
  parameters : Dictionary String
  config : JobConfig

namespace CheckSetup

def ofToolkit (toolkit : Path) : CheckSetup :=
  { toolkits := [.ofText Composite.testToolkit, toolkit], parameters := .empty
    config := { JobConfig.empty with verifyPeer := some false } }

/-- The setup with another toolkit in the place of the first, which there has to be. -/
def withTestToolkit (setup : CheckSetup) (toolkit : Path) (_some : setup.toolkits ≠ []) :
    CheckSetup :=
  { setup with toolkits := setup.toolkits.set 0 toolkit }

def job (setup : CheckSetup) (name kind : String) : Except LaunchError Topology := do
  return (← Topology.ofComposite name kind).addToolkits setup.toolkits

def before (setup : CheckSetup) (check : CompositeCheck) : Except LaunchError (List Topology) :=
  match check.prelaunch? with
  | some (name, kind) => do return [← setup.job name kind]
  | none => .ok []

def test (setup : CheckSetup) (check : CompositeCheck) : Except LaunchError Topology := do
  return (← setup.job check.jobName check.composite).setParameters setup.parameters.entries

def topologies (setup : CheckSetup) (check : CompositeCheck) :
    Except LaunchError (List Topology) := do
  return (← setup.before check) ++ [← setup.test check]

end CheckSetup

structure Started (σ : Type) where
  handle : Handle
  submitter : Submitter σ

namespace Started

variable {σ : Type}

def submitAll (submitter : Submitter σ) (config : ConfigMap) :
    List Topology → StateM σ (List (Started σ) × Except LaunchError Unit)
  | [] => fun state => (([], .ok ()), state)
  | topology :: rest => fun state =>
    match submitter.submit topology config state with
    | (.error cause, after) => (([], .error cause), after)
    | (.ok handle, after) =>
      -- The handles are kept however the rest goes: what started has to be cancelled.
      let ((started, result), last) := submitAll submitter config rest after
      ((⟨handle, submitter⟩ :: started, result), last)

/-- Cancel jobs, the last started first; every cancel is tried, and the first error stays. -/
def cancelAll (started : List (Started σ)) : Launching σ Unit :=
  Action.firstError (started.reverse.map fun job => job.submitter.cancel job.handle)

end Started

namespace CompositeCheck

variable {σ : Type}

def submitAndVerify (check : CompositeCheck) (setup : CheckSetup) (tests jobs : Submitter σ) :
    StateM σ (List (Started σ) × Except LaunchError Unit) := fun state =>
  let config := setup.config.toMap
  match setup.before check, setup.test check with
  | .error cause, _ | _, .error cause => (([], .error cause), state)
  | .ok before, .ok test =>
    match Started.submitAll jobs config before state with
    | ((started, .error cause), after) => ((started, .error cause), after)
    | ((started, .ok ()), between) =>
      match tests.submit test config between with
      | (.error cause, after) => ((started, .error cause), after)
      | (.ok handle, after) => ((started ++ [⟨handle, tests⟩], handle.verify Marker.pass), after)

/-- Run a check and cancel everything that it started. Jobs that run before go to `jobs`, the test
composite goes to `tests`, which must capture output. -/
def run (check : CompositeCheck) (setup : CheckSetup) (tests jobs : Submitter σ) :
    Launching σ Unit := fun state =>
  if tests.capturesOutput then
    let ((started, outcome), between) := submitAndVerify check setup tests jobs state
    -- An error of the check goes before one of cancelling.
    let (cancelled, after) := Started.cancelAll started between
    (match outcome with
      | .ok () => cancelled
      | .error cause => .error cause, after)
  else (.error (.submit tests.context (.checkNeedsOutput check.jobName Marker.pass)), state)

end CompositeCheck

end ScenarioBench

import ScenarioBench.Launch.Submission

/-! Launch plans of the toolkit's samples. -/

set_option autoImplicit false

namespace ScenarioBench

inductive Sample where
  | systemMonitor
  | jobStatusMonitor
  | microservices
  deriving DecidableEq, Repr

namespace Sample

def table : List Sample :=
  [systemMonitor, jobStatusMonitor, microservices]

def spelling : Sample → String
  | systemMonitor => "system-monitor"
  | jobStatusMonitor => "job-status-monitor"
  | microservices => "microservices"

def ofSpelling? (text : String) : Option Sample :=
  table.find? fun sample => sample.spelling == text

def composites : Sample → List (String × String)
  | systemMonitor => [("SystemMonitorSample", Composite.systemMonitor)]
  | jobStatusMonitor =>
    [("JobStatusMonitorSample", Composite.jobStatusMonitor),
     ("CrashSample", Composite.jobStatusSample)]
  | microservices =>
    [("MetricsIngestService", Composite.metricsIngestService),
     ("JobStatusService", Composite.jobStatusService),
     ("FailedPEService", Composite.failedPEService)]

def toolkits : Sample → List Path
  | systemMonitor => [.ofText Composite.systemMonitorToolkit]
  | jobStatusMonitor => [.ofText Composite.jobStatusToolkit]
  | microservices => []

/-- The configuration of the jobs; samples connect to servers whose certificates are their own. -/
def config (sample : Sample) : JobConfig :=
  { JobConfig.empty with
    verifyPeer := some false
    tracing := if sample = microservices then some .info else none }

end Sample

structure LaunchPlan where
  jobs : List Topology
  config : JobConfig

namespace LaunchPlan

def ofSample (sample : Sample) (toolkit : Path) : Except LaunchError LaunchPlan := do
  let jobs ← sample.composites.mapM fun (name, kind) => do
    return (← Topology.ofComposite name kind).addToolkits (toolkit :: sample.toolkits)
  return { jobs := jobs, config := sample.config }

def launch {σ : Type} (plan : LaunchPlan) (submitter : Submitter σ) : Launching σ (List Handle) :=
  plan.jobs.mapM fun topology => submitter.submit topology plan.config.toMap

end LaunchPlan

end ScenarioBench

import ScenarioBench.Text.Search

/-! Names of composites.

A composite is named by its namespace and its own name with `::` between them. The launcher only
addresses composites with a namespace.
-/

set_option autoImplicit false

namespace ScenarioBench.Composite

def monitoringToolkit : String := "../com.ibm.streamsx.monitoring"
def testToolkit : String := "test_monitoring"

def metricsIngestService : String :=
  "com.ibm.streamsx.monitoring.metrics.services::MetricsIngestService"
def jobStatusService : String := "com.ibm.streamsx.monitoring.jobs.services::JobStatusService"
def failedPEService : String := "com.ibm.streamsx.monitoring.jobs.services::FailedPEService"

def systemMonitorToolkit : String :=
  "com.ibm.streamsx.monitoring.system.sample.SystemMonitorSource"
def systemMonitor : String :=
  "com.ibm.streamsx.monitoring.system.sample.SystemMonitorSource::Monitor"
def jobStatusToolkit : String := "com.ibm.streamsx.monitoring.jobs.sample.JobStatusMonitor"
def jobStatusMonitor : String :=
  "com.ibm.streamsx.monitoring.jobs.sample.JobStatusMonitor::Monitor"
def jobStatusSample : String :=
  "com.ibm.streamsx.monitoring.jobs.sample.JobStatusMonitor::SampleJob"

def testMetricsSource : String := "test.metrics::TestMetricsSource"
def testLogsSource : String := "test.system::TestLogsSource"
def testJobStatusSource : String := "test.jobs::TestJobStatusSource"
def sampleCrashSource : String := "test.jobs::SampleCrashSource"

def separator : List Char := [':', ':']

/-- Namespace and name around the last separator, if both are there. -/
def split? (kind : List Char) : Option (List Char × List Char) :=
  match Text.splitLast separator kind with
  | some (space, name) => if space.isEmpty || name.isEmpty then none else some (space, name)
  | none => none

/-- The stem of the bundle's file name: every separator becomes a period. -/
def stem (kind : List Char) : List Char :=
  Text.replaceRun ':' [':'] ['.'] kind

def splitKind? (kind : String) : Option (String × String) :=
  (split? kind.toList).map fun (space, name) => (String.ofList space, String.ofList name)

def bundleStem (kind : String) : String :=
  String.ofList (stem kind.toList)

end ScenarioBench.Composite

/-! The targets of the build tool that drive a scenario directory. -/

set_option autoImplicit false

namespace ScenarioBench

inductive Target where
  | all
  | build
  | clean
  | configure
  | configureJson
  | configureClean
  | startSample
  | stopSample
  | startMonitor
  | stopMonitor
  | startTestDomain
  | stopTestDomain
  deriving DecidableEq, Repr

namespace Target

def table : List Target :=
  [all, build, clean, configure, configureJson, configureClean, startSample, stopSample,
   startMonitor, stopMonitor, startTestDomain, stopTestDomain]

def spelling : Target → String
  | all => "all"
  | build => "build"
  | clean => "clean"
  | configure => "configure"
  | configureJson => "configure-json"
  | configureClean => "configure-clean"
  | startSample => "start-sample"
  | stopSample => "stop-sample"
  | startMonitor => "start-monitor"
  | stopMonitor => "stop-monitor"
  | startTestDomain => "start-test-domain"
  | stopTestDomain => "stop-test-domain"

def summary : Target → String
  | all => "Build every application of the scenario"
  | build => "Build the scenario applications without configuring"
  | clean => "Remove generated build output"
  | configure => "Create the application configuration holding the JMX credentials"
  | configureJson => "Create the application configuration including the filter document"
  | configureClean => "Remove the application configuration"
  | startSample => "Submit the monitored sample job"
  | stopSample => "Cancel the monitored sample job"
  | startMonitor => "Submit the monitor job"
  | stopMonitor => "Cancel the monitor job"
  | startTestDomain => "Start the second domain and instance"
  | stopTestDomain => "Stop the second domain and instance"

/-- Whether a scenario fails when the target exits with another code than 0. The cleanup targets may
fail: what they clean up need not exist. -/
def mustSucceed : Target → Bool
  | configureClean | stopSample | stopMonitor | stopTestDomain => false
  | _ => true

def ofSpelling? (text : String) : Option Target :=
  table.find? fun target => target.spelling == text

theorem mem_table (target : Target) : target ∈ table := by
  cases target <;> decide

@[simp] theorem ofSpelling?_spelling (target : Target) : ofSpelling? target.spelling = some target := by
  cases target <;> decide

end Target

end ScenarioBench

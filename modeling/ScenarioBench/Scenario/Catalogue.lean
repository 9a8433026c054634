import ScenarioBench.Scenario.Basic

/-! The scenarios of the monitoring toolkit.

The plain scenarios are one body that cleans up after itself. The cases share a directory per
feature and split their work into phases, so that their teardown stops whatever their run started.
-/

set_option autoImplicit false

namespace ScenarioBench.Catalogue

open Marker (firstSentinel secondSentinel)

def reconnectVariables : List String :=
  Variable.secondDomain ++ Variable.jmxDomain

/-- Stop the jobs and the second domain, each of them whatever happens to the others. -/
def stopJobsAndDomain (context : Context) : Act HarnessError Unit :=
  Action.firstError [context.stopMonitor, context.stopSample, context.stopTestDomain]

theorem stopJobsAndDomain_extends (context : Context) :
    Action.Follows (stopJobsAndDomain context) World.Extends :=
  .firstError_cons (context.require_extends _ _) <|
    .firstError_cons (context.require_extends _ _) <|
    .firstError_cons (context.require_extends _ _) .firstError_nil

def removeSentinelsAndStop (context : Context) : Act HarnessError Unit :=
  Action.firstError
    [context.remove firstSentinel, context.remove secondSentinel, stopJobsAndDomain context]

theorem removeSentinelsAndStop_extends (context : Context) :
    Action.Follows (removeSentinelsAndStop context) World.Extends :=
  .firstError_cons (ScratchFiles.remove_extends _) <|
    .firstError_cons (ScratchFiles.remove_extends _) <|
    .firstError_cons (stopJobsAndDomain_extends context) .firstError_nil

/-- Wait for a sentinel and fail unless it can be read; before failing, clean up. Errors of that
cleanup are not reported. All this is told of waits that end, as `Context.WaitEnds` has it; a wait
whose time is never up, and that nothing else ends, has nothing after it. -/
def awaitSentinel (context : Context) (name : String) (cleanup : Act HarnessError Unit) :
    Act HarnessError Unit := do
  let _ ← context.waitFor name
  match ← Action.attempt (context.requireSentinel name) with
  | .ok () => return ()
  | .error cause =>
    let _ ← Action.attempt cleanup
    throw cause

theorem awaitSentinel_extends (context : Context) (name : String) {cleanup : Act HarnessError Unit}
    (cleanupExtends : Action.Follows cleanup World.Extends) :
    Action.Follows (awaitSentinel context name cleanup) World.Extends := by
  refine .bind (context.waitFor_extends name) fun _ => ?_
  refine .bind (.attempt (context.requireSentinel_extends name)) fun ending => ?_
  rcases ending with cause | value
  · exact .bind (.attempt cleanupExtends) fun _ => .throw cause
  · exact .pure ()

def expectSentinel (context : Context) (name : String) : Act HarnessError Unit := do
  let _ ← context.waitFor name
  context.requireSentinel name

theorem expectSentinel_extends (context : Context) (name : String) :
    Action.Follows (expectSentinel context name) World.Extends :=
  .bind (context.waitFor_extends name) fun _ => context.requireSentinel_extends name

def reportsPass (output : Output) : Bool :=
  output.success && output.shows Marker.pass

/-! ### Plain scenarios -/

def metricsAppConfig (context : Context) : Act HarnessError Unit := do
  context.remove firstSentinel
  let _ ← context.removeLogArchives
  context.createAppConfig
  context.makeApplications
  context.startMonitor []
  awaitSentinel context firstSentinel context.stopMonitor
  Action.firstError [context.remove firstSentinel, context.stopMonitor]

theorem metricsAppConfig_extends (context : Context) :
    Action.Follows (metricsAppConfig context) World.Extends := by
  refine .bind (ScratchFiles.remove_extends _) fun _ => ?_
  refine .bind (ScratchFiles.removeMatching_extends _ _) fun _ => ?_
  refine .bind (context.require_extends _ _) fun _ => ?_
  refine .bind (context.require_extends _ _) fun _ => ?_
  refine .bind (context.require_extends _ _) fun _ => ?_
  refine .bind (awaitSentinel_extends context _ (context.require_extends _ _)) fun _ => ?_
  exact .firstError_cons (ScratchFiles.remove_extends _) <|
    .firstError_cons (context.require_extends _ _) .firstError_nil

def logJmxReconnect (context : Context) : Act HarnessError Unit := do
  context.remove firstSentinel
  context.remove secondSentinel
  let _ ← context.removeLogArchives
  context.startTestDomain
  context.makeApplications
  context.startMonitor []
  context.startSample []
  awaitSentinel context firstSentinel (stopJobsAndDomain context)
  -- The restart of the second domain breaks the monitor's connection.
  context.stopTestDomain
  context.startTestDomain
  context.startSample []
  awaitSentinel context secondSentinel (stopJobsAndDomain context)
  removeSentinelsAndStop context

theorem logJmxReconnect_extends (context : Context) :
    Action.Follows (logJmxReconnect context) World.Extends := by
  refine .bind (ScratchFiles.remove_extends _) fun _ => ?_
  refine .bind (ScratchFiles.remove_extends _) fun _ => ?_
  refine .bind (ScratchFiles.removeMatching_extends _ _) fun _ => ?_
  refine .bind (context.require_extends _ _) fun _ => ?_
  refine .bind (context.require_extends _ _) fun _ => ?_
  refine .bind (context.require_extends _ _) fun _ => ?_
  refine .bind (context.require_extends _ _) fun _ => ?_
  refine .bind (awaitSentinel_extends context _ (stopJobsAndDomain_extends context)) fun _ => ?_
  refine .bind (context.require_extends _ _) fun _ => ?_
  refine .bind (context.require_extends _ _) fun _ => ?_
  refine .bind (context.require_extends _ _) fun _ => ?_
  refine .bind (awaitSentinel_extends context _ (stopJobsAndDomain_extends context)) fun _ => ?_
  exact removeSentinelsAndStop_extends context

/-- The monitor runs to its end before the sample is stopped; an error of the monitor comes before
an error of the stop, and both before the check of what the monitor printed. -/
def logAppNotifications (context : Context) : Act HarnessError Unit := do
  context.makeApplications
  context.startSample []
  let monitor ← Action.attempt do
    let arguments ← Action.settled context.credentialArguments
    context.runMonitorStandalone arguments
  let stopped ← Action.attempt context.stopSample
  let output ← Action.settled monitor
  Action.settled stopped
  Context.expectPass (reportsPass output) output

theorem logAppNotifications_extends (context : Context) :
    Action.Follows (logAppNotifications context) World.Extends := by
  refine .bind (context.require_extends _ _) fun _ => ?_
  refine .bind (context.require_extends _ _) fun _ => ?_
  refine .bind (.attempt (.bind (.settled _) fun _ => context.runExecutable_extends _ _)) fun _ => ?_
  refine .bind (.attempt (context.require_extends _ _)) fun _ => ?_
  refine .bind (.settled _) fun _ => ?_
  exact .bind (.settled _) fun _ => .settled _

def plain : List Scenario := [
  .ofBody "MetricsSource/appConfig"
    "MetricsSource reads JMX credentials from an application configuration"
    Variable.jmxDomain metricsAppConfig metricsAppConfig_extends,
  .ofBody "LogSource/jmxReconnect"
    "LogSource reconnects after the monitored domain restarts"
    reconnectVariables logJmxReconnect logJmxReconnect_extends,
  .ofBody "LogSource/appLogNotifications"
    "Standalone monitor receives application log notifications"
    Variable.jmxDomain logAppNotifications logAppNotifications_extends]

/-! ### Cases -/

inductive Configuration where
  | credentials
  | filterDocument
  | filterParameter
  deriving DecidableEq, Repr

def filterArgument : String :=
  "START_MON_ARGS=-P filterDocument=etc/MetricsSource_MonitorOperatorMetrics.json"

structure AppConfigCase where
  name : String
  directory : String
  description : String
  configuration : Configuration
  withSample : Bool
  required : List String

namespace AppConfigCase

def monitorArguments (case : AppConfigCase) : List String :=
  if case.configuration = .filterParameter then [filterArgument] else []

def setup (context : Context) : Act HarnessError Unit := do
  context.remove firstSentinel
  let _ ← context.removeLogArchives

def run (case : AppConfigCase) (context : Context) : Act HarnessError Unit := do
  -- The filter document is part of the stored configuration or an argument of the monitor.
  if case.configuration = .filterDocument then context.createAppConfigJson
  else context.createAppConfig
  context.makeApplications
  context.startMonitor case.monitorArguments
  if case.withSample then context.startSample []
  expectSentinel context firstSentinel

def teardown (case : AppConfigCase) (context : Context) : Act HarnessError Unit :=
  Action.firstError <|
    [context.remove firstSentinel, context.stopMonitor]
      ++ (if case.withSample then [context.stopSample] else [])
      ++ [context.removeAppConfig]

theorem setup_extends (context : Context) : Action.Follows (setup context) World.Extends :=
  .bind (ScratchFiles.remove_extends _) fun _ =>
    .bind (ScratchFiles.removeMatching_extends _ _) fun _ => .pure ()

theorem run_extends (case : AppConfigCase) (context : Context) :
    Action.Follows (case.run context) World.Extends := by
  unfold run
  split
  · split <;> exact .bind (context.require_extends _ _) fun _ =>
      .bind (context.require_extends _ _) fun _ =>
      .bind (context.require_extends _ _) fun _ =>
      .bind (context.require_extends _ _) fun _ => expectSentinel_extends context _
  · split <;> exact .bind (context.require_extends _ _) fun _ =>
      .bind (context.require_extends _ _) fun _ =>
      .bind (context.require_extends _ _) fun _ => expectSentinel_extends context _

theorem teardown_extends (case : AppConfigCase) (context : Context) :
    Action.Follows (case.teardown context) World.Extends := by
  unfold teardown
  split
  · exact .firstError_cons (ScratchFiles.remove_extends _) <|
      .firstError_cons (context.require_extends _ _) <|
      .firstError_cons (context.require_extends _ _) <|
      .firstError_cons (context.require_extends _ _) .firstError_nil
  · exact .firstError_cons (ScratchFiles.remove_extends _) <|
      .firstError_cons (context.require_extends _ _) <|
      .firstError_cons (context.require_extends _ _) .firstError_nil

def scenario (case : AppConfigCase) : Scenario where
  name := case.name
  directory := case.directory
  description := case.description
  required := case.required
  skipReason := fun _ => none
  setup := setup
  run := case.run
  teardown := case.teardown
  setupExtends := setup_extends
  runExtends := case.run_extends
  teardownExtends := case.teardown_extends

end AppConfigCase

def appConfigCases : List AppConfigCase := [
  { name := "MetricsSource/test_app_config/distributed"
    directory := "MetricsSource/test_app_config"
    description := "MetricsSource with credentials from an application configuration"
    configuration := .credentials
    withSample := false
    required := Variable.jmx },
  { name := "MetricsSource/test_app_config/filter_doc_in_app_config"
    directory := "MetricsSource/test_app_config"
    description :=
      "MetricsSource with the filter document stored in the application configuration"
    configuration := .filterDocument
    withSample := false
    required := Variable.jmx },
  { name := "MetricsSource/test_app_config/filter_doc_param_file"
    directory := "MetricsSource/test_app_config"
    description := "MetricsSource with the filter document passed as a submission parameter"
    configuration := .filterParameter
    withSample := false
    required := Variable.jmx },
  { name := "JobStatusMonitor/test_app_config/distributed"
    directory := "JobStatusMonitor/test_app_config"
    description :=
      "JobStatusSource reports the sample job with credentials from an application configuration"
    configuration := .credentials
    withSample := true
    required := Variable.jmx },
  { name := "MetricsMonitor/test_microservices/distributed"
    directory := "MetricsMonitor/test_microservices"
    description := "Metrics monitoring microservice with a Streams user"
    configuration := .credentials
    withSample := false
    required := Variable.serviceCredentials }]

def secondDomainMissing : String :=
  "Missing configuration for second Streams domain and instance. " ++
    "Environment variables TEST_DOMAIN and TEST_INSTANCE are not set."

namespace ReconnectCase

def setup (context : Context) : Act HarnessError Unit := do
  context.remove firstSentinel
  context.remove secondSentinel
  let _ ← context.removeLogArchives
  context.startTestDomain

def run (context : Context) : Act HarnessError Unit := do
  context.makeApplications
  context.startMonitor []
  context.startSample []
  expectSentinel context firstSentinel
  -- The monitor stays; it has to find the restarted domain by itself.
  context.stopTestDomain
  context.startTestDomain
  context.startSample []
  expectSentinel context secondSentinel

theorem setup_extends (context : Context) : Action.Follows (setup context) World.Extends :=
  .bind (ScratchFiles.remove_extends _) fun _ =>
    .bind (ScratchFiles.remove_extends _) fun _ =>
    .bind (ScratchFiles.removeMatching_extends _ _) fun _ => context.require_extends _ _

theorem run_extends (context : Context) : Action.Follows (run context) World.Extends := by
  refine .bind (context.require_extends _ _) fun _ => ?_
  refine .bind (context.require_extends _ _) fun _ => ?_
  refine .bind (context.require_extends _ _) fun _ => ?_
  refine .bind (expectSentinel_extends context _) fun _ => ?_
  refine .bind (context.require_extends _ _) fun _ => ?_
  refine .bind (context.require_extends _ _) fun _ => ?_
  refine .bind (context.require_extends _ _) fun _ => ?_
  exact expectSentinel_extends context _

end ReconnectCase

def reconnectCase : Scenario where
  name := "MetricsSource/test_jmx_reconnect/with_two_domains"
  directory := "MetricsSource/test_jmx_reconnect"
  description := "MetricsSource reconnects after the second domain restarts"
  required := Variable.jmxDomain
  skipReason := fun environment =>
    if environment.missingSecondDomain > 0 then some secondDomainMissing else none
  setup := ReconnectCase.setup
  run := ReconnectCase.run
  teardown := removeSentinelsAndStop
  setupExtends := ReconnectCase.setup_extends
  runExtends := ReconnectCase.run_extends
  teardownExtends := removeSentinelsAndStop_extends

namespace LogNotificationCase

def run (context : Context) : Act HarnessError Unit := do
  context.makeApplications
  context.startSample []
  let arguments ← Action.settled context.credentialArguments
  let output ← context.runMonitorStandalone arguments
  Context.expectPass (reportsPass output) output

theorem run_extends (context : Context) : Action.Follows (run context) World.Extends := by
  refine .bind (context.require_extends _ _) fun _ => ?_
  refine .bind (context.require_extends _ _) fun _ => ?_
  refine .bind (.settled _) fun arguments => ?_
  exact .bind (context.runExecutable_extends _ _) fun _ => .settled _

end LogNotificationCase

def logNotificationCase : Scenario where
  name := "LogSource/test_log_notification/standalone"
  directory := "LogSource/test_log_notification"
  description := "Standalone LogSource monitor sees the sample's log notifications"
  required := Variable.jmxDomain
  skipReason := fun _ => none
  setup := fun _ => pure ()
  run := LogNotificationCase.run
  teardown := Context.stopSample
  setupExtends := fun _ => .pure ()
  runExtends := LogNotificationCase.run_extends
  teardownExtends := fun context => context.require_extends _ _

def scenarios : List Scenario :=
  plain ++ appConfigCases.map AppConfigCase.scenario ++ [reconnectCase, logNotificationCase]

def registry : Registry :=
  Registry.registerAll Dictionary.empty scenarios

theorem scenario?_registry {scenario : Scenario} (member : scenario ∈ scenarios) :
    registry.scenario? scenario.name = some scenario :=
  Registry.scenario?_registerAll _ (by decide) member

theorem mem_of_scenario?_registry {name : String} {scenario : Scenario}
    (found : registry.scenario? name = some scenario) : scenario ∈ scenarios := by
  by_cases listed : name ∈ scenarios.map (·.name)
  · obtain ⟨known, member, rfl⟩ := List.mem_map.1 listed
    rw [scenario?_registry member] at found
    exact Option.some.inj found ▸ member
  · rw [registry, Registry.scenario?_registerAll_of_not_mem _ listed] at found
    cases found

end ScenarioBench.Catalogue

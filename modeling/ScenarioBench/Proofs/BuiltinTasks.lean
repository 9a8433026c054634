import ScenarioBench.Proofs.CaseCourse
import ScenarioBench.Proofs.Recovery

/-! The tasks that every scenario of the toolkit is made of.

A plain scenario follows a plan in its only phase and cleans up by hand: after the whole plan, and where it
gives up waiting for a sentinel or for the standalone monitor. A case leaves the cleanup to its teardown. Both
recover a plan, so that whatever a scenario of the toolkit does is a chain of tasks.
-/

set_option autoImplicit false

namespace ScenarioBench.Catalogue

open Marker (firstSentinel secondSentinel)

inductive Plain where
  | metricsAppConfig
  | logJmxReconnect
  | logAppNotifications
  deriving DecidableEq, Repr

@[simp] def stopTasks : List Task :=
  [.target .stopMonitor [], .target .stopSample [], .target .stopTestDomain []]

theorem awaitSentinel_eq (context : Context) (name : String) (cleanup : Act HarnessError Unit) :
    awaitSentinel context name cleanup = (do
      match ← Action.attempt (context.requireSentinel name) with
      | .ok () => return ()
      | .error cause =>
        let _ ← Action.attempt cleanup
        throw cause) :=
  funext fun world => Action.bind_of_ok (context.waitFor_apply name world) _

/-- Waiting for a sentinel differs from expecting it in the cleanup that follows a failure. -/
theorem awaitSentinel_guards (context : Context) (name : String) (tasks : List Task) :
    Guards (Task.perform context) (.sentinel name) tasks
      (awaitSentinel context name (Action.firstError (tasks.map (Task.perform context)))) := by
  intro world
  rw [awaitSentinel_eq, Task.perform, Task.expectSentinel_apply, Action.bind_apply,
    Action.attempt_apply]
  rcases context.requireSentinel name world with ⟨cause | value, after⟩ <;> rfl

namespace Plain

def scenario : Plain → Scenario
  | metricsAppConfig => plain.get ⟨0, by decide⟩
  | logJmxReconnect => plain.get ⟨1, by decide⟩
  | logAppNotifications => plain.get ⟨2, by decide⟩

@[simp] def runTasks (environment : Environment) : Plain → List Task
  | metricsAppConfig =>
    [.discard firstSentinel, .discardArchives, .target .configure [], .target .all [],
      .target .startMonitor [], .sentinel firstSentinel]
  | logJmxReconnect =>
    [.discard firstSentinel, .discard secondSentinel, .discardArchives, .target .startTestDomain [],
      .target .all [], .target .startMonitor [], .target .startSample [], .sentinel firstSentinel,
      .target .stopTestDomain [], .target .startTestDomain [], .target .startSample [],
      .sentinel secondSentinel]
  | logAppNotifications =>
    [.target .all [], .target .startSample [], .monitor (Case.credentials environment)]

@[simp] def cleanupTasks : Plain → Option Task → List Task
  | metricsAppConfig, none => [.discard firstSentinel, .target .stopMonitor []]
  | metricsAppConfig, some (.sentinel _) => [.target .stopMonitor []]
  | logJmxReconnect, none => [.discard firstSentinel, .discard secondSentinel] ++ stopTasks
  | logJmxReconnect, some (.sentinel _) => stopTasks
  | logAppNotifications, none | logAppNotifications, some (.monitor _) => [.target .stopSample []]
  | _, _ => []

/-- Which error counts, that of the plan or that of the cleanup. The monitor's verdict is looked at only after
the sample was stopped. -/
def rank : Plain → Option HarnessError → Option HarnessError → Option HarnessError
  | logAppNotifications, some (.failure failure), cleanup => cleanup.or (some (.failure failure))
  | _, run, cleanup => run.or cleanup

@[simp]
theorem rank_none (given : Plain) (error : Option HarnessError) : given.rank error none = error := by
  cases given <;> rcases error with _ | (_ | _) <;> rfl

variable (context : Context)

theorem metricsAppConfig_recovers :
    Recovers (Task.perform context) (runTasks context.environment .metricsAppConfig)
      (cleanupTasks .metricsAppConfig) (rank .metricsAppConfig)
      (Catalogue.metricsAppConfig context) := by
  have shape : Catalogue.metricsAppConfig context = (do
      (Task.discard firstSentinel).perform context
      Task.discardArchives.perform context
      (Task.target .configure []).perform context
      (Task.target .all []).perform context
      (Task.target .startMonitor []).perform context
      awaitSentinel context firstSentinel context.stopMonitor
      Action.firstError ((cleanupTasks .metricsAppConfig none).map (Task.perform context))) := by
    simp [Catalogue.metricsAppConfig]
  rw [shape, ← Action.firstError_singleton context.stopMonitor]
  exact .cons rfl (fun _ => rfl) <| .cons rfl (fun _ => rfl) <| .cons rfl (fun _ => rfl) <|
    .cons rfl (fun _ => rfl) <| .cons rfl (fun _ => rfl) <|
    .guard (fun _ _ _ => rfl) (awaitSentinel_guards context firstSentinel [.target .stopMonitor []]) <|
    .finish fun _ => rfl

theorem logJmxReconnect_recovers :
    Recovers (Task.perform context) (runTasks context.environment .logJmxReconnect)
      (cleanupTasks .logJmxReconnect) (rank .logJmxReconnect)
      (Catalogue.logJmxReconnect context) := by
  have cleanup : removeSentinelsAndStop context = Action.firstError
      ((cleanupTasks .logJmxReconnect none).map (Task.perform context)) :=
    Action.firstError_append [context.remove firstSentinel, context.remove secondSentinel]
      [context.stopMonitor, context.stopSample, context.stopTestDomain]
  have shape : Catalogue.logJmxReconnect context = (do
      (Task.discard firstSentinel).perform context
      (Task.discard secondSentinel).perform context
      Task.discardArchives.perform context
      (Task.target .startTestDomain []).perform context
      (Task.target .all []).perform context
      (Task.target .startMonitor []).perform context
      (Task.target .startSample []).perform context
      awaitSentinel context firstSentinel (stopJobsAndDomain context)
      (Task.target .stopTestDomain []).perform context
      (Task.target .startTestDomain []).perform context
      (Task.target .startSample []).perform context
      awaitSentinel context secondSentinel (stopJobsAndDomain context)
      removeSentinelsAndStop context) := by
    simp [Catalogue.logJmxReconnect]
  rw [shape, cleanup]
  exact .cons rfl (fun _ => rfl) <| .cons rfl (fun _ => rfl) <| .cons rfl (fun _ => rfl) <|
    .cons rfl (fun _ => rfl) <| .cons rfl (fun _ => rfl) <| .cons rfl (fun _ => rfl) <|
    .cons rfl (fun _ => rfl) <|
    .guard (fun _ _ _ => rfl) (awaitSentinel_guards context firstSentinel stopTasks) <|
    .cons rfl (fun _ => rfl) <| .cons rfl (fun _ => rfl) <| .cons rfl (fun _ => rfl) <|
    .guard (fun _ _ _ => rfl) (awaitSentinel_guards context secondSentinel stopTasks) <|
    .finish fun _ => rfl

theorem stopThenVerdict_apply (monitor : Act HarnessError Output) (stop : Act HarnessError Unit)
    (world : World) :
    (do
      let monitored ← Action.attempt monitor
      let stopped ← Action.attempt stop
      let output ← Action.settled monitored
      Action.settled stopped
      Context.expectPass (reportsPass output) output : Act HarnessError Unit) world =
    (match (monitor world).1, (stop (monitor world).2).1 with
      | .error cause, _ => .error cause
      | .ok _, .error cause => .error cause
      | .ok output, .ok () =>
        if reportsPass output then .ok () else .error (.failure ⟨output.stdout, output.stderr⟩),
      (stop (monitor world).2).2) := by
  simp only [Action.bind_apply, Action.attempt_apply]
  rcases monitor world with ⟨cause | output, between⟩
  · rfl
  · rcases stop between with ⟨cause | value, after⟩
    · rfl
    · exact Context.expectPass_apply _ _ _

theorem logAppNotifications_recovers
    (complete : context.environment.missing Variable.jmxDomain = []) :
    Recovers (Task.perform context) (runTasks context.environment .logAppNotifications)
      (cleanupTasks .logAppNotifications) (rank .logAppNotifications)
      (Catalogue.logAppNotifications context) := by
  have told : (Action.settled context.credentialArguments : Act HarnessError (List String)) =
      pure (Case.credentials context.environment) := by
    rw [Case.credentialArguments_eq_ok context complete]
    rfl
  have shape : Catalogue.logAppNotifications context = (do
      (Task.target .all []).perform context
      (Task.target .startSample []).perform context
      let monitored ← Action.attempt
        (context.runMonitorStandalone (Case.credentials context.environment))
      let stopped ← Action.attempt ((Task.target .stopSample []).perform context)
      let output ← Action.settled monitored
      Action.settled stopped
      Context.expectPass (reportsPass output) output) := by
    simp [Catalogue.logAppNotifications, told]
  rw [shape]
  refine .cons rfl (fun _ => rank_none _ _) <| .cons rfl (fun _ => rank_none _ _) fun world => ?_
  rw [stopThenVerdict_apply]
  -- However the monitor ends, the sample is stopped in the world that it leaves.
  rcases issued : context.runMonitorStandalone (Case.credentials context.environment) world
    with ⟨cause | output, between⟩
  · have performed : (Task.monitor (Case.credentials context.environment)).perform context world =
        (.error cause, between) := Action.bind_of_error issued _
    obtain ⟨refused, rfl⟩ := CommandRunner.issue_error (congrArg (·.1) issued)
    rcases stopped : (Task.target .stopSample []).perform context between with ⟨stopEnding, after⟩
    exact ⟨_, _, _, after, ⟨.cons _ performed .nil, .cut rfl Execution.not_succeeded_error,
      .cons _ stopped .nil, rfl⟩, rfl⟩
  · -- The verdict is given on what the monitor printed, and the stop lies between the two.
    have performed : (Task.monitor (Case.credentials context.environment)).perform context world =
        (if reportsPass output then .ok ()
          else .error (.failure ⟨output.stdout, output.stderr⟩), between) :=
      (Action.bind_of_ok issued _).trans (Context.expectPass_apply _ _ _)
    rcases stopped : (Task.target .stopSample []).perform context between with ⟨stopEnding, after⟩
    cases verdict : reportsPass output
    · rw [verdict] at performed
      refine ⟨_, _, _, after, ⟨.cons _ performed .nil, .cut rfl Execution.not_succeeded_error,
        .cons _ stopped .nil, rfl⟩, ?_⟩
      cases stopEnding <;> simp [verdict] <;> rfl
    · rw [verdict] at performed
      refine ⟨_, _, _, after,
        ⟨.cons _ performed .nil, .cons rfl ⟨(), rfl⟩ .nil, .cons _ stopped .nil, rfl⟩, ?_⟩
      cases stopEnding <;> simp [verdict] <;> rfl

theorem work_eq (given : Plain) :
    Dispatcher.work given.scenario context = given.scenario.run context := by
  funext world
  have teardown : given.scenario.teardown context = pure () := by cases given <;> rfl
  simp only [Dispatcher.work, teardown, Action.bind_apply, Action.attempt_apply]
  rcases given.scenario.run context world with ⟨cause | value, after⟩ <;> rfl

theorem phases_eq (given : Plain) :
    Dispatcher.phases given.scenario context = (do
      given.scenario.run context
      context.makeClean) := by
  have setup : given.scenario.setup context = pure () := by cases given <;> rfl
  rw [Dispatcher.phases_eq, setup, pure_bind, work_eq]

theorem run_recovers (given : Plain)
    (complete : context.environment.missing given.scenario.required = []) :
    Recovers (Task.perform context) (given.runTasks context.environment) given.cleanupTasks
      given.rank (given.scenario.run context) := by
  cases given with
  | metricsAppConfig => exact metricsAppConfig_recovers context
  | logJmxReconnect => exact logJmxReconnect_recovers context
  | logAppNotifications => exact logAppNotifications_recovers context complete

end Plain

inductive Builtin where
  | plain (given : Plain)
  | case (given : Case)

namespace Builtin

def scenario : Builtin → Scenario
  | plain given => given.scenario
  | case given => given.scenario

@[simp] def setupTasks : Builtin → List Task
  | plain _ => []
  | case given => given.setupTasks

@[simp] def runTasks (environment : Environment) : Builtin → List Task
  | plain given => given.runTasks environment
  | case given => given.runTasks environment

@[simp] def cleanupTasks : Builtin → Option Task → List Task
  | plain given => given.cleanupTasks
  | case given => fun _ => given.teardownTasks

def rank : Builtin → Option HarnessError → Option HarnessError → Option HarnessError
  | plain given => given.rank
  | case _ => .or

theorem exists_of_mem_scenarios {scenario : Scenario} (member : scenario ∈ scenarios) :
    ∃ given : Builtin, given.scenario = scenario := by
  simp only [scenarios, List.append_assoc, List.mem_append] at member
  rcases member with listed | mapped | other
  · simp only [Catalogue.plain, List.mem_cons, List.not_mem_nil, or_false] at listed
    rcases listed with rfl | rfl | rfl
    · exact ⟨.plain .metricsAppConfig, rfl⟩
    · exact ⟨.plain .logJmxReconnect, rfl⟩
    · exact ⟨.plain .logAppNotifications, rfl⟩
  · obtain ⟨case, -, rfl⟩ := List.mem_map.1 mapped
    exact ⟨.case (.appConfig case), rfl⟩
  · simp only [List.mem_cons, List.not_mem_nil, or_false] at other
    rcases other with rfl | rfl
    · exact ⟨.case .reconnect, rfl⟩
    · exact ⟨.case .logNotification, rfl⟩

variable (given : Builtin) (context : Context)

theorem setup_eq :
    given.scenario.setup context = given.setupTasks.forM (Task.perform context) := by
  cases given with
  | plain given => cases given <;> rfl
  | case given => exact given.setup_eq context

theorem work_recovers (complete : context.environment.missing given.scenario.required = []) :
    Recovers (Task.perform context) (given.runTasks context.environment) given.cleanupTasks
      given.rank (Dispatcher.work given.scenario context) := by
  cases given with
  | plain given =>
    show Recovers _ _ _ _ (Dispatcher.work given.scenario context)
    rw [given.work_eq context]
    exact given.run_recovers context complete
  | case given =>
    show Recovers _ _ _ _ (Dispatcher.work given.scenario context)
    rw [Dispatcher.work, given.run_eq context complete, given.teardown_eq context]
    exact .always (Task.perform context) _ _

/-- What a scenario of the toolkit performs between two worlds. -/
structure Passage (world : World) (setup run cleared : List TaskExecution) (settled : World) :
    Prop where
  chain : Chain (Task.perform context) world (setup ++ run ++ cleared) settled
  setupFollowed : Followed Execution.Succeeded (·.subject) given.setupTasks setup
  halted : (∃ execution ∈ setup, ¬ execution.Succeeded) → run = [] ∧ cleared = []
  runFollowed : (∀ execution ∈ setup, execution.Succeeded) →
    Followed Execution.Succeeded (·.subject) (given.runTasks context.environment) run
  whole : (∀ execution ∈ setup, execution.Succeeded) →
    cleared.map (·.subject) = given.cleanupTasks (Execution.failed? run)

theorem Passage.subjects {given : Builtin} {context : Context} {world settled : World}
    {setup run cleared : List TaskExecution}
    (passage : given.Passage context world setup run cleared settled)
    (setupWell : ∀ execution ∈ setup, execution.Succeeded)
    (runWell : ∀ execution ∈ run, execution.Succeeded) :
    (setup ++ run).map (·.subject) = given.setupTasks ++ given.runTasks context.environment := by
  rw [List.map_append, passage.setupFollowed.whole setupWell,
    (passage.runFollowed setupWell).whole runWell]

theorem phases_passage (complete : context.environment.missing given.scenario.required = [])
    (world : World) :
    ∃ setup run cleared settled, given.Passage context world setup run cleared settled ∧
      Dispatcher.phases given.scenario context world =
        match (Execution.firstError? setup).or
          (given.rank (Execution.firstError? run) (Execution.firstError? cleared)) with
        | some cause => (.error cause, settled)
        | none => context.makeClean settled := by
  rw [Dispatcher.phases_eq, setup_eq]
  obtain ⟨setup, afterSetup, began, setupFollowed, setupEnd⟩ :=
    Chain.forM (Task.perform context) given.setupTasks world
  rw [Execution.outcome] at setupEnd
  rcases failure : Execution.firstError? setup with _ | cause
  · obtain ⟨run, between, cleared, settled, recovery, ended⟩ :=
      given.work_recovers context complete afterSetup
    have succeeded := (Execution.firstError?_eq_none_iff setup).1 failure
    refine ⟨setup, run, cleared, settled,
      ⟨(began.append recovery.ran).append recovery.clearing, setupFollowed, ?_,
        fun _ => recovery.followed, fun _ => recovery.whole⟩, ?_⟩
    · rintro ⟨execution, member, fails⟩
      exact absurd (succeeded execution member) fails
    · rw [failure] at setupEnd
      rw [Action.bind_of_ok setupEnd, Action.bind_apply, ended, failure, Option.none_or]
      rcases given.rank (Execution.firstError? run) (Execution.firstError? cleared) with _ | cause <;>
        rfl
  · obtain ⟨execution, member, fails⟩ := Execution.exists_of_firstError? failure
    refine ⟨setup, [], [], afterSetup, ⟨?_, setupFollowed, fun _ => ⟨rfl, rfl⟩,
      fun all => absurd (all execution member) fails,
      fun all => absurd (all execution member) fails⟩, ?_⟩
    · rwa [List.append_nil, List.append_nil]
    · rw [failure] at setupEnd
      rw [Action.bind_of_error setupEnd, failure, Option.some_or]

end Builtin

end ScenarioBench.Catalogue

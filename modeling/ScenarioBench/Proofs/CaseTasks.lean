import ScenarioBench.Proofs.Execution
import ScenarioBench.Scenario.Catalogue

/-! The tasks that the cases are made of.

A case is data as much as it is code: each of its phases performs a fixed list of tasks. Setup and run
perform theirs up to the first that fails, teardown performs all of its own. A task issues at most one
command, the same in every world, so that what a case does to the outside is known from its tasks.
-/

set_option autoImplicit false

namespace ScenarioBench.Catalogue

open Marker (firstSentinel secondSentinel)

inductive Task where
  | target (wanted : Target) (extra : List String)
  | sentinel (name : String)
  | monitor (arguments : List String)
  | discard (name : String)
  | discardArchives
  deriving DecidableEq, Repr

namespace Task

@[simp] def perform (context : Context) : Task → Act HarnessError Unit
  | .target wanted extra => context.require wanted extra
  | .sentinel name => expectSentinel context name
  | .monitor arguments => do
    let output ← context.runMonitorStandalone arguments
    Context.expectPass (reportsPass output) output
  | .discard name => context.remove name
  | .discardArchives => do
    let _ ← context.removeLogArchives

@[simp] def command? (context : Context) : Task → Option Command
  | .target wanted extra => some (context.targetCommand wanted extra)
  | .monitor arguments => some (context.executableCommand Marker.monitorStandalone arguments)
  | .sentinel _ | .discard _ | .discardArchives => none

/-- A task fails in a world. -/
def Fails (context : Context) (world : World) : Task → Prop
  | .target wanted extra =>
    match (context.runner.reaction world (context.targetCommand wanted extra)).outcome with
    | .error _ => True
    | .ok output => wanted.mustSucceed = true ∧ output.exitCode ≠ 0
  | .sentinel name => ∀ content, world.tree.read (context.path name) ≠ .ok content
  | .monitor arguments =>
    match (context.runner.reaction world
      (context.executableCommand Marker.monitorStandalone arguments)).outcome with
    | .error _ => True
    | .ok output => ¬ (output.exitCode = 0 ∧ Marker.pass.toList <:+: output.stdout.toList)
  | .discard name => ∃ cause, ScratchFiles.removeFrom world.tree (context.path name) = .error cause
  | .discardArchives => ∃ cause, (context.removeLogArchives world).1 = .error cause

variable (context : Context) (world : World)

@[simp] theorem expectSentinel_apply (name : String) :
    expectSentinel context name world = context.requireSentinel name world :=
  Action.bind_of_ok (context.waitFor_apply name world) _

theorem monitor_apply (arguments : List String) :
    let command := context.executableCommand Marker.monitorStandalone arguments
    let reaction := context.runner.reaction world command
    (monitor arguments).perform context world =
      (match reaction.outcome with
        | .error cause => .error (.spawn command.program cause)
        | .ok output => if reportsPass output then .ok ()
          else .error (.failure ⟨output.stdout, output.stderr⟩),
        world.answered command reaction) := by
  intro command reaction
  have issued : context.runMonitorStandalone arguments world =
      (reaction.outcome.mapError (.spawn command.program ·), world.answered command reaction) := rfl
  rcases met : reaction.outcome with cause | output
  · rw [met] at issued
    exact Action.bind_of_error issued _
  · rw [met] at issued
    exact (Action.bind_of_ok issued _).trans (Context.expectPass_apply _ _ _)

theorem discardArchives_apply :
    discardArchives.perform context world =
      ((context.removeLogArchives world).1.map fun _ => (), (context.removeLogArchives world).2) := by
  refine (Action.bind_apply _ _ _).trans ?_
  rcases context.removeLogArchives world with ⟨cause | count, after⟩ <;> rfl

@[simp] theorem perform_commands (task : Task) :
    (task.perform context world).2.commands = world.commands ++ (task.command? context).toList := by
  cases task with
  | target wanted extra => exact congrArg (·.2.commands) (context.require_apply wanted extra world)
  | sentinel name =>
    rw [perform, expectSentinel_apply, context.requireSentinel_apply]
    exact (List.append_nil _).symm
  | monitor arguments => exact congrArg (·.2.commands) (monitor_apply context world arguments)
  | discard name =>
    exact (ScratchFiles.remove_silent (context.path name) world).trans (List.append_nil _).symm
  | discardArchives =>
    rw [discardArchives_apply]
    exact (ScratchFiles.removeMatching_silent _ _ world).trans (List.append_nil _).symm

theorem reportsPass_iff (output : Output) :
    reportsPass output = true ↔
      output.exitCode = 0 ∧ Marker.pass.toList <:+: output.stdout.toList := by
  simp [reportsPass, Output.shows, Text.contains_iff]

/-- A task ends well exactly where it does not fail. -/
theorem succeeds_iff (task : Task) :
    (∃ value, (task.perform context world).1 = .ok value) ↔ ¬ task.Fails context world := by
  cases task with
  | target wanted extra =>
    rw [perform, context.require_apply, Fails]
    rcases (context.runner.reaction world (context.targetCommand wanted extra)).outcome
      with cause | output
    · simp
    · rw [Context.targetEnding_ok]
      split <;> simp [*]
  | sentinel name =>
    rw [perform, expectSentinel_apply, context.requireSentinel_apply, Fails]
    rcases world.tree.read (context.path name) with cause | content <;>
      simp [Except.isOk, Except.toBool]
  | monitor arguments =>
    rw [monitor_apply, Fails]
    rcases (context.runner.reaction world
      (context.executableCommand Marker.monitorStandalone arguments)).outcome with cause | output
    · simp
    · simp only [← reportsPass_iff, Classical.not_not]
      cases reportsPass output <;> simp
  | discard name =>
    rw [perform, Context.remove, ScratchFiles.remove_apply, Fails]
    rcases ScratchFiles.removeFrom world.tree (context.path name) with cause | tree <;> simp
  | discardArchives =>
    rw [discardArchives_apply, Fails]
    rcases (context.removeLogArchives world).1 with cause | count <;> simp [Except.map]

end Task

inductive Case where
  | appConfig (case : AppConfigCase)
  | reconnect
  | logNotification

namespace Case

def scenario : Case → Scenario
  | appConfig case => case.scenario
  | reconnect => reconnectCase
  | logNotification => logNotificationCase

@[simp] def setupTasks : Case → List Task
  | appConfig _ => [.discard firstSentinel, .discardArchives]
  | reconnect =>
    [.discard firstSentinel, .discard secondSentinel, .discardArchives, .target .startTestDomain []]
  | logNotification => []

def credentials (environment : Environment) : List String :=
  ["user=" ++ (environment.get? Variable.jmxUser).getD "",
    "password=" ++ (environment.get? Variable.jmxPassword).getD "",
    "domainId=" ++ (environment.get? Variable.domainId).getD ""]

@[simp] def runTasks (environment : Environment) : Case → List Task
  | appConfig case =>
    [.target (if case.configuration = .filterDocument then .configureJson else .configure) [],
      .target .all [], .target .startMonitor case.monitorArguments]
      ++ (if case.withSample then [.target .startSample []] else [])
      ++ [.sentinel firstSentinel]
  | reconnect =>
    [.target .all [], .target .startMonitor [], .target .startSample [], .sentinel firstSentinel,
      .target .stopTestDomain [], .target .startTestDomain [], .target .startSample [],
      .sentinel secondSentinel]
  | logNotification =>
    [.target .all [], .target .startSample [], .monitor (credentials environment)]

@[simp] def teardownTasks : Case → List Task
  | appConfig case =>
    [.discard firstSentinel, .target .stopMonitor []]
      ++ (if case.withSample then [.target .stopSample []] else [])
      ++ [.target .configureClean []]
  | reconnect =>
    [.discard firstSentinel, .discard secondSentinel, .target .stopMonitor [],
      .target .stopSample [], .target .stopTestDomain []]
  | logNotification => [.target .stopSample []]

variable (given : Case) (context : Context)

theorem setup_eq :
    given.scenario.setup context = given.setupTasks.forM (Task.perform context) := by
  cases given with
  | appConfig case =>
    show AppConfigCase.setup context = _
    simp [AppConfigCase.setup]
  | reconnect =>
    show ReconnectCase.setup context = _
    simp [ReconnectCase.setup]
  | logNotification => rfl

theorem credentialArguments_eq_ok (complete : context.environment.missing Variable.jmxDomain = []) :
    context.credentialArguments = .ok (credentials context.environment) := by
  simp only [Environment.missing, Variable.jmxDomain, List.filter_eq_nil_iff, List.forall_mem_cons,
    Option.isNone_iff_eq_none] at complete
  obtain ⟨domain, user, password, -⟩ := complete
  obtain ⟨domain, domainSet⟩ := Option.ne_none_iff_exists'.1 domain
  obtain ⟨user, userSet⟩ := Option.ne_none_iff_exists'.1 user
  obtain ⟨password, passwordSet⟩ := Option.ne_none_iff_exists'.1 password
  simp only [Context.credentialArguments, Environment.require, credentials, domainSet, userSet,
    passwordSet]
  rfl

theorem run_eq (complete : context.environment.missing given.scenario.required = []) :
    given.scenario.run context =
      (given.runTasks context.environment).forM (Task.perform context) := by
  cases given with
  | appConfig case =>
    show case.run context = _
    simp only [AppConfigCase.run, runTasks]
    split <;> split <;> simp
  | reconnect =>
    show ReconnectCase.run context = _
    simp [ReconnectCase.run]
  | logNotification =>
    show LogNotificationCase.run context = _
    -- The credentials are read between two commands; only because they are at hand the tasks are fixed.
    have atHand := credentialArguments_eq_ok context complete
    have told : (Action.settled context.credentialArguments : Act HarnessError (List String)) =
        pure (credentials context.environment) := by
      rw [atHand]
      rfl
    simp [LogNotificationCase.run, told]

theorem teardown_eq :
    given.scenario.teardown context =
      Action.firstError (given.teardownTasks.map (Task.perform context)) := by
  cases given with
  | appConfig case =>
    show case.teardown context = _
    simp only [AppConfigCase.teardown, teardownTasks]
    split <;> rfl
  | reconnect =>
    exact Action.firstError_append [context.remove firstSentinel, context.remove secondSentinel]
      [context.stopMonitor, context.stopSample, context.stopTestDomain]
  | logNotification => exact (Action.firstError_singleton _).symm

end Case

end ScenarioBench.Catalogue

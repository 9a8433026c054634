import ScenarioBench.Proofs.BuiltinTasks
import ScenarioBench.Proofs.Lifecycle

/-! Which failure of a scenario is reported.

Run and cleanup may both fail. Main statement: for every scenario of the toolkit whose setup succeeded, the
first failure of its run is reported, and a failure of the cleanup only where the run succeeded. There is one
exception: the plain scenario of the standalone monitor stops its sample before it looks at what the monitor
printed, so that a stop that cannot start hides the verdict.
-/

set_option autoImplicit false

namespace ScenarioBench.Catalogue

/-- What a task complains about in a world, if it fails there. -/
def Task.complaint? (context : Context) (world : World) : Task → Option HarnessError
  | .target wanted extra =>
    match (context.runner.reaction world (context.targetCommand wanted extra)).outcome with
    | .error cause => some (.spawn context.make cause)
    | .ok output =>
      if wanted.mustSucceed = true ∧ output.exitCode ≠ 0 then
        some (.failure ⟨output.stdout, output.stderr⟩)
      else none
  | .sentinel name =>
    match world.tree.read (context.path name) with
    | .error _ => some (.failure (.ofDetail "Could not read file:" name))
    | .ok _ => none
  | .monitor arguments =>
    let command := context.executableCommand Marker.monitorStandalone arguments
    match (context.runner.reaction world command).outcome with
    | .error cause => some (.spawn command.program cause)
    | .ok output =>
      if reportsPass output then none else some (.failure ⟨output.stdout, output.stderr⟩)
  | .discard name =>
    match ScratchFiles.removeFrom world.tree (context.path name) with
    | .error cause => some (.io cause)
    | .ok _ => none
  | .discardArchives =>
    match (context.removeLogArchives world).1 with
    | .error cause => some cause
    | .ok _ => none

theorem Task.perform_ending (task : Task) (context : Context) (world : World) :
    (task.perform context world).1 = Execution.endingOf (task.complaint? context world) := by
  cases task with
  | target wanted extra =>
    rw [perform, context.require_apply, complaint?]
    rcases (context.runner.reaction world (context.targetCommand wanted extra)).outcome
      with cause | output
    · rfl
    · rw [Context.targetEnding_ok]
      split <;> simp [*]
  | sentinel name =>
    rw [perform, expectSentinel_apply, context.requireSentinel_apply, complaint?]
    rcases world.tree.read (context.path name) with cause | content <;> rfl
  | monitor arguments =>
    rw [monitor_apply, complaint?]
    rcases (context.runner.reaction world
      (context.executableCommand Marker.monitorStandalone arguments)).outcome with cause | output
    · rfl
    · by_cases pass : reportsPass output = true <;> simp [pass]
  | discard name =>
    rw [perform, Context.remove, ScratchFiles.remove_apply, complaint?]
    rcases ScratchFiles.removeFrom world.tree (context.path name) with cause | tree <;> rfl
  | discardArchives =>
    rw [discardArchives_apply, complaint?]
    rcases (context.removeLogArchives world).1 with cause | count <;> rfl

def firstComplaint? (context : Context) (executions : List TaskExecution) : Option HarnessError :=
  executions.findSome? fun execution => execution.subject.complaint? context execution.before

theorem firstError?_eq_firstComplaint? {context : Context} {executions : List TaskExecution}
    (performed : ∀ execution ∈ executions,
      execution.subject.perform context execution.before = (execution.ending, execution.after)) :
    Execution.firstError? executions = firstComplaint? context executions := by
  -- Each execution is judged in the world before it, so that no chain is needed here.
  induction executions with
  | nil => rfl
  | cons execution rest ih =>
    have ended : execution.ending =
        Execution.endingOf (execution.subject.complaint? context execution.before) := by
      rw [← execution.subject.perform_ending, performed execution List.mem_cons_self]
    have error : execution.error? = execution.subject.complaint? context execution.before := by
      rw [Execution.error?, ended]
      rcases execution.subject.complaint? context execution.before with _ | cause <;> rfl
    have others := ih fun later among => performed later (List.mem_cons_of_mem _ among)
    rw [Execution.firstError?, firstComplaint?, List.findSome?_cons, List.findSome?_cons, error,
      ← Execution.firstError?, others, firstComplaint?]

theorem complaint?_of_mayFail {context : Context} {world : World} {wanted : Target}
    {extra : List String} {cause : HarnessError} (mayFail : wanted.mustSucceed = false)
    (complaint : (Task.target wanted extra).complaint? context world = some cause) :
    ∃ refused, cause = .spawn context.make refused := by
  simp only [Task.complaint?, mayFail] at complaint
  split at complaint
  · exact ⟨_, (Option.some.inj complaint).symm⟩
  · simp at complaint

theorem Plain.eq_of_mem_cleanupTasks {failed : Option Task} {task : Task}
    (member : task ∈ logAppNotifications.cleanupTasks failed) : task = .target .stopSample [] := by
  rcases failed with _ | (_ | _ | _ | _ | _) <;> simp at member <;> exact member

namespace Builtin

/-- The standalone monitor's verdict is hidden by a stop that fails. -/
def Overruled (given : Builtin) (run cleanup : Option HarnessError) : Prop :=
  given = .plain .logAppNotifications ∧ (∃ failure, run = some (.failure failure)) ∧ cleanup ≠ none

@[simp] theorem rank_none_left (given : Builtin) (cleanup : Option HarnessError) :
    given.rank none cleanup = cleanup := by
  cases given with
  | plain given => cases given <;> rfl
  | case given => exact Option.none_or

theorem rank_of_overruled {given : Builtin} {run cleanup : Option HarnessError}
    (overruled : given.Overruled run cleanup) : given.rank run cleanup = cleanup := by
  obtain ⟨rfl, ⟨failure, rfl⟩, some⟩ := overruled
  obtain ⟨cause, rfl⟩ := Option.ne_none_iff_exists'.1 some
  rfl

theorem rank_of_not_overruled {given : Builtin} {cause : HarnessError} {cleanup : Option HarnessError}
    (ranked : ¬ given.Overruled (some cause) cleanup) : given.rank (some cause) cleanup = some cause := by
  cases given with
  | case given => rfl
  | plain given =>
    cases given with
    | metricsAppConfig | logJmxReconnect => rfl
    | logAppNotifications =>
      cases cause with
      | failure failure =>
        rcases cleanup with _ | other
        · rfl
        · exact absurd ⟨rfl, ⟨failure, rfl⟩, Option.some_ne_none other⟩ ranked
      | _ => rfl

/-- How the failures of a run and of its cleanup are reported, each given as its first complaint. -/
structure Reported (given : Builtin) (run cleanup : Option HarnessError) (result : ScenarioResult) :
    Prop where
  ofRun : ∀ cause, run = some cause →
    ((∃ detail, result = .failed detail ∧ detail.Tells cause) ↔ ¬ given.Overruled run cleanup)
  ofCleanup : ∀ cause, cleanup = some cause → run = none ∨ given.Overruled run cleanup →
    ∃ detail, result = .failed detail ∧ detail.Tells cause

theorem Passage.spawn_of_overruled {given : Builtin} {context : Context} {world settled : World}
    {setup run cleared : List TaskExecution} {ran : Option HarnessError} {cause : HarnessError}
    (passage : given.Passage context world setup run cleared settled)
    (succeeded : ∀ execution ∈ setup, execution.Succeeded)
    (overruled : given.Overruled ran (firstComplaint? context cleared))
    (failed : firstComplaint? context cleared = some cause) :
    ∃ refused, cause = .spawn context.make refused := by
  obtain ⟨rfl, -, -⟩ := overruled
  have whole := passage.whole succeeded
  obtain ⟨execution, member, complaint⟩ := List.exists_of_findSome?_eq_some failed
  have planned : execution.subject ∈ (plain .logAppNotifications).cleanupTasks
      (Execution.failed? run) := by
    rw [← whole]
    exact List.mem_map_of_mem member
  -- The only cleanup there is stops the sample, and its exit code is not looked at.
  rw [Plain.eq_of_mem_cleanupTasks planned] at complaint
  exact complaint?_of_mayFail rfl complaint

theorem reported_of_rank {given : Builtin} {run cleanup : Option HarnessError}
    {result : ScenarioResult}
    (hidden : given.Overruled run cleanup → ∀ cause, cleanup = some cause →
      ∃ program refused, cause = .spawn program refused)
    (ranked : ∀ cause, given.rank run cleanup = some cause → result = .failed (.ofError cause)) :
    Reported given run cleanup result := by
  constructor
  case ofRun =>
    rintro cause rfl
    constructor
    · -- A verdict is told by its streams and a command that cannot start by a message.
      rintro ⟨detail, rfl, tells⟩ overruled
      obtain ⟨other, rfl⟩ := Option.ne_none_iff_exists'.1 overruled.2.2
      obtain ⟨program, refused, rfl⟩ := hidden overruled other rfl
      have message := ScenarioResult.failed.inj (ranked _ (rank_of_overruled overruled))
      obtain ⟨-, ⟨failure, verdict⟩, -⟩ := overruled
      rw [tells.streams failure (Option.some.inj verdict)] at message
      cases message
    · intro free
      exact ⟨_, ranked cause (rank_of_not_overruled free), FailureDetail.tells_ofError cause⟩
  case ofCleanup =>
    rintro cause rfl decided
    have counts : given.rank run (some cause) = some cause := by
      rcases decided with rfl | overruled
      · exact given.rank_none_left _
      · exact rank_of_overruled overruled
    exact ⟨_, ranked cause counts, FailureDetail.tells_ofError cause⟩

end Builtin

/-- A scenario whose setup succeeded reports the first failure of its run, and that of its cleanup only
where the run succeeded; a stop that cannot start hides the verdict of one scenario's monitor. -/
theorem runScenario_reports {dispatcher : Dispatcher} {root : Path} {world : World} {name : String}
    {given : Builtin} (admitted : dispatcher.Admits root world.tree name given.scenario) :
    ∃ workdir setup run cleared settled,
      world.tree.absolute (root.join (.ofText given.scenario.directory)) = .ok workdir ∧
      given.Passage (dispatcher.contextIn workdir) world setup run cleared settled ∧
      ((∀ execution ∈ setup, execution.Succeeded) →
        given.Reported (firstComplaint? (dispatcher.contextIn workdir) run)
          (firstComplaint? (dispatcher.contextIn workdir) cleared)
          (dispatcher.runScenario root name world).1) := by
  obtain ⟨workdir, whole, performed⟩ := admitted.runScenario
  obtain ⟨setup, run, cleared, settled, passage, ended⟩ :=
    given.phases_passage (dispatcher.contextIn workdir) admitted.complete world
  refine ⟨workdir, setup, run, cleared, settled, whole, passage, fun succeeded => ?_⟩
  have executed := passage.chain.performed
  have runError : Execution.firstError? run = firstComplaint? (dispatcher.contextIn workdir) run :=
    firstError?_eq_firstComplaint? fun execution member =>
      executed execution (List.mem_append_left _ (List.mem_append_right _ member))
  have clearedError :
      Execution.firstError? cleared = firstComplaint? (dispatcher.contextIn workdir) cleared :=
    firstError?_eq_firstComplaint? fun execution member =>
      executed execution (List.mem_append_right _ member)
  rw [(Execution.firstError?_eq_none_iff setup).2 succeeded, Option.none_or, runError,
    clearedError] at ended
  refine Builtin.reported_of_rank (fun overruled cause failed => ?_) fun cause counts => ?_
  · obtain ⟨refused, same⟩ := passage.spawn_of_overruled succeeded overruled failed
    exact ⟨_, refused, same⟩
  · rw [performed, ended, counts]
    rfl

def silentMonitorDispatcher : Dispatcher where
  registry := Registry.register .empty Plain.logAppNotifications.scenario
  environment := .ofPairs (Variable.jmxDomain.map (·, "known"))
  runner := fun _ tree command =>
    ⟨if command.arguments = ["stop-sample"] then .error .notFound
      else if command.arguments.length = 3 then .ok ⟨"", "no notifications", 1⟩ else .ok ⟨"", "", 0⟩,
      tree, false⟩
  make := "make"
  waiter := .standard defaultTimeoutSeconds defaultPollSeconds
  logArchives := Marker.logArchives

def monitorTree : FileTree :=
  ⟨[([Octets.ofText "LogSource"], .directory),
    ([Octets.ofText "appLogNotifications", Octets.ofText "LogSource"], .directory)],
    [], by decide, by decide, FileTree.named_nil⟩

theorem silentMonitorDispatcher_admits : silentMonitorDispatcher.Admits (.ofText "/") monitorTree
    "LogSource/appLogNotifications" (Builtin.plain .logAppNotifications).scenario := by
  constructor
  · rfl
  · have led : monitorTree.walk true FileTree.maximumLinks []
        [Octets.ofText "LogSource", Octets.ofText "appLogNotifications"] =
        .ok (.taken [Octets.ofText "appLogNotifications", Octets.ofText "LogSource"]
          .directory) := by
      rw [FileTree.walk_cons_directory (by decide) (by decide) (by decide) (by decide),
        FileTree.walk_cons_directory (by decide) (by decide) (by decide) (by decide), FileTree.walk]
      rfl
    exact FileTree.isDirectory_of_walk rfl led
  · decide
  · rfl

/-- The monitor runs and gives no pass, and yet only the stop is reported. -/
theorem runScenario_hides_verdict :
    (∀ earlier tree program directory, (silentMonitorDispatcher.runner earlier tree
      ⟨program, Case.credentials silentMonitorDispatcher.environment, directory⟩).outcome =
      .ok ⟨"", "no notifications", 1⟩) ∧
    (silentMonitorDispatcher.runScenario (.ofText "/") "LogSource/appLogNotifications"
      (.fresh monitorTree)).1 =
      .failed (.message (HarnessError.spawn "make" .notFound).message) := by
  constructor
  · intro earlier tree program directory
    rfl
  · have admitted : silentMonitorDispatcher.Admits (.ofText "/") (World.fresh monitorTree).tree _ _ :=
      silentMonitorDispatcher_admits
    obtain ⟨workdir, -, performed⟩ := admitted.runScenario
    rw [performed]
    rfl

theorem runScenario_reports_silentMonitor :
    ∃ workdir setup run cleared settled,
      monitorTree.absolute ((Path.ofText "/").join
        (.ofText (Builtin.plain .logAppNotifications).scenario.directory)) = .ok workdir ∧
      (Builtin.plain .logAppNotifications).Passage (silentMonitorDispatcher.contextIn workdir)
        (.fresh monitorTree) setup run cleared settled ∧
      ((∀ execution ∈ setup, execution.Succeeded) →
        (Builtin.plain .logAppNotifications).Reported
          (firstComplaint? (silentMonitorDispatcher.contextIn workdir) run)
          (firstComplaint? (silentMonitorDispatcher.contextIn workdir) cleared)
          (silentMonitorDispatcher.runScenario (.ofText "/") "LogSource/appLogNotifications"
            (.fresh monitorTree)).1) :=
  runScenario_reports silentMonitorDispatcher_admits

end ScenarioBench.Catalogue

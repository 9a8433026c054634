import ScenarioBench.Proofs.CaseTasks
import ScenarioBench.Proofs.Dispatch

/-! The course of a case.

Whatever the commands do, the first task that fails determines which commands a case issues. If it is
a task of the setup, nothing follows it. Otherwise the run is followed up to its first failure and the
whole teardown comes after it, so that whatever the case started is stopped.
-/

set_option autoImplicit false

namespace ScenarioBench.Catalogue

/-- The task that stops what a task started, or removes the configuration that it created. -/
@[simp] def Task.undo? : Task → Option Task
  | .target .configure _ | .target .configureJson _ => some (.target .configureClean [])
  | .target .startSample _ => some (.target .stopSample [])
  | .target .startMonitor _ => some (.target .stopMonitor [])
  | .target .startTestDomain _ => some (.target .stopTestDomain [])
  | _ => none

abbrev TaskExecution := Execution World HarnessError Unit Task

/-- The commands that executions issued. -/
def commandsOf (context : Context) (executions : List TaskExecution) : List Command :=
  executions.filterMap fun execution => execution.subject.command? context

theorem commands_of_chain {context : Context} {world last : World} {executions : List TaskExecution}
    (chain : Chain (Task.perform context) world executions last) :
    last.commands = world.commands ++ commandsOf context executions := by
  induction chain with
  | nil => exact (List.append_nil _).symm
  | @cons world between _ task ending rest performed _ ih =>
    have issued := task.perform_commands context world
    rw [performed] at issued
    rw [ih, issued, List.append_assoc, commandsOf, commandsOf, List.filterMap_cons]
    rcases task.command? context with _ | command <;> rfl

theorem succeeded_iff_of_chain {context : Context} {world last : World}
    {executions : List TaskExecution} (chain : Chain (Task.perform context) world executions last) :
    ∀ execution ∈ executions,
      execution.Succeeded ↔ ¬ execution.subject.Fails context execution.before := by
  intro execution member
  rw [← execution.subject.succeeds_iff, chain.performed execution member]
  rfl

namespace Case

theorem undo_mem_teardownTasks (given : Case) (environment : Environment) :
    ∀ task ∈ given.setupTasks ++ given.runTasks environment,
      ∀ undo, task.undo? = some undo → undo ∈ given.teardownTasks := by
  cases given with
  | appConfig case =>
    by_cases stored : case.configuration = .filterDocument <;> cases sample : case.withSample <;>
      simp [stored, sample]
  | reconnect => simp
  | logNotification => simp

theorem undo?_of_mem_dropLast (given : Case) : ∀ task ∈ given.setupTasks.dropLast, task.undo? = none := by
  cases given <;> simp

/-- How a case goes from one world to another: the tasks of its setup, its run and its teardown lead
to `settled`, and then only the final target may follow. -/
structure Course (dispatcher : Dispatcher) (given : Case) (workdir : Path) (world : World)
    (setup run teardown : List TaskExecution) (settled after : World) : Prop where
  chain : Chain (Task.perform (dispatcher.contextIn workdir)) world (setup ++ run ++ teardown) settled
  succeeded_iff : ∀ execution ∈ setup ++ run ++ teardown, execution.Succeeded ↔
    ¬ execution.subject.Fails (dispatcher.contextIn workdir) execution.before
  commands : settled.commands =
    world.commands ++ commandsOf (dispatcher.contextIn workdir) (setup ++ run ++ teardown)
  setupFollowed : Followed Execution.Succeeded (·.subject) given.setupTasks setup
  halted : (∃ execution ∈ setup, ¬ execution.Succeeded) → run = [] ∧ teardown = []
  runFollowed : (∀ execution ∈ setup, execution.Succeeded) →
    Followed Execution.Succeeded (·.subject) (given.runTasks dispatcher.environment) run
  toreDown : (∀ execution ∈ setup, execution.Succeeded) →
    teardown.map (·.subject) = given.teardownTasks
  cleaned : (∀ execution ∈ setup ++ run ++ teardown, execution.Succeeded) →
    after = settled.answered (dispatcher.cleanCommand workdir)
      (dispatcher.runner.reaction settled (dispatcher.cleanCommand workdir))
  uncleaned : (∃ execution ∈ setup ++ run ++ teardown, ¬ execution.Succeeded) → after = settled
  undone : ∀ execution ∈ setup ++ run, (execution ∈ setup → execution.Succeeded) →
    ∀ undo, execution.subject.undo? = some undo → ∃ later ∈ teardown, later.subject = undo

section
variable {dispatcher : Dispatcher} {given : Case} {workdir : Path} {world : World}
  {setup run teardown : List TaskExecution}

theorem undo?_of_failed {execution : TaskExecution}
    (followed : Followed Execution.Succeeded (·.subject) given.setupTasks setup)
    (failed : ∃ other ∈ setup, ¬ other.Succeeded) (member : execution ∈ setup)
    (succeeded : execution.Succeeded) : execution.subject.undo? = none := by
  obtain ⟨other, among, fails⟩ := failed
  exact given.undo?_of_mem_dropLast _ (followed.mem_dropLast among fails member succeeded)

theorem course_of_failed_setup {settled : World}
    (began : Chain (Task.perform (dispatcher.contextIn workdir)) world setup settled)
    (followed : Followed Execution.Succeeded (·.subject) given.setupTasks setup)
    (failed : ∃ execution ∈ setup, ¬ execution.Succeeded) :
    Course dispatcher given workdir world setup [] [] settled settled := by
  have contradicted : ¬ ∀ execution ∈ setup, execution.Succeeded := by
    obtain ⟨execution, member, fails⟩ := failed
    exact fun all => fails (all execution member)
  have only : setup ++ [] ++ [] = setup := by rw [List.append_nil, List.append_nil]
  constructor
  case chain =>
    rw [only]
    exact began
  case succeeded_iff =>
    rw [only]
    exact succeeded_iff_of_chain began
  case commands =>
    rw [only]
    exact commands_of_chain began
  case setupFollowed => exact followed
  case halted => exact fun _ => ⟨rfl, rfl⟩
  case runFollowed => exact fun all => absurd all contradicted
  case toreDown => exact fun all => absurd all contradicted
  case cleaned =>
    rw [only]
    exact fun all => absurd all contradicted
  case uncleaned => exact fun _ => rfl
  case undone =>
    intro execution member succeeded undo known
    rw [List.append_nil] at member
    rw [undo?_of_failed followed failed member (succeeded member)] at known
    cases known

theorem course_of_setup {afterSetup afterRun settled after : World}
    (began : Chain (Task.perform (dispatcher.contextIn workdir)) world setup afterSetup)
    (setupFollowed : Followed Execution.Succeeded (·.subject) given.setupTasks setup)
    (succeeded : ∀ execution ∈ setup, execution.Succeeded)
    (ran : Chain (Task.perform (dispatcher.contextIn workdir)) afterSetup run afterRun)
    (runFollowed : Followed Execution.Succeeded (·.subject)
      (given.runTasks dispatcher.environment) run)
    (cleared : Chain (Task.perform (dispatcher.contextIn workdir)) afterRun teardown settled)
    (toreDown : teardown.map (·.subject) = given.teardownTasks)
    (cleaned : (∀ execution ∈ run ++ teardown, execution.Succeeded) →
      after = settled.answered (dispatcher.cleanCommand workdir)
        (dispatcher.runner.reaction settled (dispatcher.cleanCommand workdir)))
    (uncleaned : (∃ execution ∈ run ++ teardown, ¬ execution.Succeeded) → after = settled) :
    Course dispatcher given workdir world setup run teardown settled after := by
  have chain := (began.append ran).append cleared
  constructor
  case chain => exact chain
  case succeeded_iff => exact succeeded_iff_of_chain chain
  case commands => exact commands_of_chain chain
  case setupFollowed => exact setupFollowed
  case halted =>
    rintro ⟨execution, member, fails⟩
    exact absurd (succeeded execution member) fails
  case runFollowed => exact fun _ => runFollowed
  case toreDown => exact fun _ => toreDown
  case cleaned =>
    intro all
    rw [List.append_assoc] at all
    exact cleaned fun execution member => all execution (List.mem_append_right _ member)
  case uncleaned =>
    rintro ⟨execution, member, fails⟩
    rw [List.append_assoc] at member
    rcases List.mem_append.1 member with early | late
    · exact absurd (succeeded execution early) fails
    · exact uncleaned ⟨execution, late, fails⟩
  case undone =>
    intro execution member _ undo known
    -- What was executed was planned, and the teardown is made for everything that is planned.
    have task : execution.subject ∈ given.setupTasks ++ given.runTasks dispatcher.environment := by
      rcases List.mem_append.1 member with early | late
      · exact List.mem_append_left _ (setupFollowed.subject_mem early)
      · exact List.mem_append_right _ (runFollowed.subject_mem late)
    have planned := given.undo_mem_teardownTasks _ _ task undo known
    rw [← toreDown] at planned
    exact List.mem_map.1 planned

end

/-- The commands of a case are determined by the first task that fails. -/
theorem runScenario_course {dispatcher : Dispatcher} {root : Path} {world : World} {name : String}
    {given : Case} (admitted : dispatcher.Admits root world.tree name given.scenario) :
    ∃ workdir setup run teardown settled,
      world.tree.absolute (root.join (.ofText given.scenario.directory)) = .ok workdir ∧
      Course dispatcher given workdir world setup run teardown settled
        (dispatcher.runScenario root name world).2 := by
  obtain ⟨workdir, whole, performed⟩ := admitted.runScenario
  rw [performed]
  obtain ⟨setup, afterSetup, began, setupFollowed, setupEnd⟩ :=
    Chain.forM (Task.perform (dispatcher.contextIn workdir)) given.setupTasks world
  rw [← setup_eq] at setupEnd
  -- Run and teardown exist only where the setup has no error.
  rcases failure : Execution.firstError? setup with _ | cause
  · obtain ⟨run, afterRun, ran, runFollowed, runEnd⟩ :=
      Chain.forM (Task.perform (dispatcher.contextIn workdir))
        (given.runTasks dispatcher.environment) afterSetup
    obtain ⟨teardown, settled, cleared, toreDown, teardownEnd⟩ :=
      Chain.firstError (Task.perform (dispatcher.contextIn workdir)) given.teardownTasks afterRun
    rw [Execution.outcome, failure] at setupEnd
    rw [← teardown_eq] at teardownEnd
    have runEndToo : given.scenario.run (dispatcher.contextIn workdir) afterSetup =
        (Execution.outcome run, afterRun) := by
      rw [given.run_eq _ admitted.complete]
      exact runEnd
    rw [Dispatcher.phases_of_setup_ok setupEnd runEndToo teardownEnd]
    refine ⟨workdir, setup, run, teardown, settled, whole, course_of_setup began setupFollowed
      ((Execution.firstError?_eq_none_iff setup).1 failure) ran runFollowed cleared toreDown ?_ ?_⟩
    · intro all
      have ranWell := (Execution.outcome_eq_ok_iff run).2 fun execution member =>
        all execution (List.mem_append_left _ member)
      have clearedWell := (Execution.outcome_eq_ok_iff teardown).2 fun execution member =>
        all execution (List.mem_append_right _ member)
      rw [ranWell, clearedWell]
      exact congrArg (·.2) (dispatcher.makeClean_apply workdir settled)
    · rintro ⟨execution, member, fails⟩
      rcases runOutcome : Execution.outcome run with cause | value
      · rfl
      · rcases teardownOutcome : Execution.outcome teardown with cause | value
        · rfl
        · rcases List.mem_append.1 member with early | late
          · exact absurd ((Execution.outcome_eq_ok_iff run).1 runOutcome execution early) fails
          · exact absurd ((Execution.outcome_eq_ok_iff teardown).1 teardownOutcome execution late) fails
  · have failed := Execution.exists_of_firstError? failure
    rw [Execution.outcome, failure] at setupEnd
    rw [Dispatcher.phases_of_setup_error setupEnd]
    exact ⟨workdir, setup, [], [], afterSetup, whole,
      course_of_failed_setup began setupFollowed failed⟩

def refusingDispatcher : Dispatcher where
  registry := Registry.register .empty logNotificationCase
  environment := .ofPairs (Variable.jmxDomain.map (·, "known"))
  runner := fun _ tree _ => ⟨.ok ⟨"", "refused", 1⟩, tree, false⟩
  make := "make"
  waiter := .standard defaultTimeoutSeconds defaultPollSeconds
  logArchives := Marker.logArchives

def notificationTree : FileTree :=
  ⟨[([Octets.ofText "LogSource"], .directory),
    ([Octets.ofText "test_log_notification", Octets.ofText "LogSource"], .directory)],
    [], by decide, by decide, FileTree.named_nil⟩

theorem runScenario_refused :
    ∃ workdir setup run teardown settled,
      notificationTree.absolute ((Path.ofText "/").join (.ofText logNotification.scenario.directory)) =
        .ok workdir ∧
      Course refusingDispatcher logNotification workdir (.fresh notificationTree) setup run teardown
        settled (refusingDispatcher.runScenario (.ofText "/")
          "LogSource/test_log_notification/standalone" (.fresh notificationTree)).2 := by
  have admitted : refusingDispatcher.Admits (.ofText "/") notificationTree
      "LogSource/test_log_notification/standalone" logNotification.scenario := by
    constructor
    · rfl
    · have led : notificationTree.walk true FileTree.maximumLinks []
          [Octets.ofText "LogSource", Octets.ofText "test_log_notification"] =
          .ok (.taken [Octets.ofText "test_log_notification", Octets.ofText "LogSource"]
            .directory) := by
        rw [FileTree.walk_cons_directory (by decide) (by decide) (by decide) (by decide),
          FileTree.walk_cons_directory (by decide) (by decide) (by decide) (by decide), FileTree.walk]
        rfl
      exact FileTree.isDirectory_of_walk rfl led
    · decide
    · rfl
  exact runScenario_course admitted

end Case

end ScenarioBench.Catalogue

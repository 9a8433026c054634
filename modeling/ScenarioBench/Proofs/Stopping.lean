import Mathlib
import ScenarioBench.Proofs.BuiltinTasks

/-! Stopping what a plain scenario started.

A plain scenario has no teardown and stops by hand what it started: at its end, and where it gives up a
sentinel or the standalone monitor. Main statement: every start is followed by its stop before the body
returns, unless the log source's reconnect fails at a target after something was started. There it returns at
once, and what was started is left running.
-/

set_option autoImplicit false

namespace ScenarioBench.Catalogue

namespace Task

@[simp] def stop? : Task → Option Task
  | .target .startMonitor _ => some (.target .stopMonitor [])
  | .target .startSample _ => some (.target .stopSample [])
  | .target .startTestDomain _ => some (.target .stopTestDomain [])
  | _ => none

@[simp] def isTarget : Task → Bool
  | .target _ _ => true
  | _ => false

def Exits (context : Context) (world : World) (task : Task) (code : Int) : Prop :=
  ∃ command output, task.command? context = some command ∧
    (context.runner.reaction world command).outcome = .ok output ∧ output.exitCode = code

theorem exits_zero_iff {task : Task} (starts : task.stop? ≠ none) (context : Context)
    (world : World) : task.Exits context world 0 ↔ ¬ task.Fails context world := by
  cases task with
  | target wanted extra =>
    have must : wanted.mustSucceed = true := by
      cases wanted <;> first | rfl | exact absurd rfl starts
    simp only [Exits, command?, Fails, must, true_and]
    rcases met : (context.runner.reaction world (context.targetCommand wanted extra)).outcome
      with cause | output
    · simp [met]
    · simp [met]
  | _ => exact absurd rfl starts

end Task

/-- After every start that exited with 0 comes its stop. -/
def Stopped (context : Context) (executions : List TaskExecution) : Prop :=
  ∀ start later, start :: later <:+ executions → start.subject.Exits context start.before 0 →
    ∀ stop, start.subject.stop? = some stop → ∃ execution ∈ later, execution.subject = stop

def Abandoned (context : Context) (run : List TaskExecution) : Prop :=
  (∃ start ∈ run, start.subject.stop? ≠ none ∧ start.subject.Exits context start.before 0) ∧
    ∃ failing ∈ run, failing.subject.isTarget = true ∧
      failing.subject.Fails context failing.before

namespace Plain

theorem stop_mem_cleanupTasks_none (given : Plain) (environment : Environment) :
    ∀ task ∈ given.runTasks environment, ∀ stop, task.stop? = some stop →
      stop ∈ given.cleanupTasks none := by
  cases given <;> simp

/-- The cleanup after a failure stops whatever was started before it, except after a target of the
reconnect. -/
theorem pairwise_stop_mem_cleanupTasks (given : Plain) (environment : Environment) :
    (given.runTasks environment).Pairwise fun start failing =>
      ∀ stop, start.stop? = some stop →
        stop ∈ given.cleanupTasks (some failing) ∨
          given = .logJmxReconnect ∧ failing.isTarget = true := by
  cases given <;> simp

theorem stop?_of_mem_cleanupTasks (given : Plain) (failed : Option Task) :
    ∀ task ∈ given.cleanupTasks failed, task.stop? = none := by
  unfold cleanupTasks
  split <;> decide

/-- What a reconnect has done when a target fails: something that it started has no stop in it. -/
theorem left_running (environment : Environment) :
    ∀ done ∈ (runTasks environment .logJmxReconnect).inits,
      (∃ last ∈ done.getLast?, last.isTarget = true) →
      (∃ start ∈ done.dropLast, start.stop? ≠ none) →
      ∃ start ∈ done.dropLast, ∃ stop ∈ start.stop?, stop ∉ done := by
  simp only [runTasks]
  decide

structure Body (given : Plain) (context : Context) (world : World)
    (run cleared : List TaskExecution) (settled : World) : Prop where
  chain : Chain (Task.perform context) world (run ++ cleared) settled
  followed : Followed Execution.Succeeded (·.subject) (given.runTasks context.environment) run
  whole : cleared.map (·.subject) = given.cleanupTasks (Execution.failed? run)
  returned : (given.scenario.run context world).2 = settled
  commands : settled.commands = world.commands ++ commandsOf context (run ++ cleared)

variable {given : Plain} {context : Context} {world settled : World}
  {run cleared : List TaskExecution}

theorem exists_body (complete : context.environment.missing given.scenario.required = [])
    (world : World) : ∃ run cleared settled, given.Body context world run cleared settled := by
  obtain ⟨run, between, cleared, settled, recovery, ended⟩ :=
    given.run_recovers context complete world
  have chain := recovery.ran.append recovery.clearing
  exact ⟨run, cleared, settled, chain, recovery.followed, recovery.whole,
    congrArg (·.2) ended, commands_of_chain chain⟩

namespace Body

theorem succeeded_iff (body : given.Body context world run cleared settled) :
    ∀ execution ∈ run, execution.Succeeded ↔
      ¬ execution.subject.Fails context execution.before :=
  fun execution member =>
    succeeded_iff_of_chain body.chain execution (List.mem_append_left _ member)

theorem stop_mem_cleared (body : given.Body context world run cleared settled)
    (carried : ¬ (given = .logJmxReconnect ∧ Abandoned context run)) :
    ∀ start ∈ run, start.subject.Exits context start.before 0 →
      ∀ stop, start.subject.stop? = some stop → ∃ execution ∈ cleared, execution.subject = stop := by
  intro start member exits stop known
  have starts : start.subject.stop? ≠ none := by rw [known]; exact Option.some_ne_none stop
  have succeeded : start.Succeeded :=
    (body.succeeded_iff start member).2 ((Task.exits_zero_iff starts context _).1 exits)
  suffices planned : stop ∈ given.cleanupTasks (Execution.failed? run) by
    rw [← body.whole] at planned
    exact List.mem_map.1 planned
  rcases failed : Execution.failed? run with _ | task
  · exact given.stop_mem_cleanupTasks_none _ _ (body.followed.subject_mem member) stop known
  · -- What stopped the run stands after the start in the plan, and decides the cleanup.
    have after := body.followed.related_of_failed?
      (given.pairwise_stop_mem_cleanupTasks context.environment) member succeeded failed
    rcases after stop known with planned | ⟨same, target⟩
    · exact planned
    · obtain ⟨before, failing, rfl, rfl, fails, -⟩ := body.followed.split_of_failed? failed
      have among : failing ∈ before ++ [failing] := List.mem_append_right _ (List.mem_singleton_self _)
      have fails := mt (body.succeeded_iff failing among).2 fails
      exact absurd ⟨same, ⟨start, member, starts, exits⟩, failing, among, target,
        Classical.not_not.1 fails⟩ carried

theorem stop?_of_mem_cleared (body : given.Body context world run cleared settled) :
    ∀ execution ∈ cleared, execution.subject.stop? = none := by
  intro execution member
  refine given.stop?_of_mem_cleanupTasks (Execution.failed? run) _ ?_
  rw [← body.whole]
  exact List.mem_map_of_mem member

theorem stopped_of_carried (body : given.Body context world run cleared settled)
    (carried : ¬ (given = .logJmxReconnect ∧ Abandoned context run)) :
    Stopped context (run ++ cleared) := by
  rintro start later ⟨before, split⟩ exits stop known
  have begun : start ∉ cleared := by
    intro member
    rw [body.stop?_of_mem_cleared start member] at known
    cases known
  -- The cleanup starts nothing, so that all of it comes after the start.
  obtain ⟨rest, rfl, left⟩ : ∃ rest, run = before ++ start :: rest ∧ later = rest ++ cleared := by
    rcases List.append_eq_append_iff.1 split with ⟨part, rfl, left⟩ | ⟨part, -, rfl⟩
    · rcases List.cons_eq_append_iff.1 left with ⟨rfl, rfl⟩ | ⟨rest, rfl, rfl⟩
      · exact absurd List.mem_cons_self begun
      · exact ⟨rest, rfl, rfl⟩
    · exact absurd (List.mem_append_right _ List.mem_cons_self) begun
  obtain ⟨execution, among, same⟩ := body.stop_mem_cleared carried start
    (List.mem_append_right _ List.mem_cons_self) exits stop known
  rw [left]
  exact ⟨execution, List.mem_append_right _ among, same⟩

theorem cleared_eq_nil (body : Body .logJmxReconnect context world run cleared settled) {task : Task}
    (failed : Execution.failed? run = some task) (target : task.isTarget = true) : cleared = [] := by
  have whole := body.whole
  rw [failed] at whole
  cases task with
  | target => exact List.map_eq_nil_iff.1 whole
  | _ => cases target

theorem not_stopped_of_abandoned
    (body : Body .logJmxReconnect context world run cleared settled)
    (abandoned : Abandoned context run) : ¬ Stopped context (run ++ cleared) := by
  obtain ⟨⟨start, begun, starts, exits⟩, failing, member, target, fails⟩ := abandoned
  have succeeded := (body.succeeded_iff start begun).2 ((Task.exits_zero_iff starts context _).1 exits)
  have failed : ¬ failing.Succeeded := fun good => (body.succeeded_iff failing member).1 good fails
  obtain ⟨before, rfl, passed⟩ := body.followed.stopped failing member failed
  have earlier := Execution.mem_of_mem_append_failing begun failed succeeded
  obtain ⟨task, among, stop, known, missing⟩ := left_running context.environment
    ((before ++ [failing]).map (·.subject)) ((List.mem_inits _ _).2 body.followed.inOrder)
    ⟨failing.subject, by simp, target⟩ ⟨start.subject, by simpa using ⟨start, earlier, rfl⟩, starts⟩
  obtain rfl := body.cleared_eq_nil (Execution.failed?_append_singleton passed failed) target
  rw [List.map_append, List.map_singleton, List.dropLast_concat] at among
  obtain ⟨execution, done, rfl⟩ := List.mem_map.1 among
  intro stopped
  -- The start has to be stopped in the run itself, but its stop is no task of it.
  obtain ⟨front, back, rfl⟩ := List.append_of_mem done
  have executionStarts : execution.subject.stop? ≠ none := by
    rw [known]
    exact Option.some_ne_none stop
  have executionExits := (Task.exits_zero_iff executionStarts context _).2
    ((body.succeeded_iff execution (List.mem_append_left _ done)).1 (passed execution done))
  obtain ⟨other, later, same⟩ := stopped execution (back ++ [failing]) ⟨front, by simp⟩
    executionExits stop known
  refine missing (same ▸ List.mem_map_of_mem ?_)
  rw [List.append_assoc]
  exact List.mem_append_right _ (List.mem_cons_of_mem _ later)

theorem phases_extends_settled (body : given.Body context world run cleared settled) :
    settled.Extends (Dispatcher.phases given.scenario context world).2 := by
  rcases ran : given.scenario.run context world with ⟨cause | value, after⟩
  all_goals
    obtain rfl : after = settled := (congrArg (·.2) ran).symm.trans body.returned
    rw [given.phases_eq context]
  · rw [Action.bind_of_error ran]
    exact Std.Refl.refl after
  · rw [Action.bind_of_ok ran]
    exact context.require_extends _ _ after

end Body

end Plain

/-- Every plain scenario stops what it started before its body returns, except that the log source's
reconnect does so only where it is not abandoned at a target. -/
theorem runScenario_stops {dispatcher : Dispatcher} {root : Path} {world : World} {name : String}
    {given : Plain} (admitted : dispatcher.Admits root world.tree name given.scenario) :
    ∃ workdir run cleared settled,
      world.tree.absolute (root.join (.ofText given.scenario.directory)) = .ok workdir ∧
      given.Body (dispatcher.contextIn workdir) world run cleared settled ∧
      settled.Extends (dispatcher.runScenario root name world).2 ∧
      (Stopped (dispatcher.contextIn workdir) (run ++ cleared) ↔
        ¬ (given = .logJmxReconnect ∧ Abandoned (dispatcher.contextIn workdir) run)) := by
  obtain ⟨workdir, whole, performed⟩ := admitted.runScenario
  have complete : (dispatcher.contextIn workdir).environment.missing given.scenario.required = [] :=
    admitted.complete
  obtain ⟨run, cleared, settled, body⟩ := Plain.exists_body complete world
  refine ⟨workdir, run, cleared, settled, whole, body, ?_, ?_, body.stopped_of_carried⟩
  · rw [performed]
    exact body.phases_extends_settled
  · rintro stopped ⟨rfl, abandoned⟩
    exact body.not_stopped_of_abandoned abandoned stopped

def brokenBuildDispatcher : Dispatcher where
  registry := Registry.register .empty Plain.logJmxReconnect.scenario
  environment := .ofPairs (reconnectVariables.map (·, "known"))
  runner := fun _ tree command =>
    ⟨.ok (if command.arguments = ["all"] then ⟨"", "build failed", 2⟩ else ⟨"", "", 0⟩), tree, false⟩
  make := "make"
  waiter := .standard defaultTimeoutSeconds defaultPollSeconds
  logArchives := Marker.logArchives

def reconnectTree : FileTree :=
  ⟨[([Octets.ofText "LogSource"], .directory),
    ([Octets.ofText "jmxReconnect", Octets.ofText "LogSource"], .directory)],
    [], by decide, by decide, FileTree.named_nil⟩

/-- The second domain is started, and no command stops it when the build fails. -/
theorem runScenario_leaves_domain :
    (brokenBuildDispatcher.runScenario (.ofText "/") "LogSource/jmxReconnect"
      (.fresh reconnectTree)).2.commands =
      [⟨"make", ["start-test-domain"], .ofText "/LogSource/jmxReconnect"⟩,
        ⟨"make", ["all"], .ofText "/LogSource/jmxReconnect"⟩] ∧
    (brokenBuildDispatcher.runner [] reconnectTree
      ⟨"make", ["start-test-domain"], .ofText "/LogSource/jmxReconnect"⟩).outcome =
      .ok ⟨"", "", 0⟩ := by
  constructor
  · cbv
  · rfl

theorem runScenario_stops_brokenBuild :
    ∃ workdir run cleared settled,
      reconnectTree.absolute ((Path.ofText "/").join
        (.ofText Plain.logJmxReconnect.scenario.directory)) = .ok workdir ∧
      Plain.logJmxReconnect.Body (brokenBuildDispatcher.contextIn workdir) (.fresh reconnectTree) run
        cleared settled ∧
      settled.Extends (brokenBuildDispatcher.runScenario (.ofText "/") "LogSource/jmxReconnect"
        (.fresh reconnectTree)).2 ∧
      (Stopped (brokenBuildDispatcher.contextIn workdir) (run ++ cleared) ↔
        ¬ (Plain.logJmxReconnect = .logJmxReconnect ∧
          Abandoned (brokenBuildDispatcher.contextIn workdir) run)) := by
  have admitted : brokenBuildDispatcher.Admits (.ofText "/") reconnectTree "LogSource/jmxReconnect"
      Plain.logJmxReconnect.scenario := by
    constructor
    · rfl
    · cbv
    · decide
    · rfl
  exact runScenario_stops admitted

end ScenarioBench.Catalogue

import Mathlib
import ScenarioBench.Proofs.BuiltinTasks
import ScenarioBench.Proofs.Gates
import ScenarioBench.Proofs.Lifecycle
import ScenarioBench.Proofs.Removal

/-! What a scenario that passed has to show for it.

A sentinel may be left from an earlier run. It is removed before any command is issued, and only a command
can make it appear again, so that a sentinel that can be read later was made by a command of this run. Main
statement: a scenario of the toolkit that passed has every sentinel made anew, or the word of its standalone
monitor, and none of its commands went wrong.
-/

set_option autoImplicit false

namespace ScenarioBench.Catalogue

open Marker (firstSentinel secondSentinel)

namespace Builtin

@[simp] def sentinels : Builtin → List String
  | plain .metricsAppConfig | case (.appConfig _) => [firstSentinel]
  | plain .logJmxReconnect | case .reconnect => [firstSentinel, secondSentinel]
  | plain .logAppNotifications | case .logNotification => []

theorem exists_discard_of_reconnect (environment : Environment) {name : String}
    (required : name ∈ [firstSentinel, secondSentinel]) :
    ∃ first between rest : List Task, Plain.runTasks environment .logJmxReconnect =
        first ++ .discard name :: (between ++ .sentinel name :: rest) ∧
      ∀ context, ∀ task ∈ first, Task.command? context task = none := by
  rcases List.mem_pair.1 required with rfl | rfl
  · exact ⟨[], [.discard secondSentinel, .discardArchives, .target .startTestDomain [],
      .target .all [], .target .startMonitor [], .target .startSample []], _, rfl, by simp⟩
  · exact ⟨[.discard firstSentinel], [.discardArchives, .target .startTestDomain [],
      .target .all [], .target .startMonitor [], .target .startSample [], .sentinel firstSentinel,
      .target .stopTestDomain [], .target .startTestDomain [], .target .startSample []], [], rfl,
      by simp⟩

theorem exists_discard_of_mem_sentinels (given : Builtin) (environment : Environment) :
    ∀ name ∈ given.sentinels, ∃ first between rest : List Task,
      given.setupTasks ++ given.runTasks environment =
        first ++ .discard name :: (between ++ .sentinel name :: rest) ∧
      ∀ context, ∀ task ∈ first, Task.command? context task = none := by
  intro name required
  cases given with
  | plain given =>
    cases given with
    | metricsAppConfig =>
      obtain rfl := List.mem_singleton.1 required
      refine ⟨[], [.discardArchives, .target .configure [], .target .all [],
        .target .startMonitor []], [], rfl, by simp⟩
    | logJmxReconnect => exact exists_discard_of_reconnect environment required
    | logAppNotifications => cases required
  | case given =>
    cases given with
    | appConfig case =>
      obtain rfl := List.mem_singleton.1 required
      let stored := if case.configuration = .filterDocument then Target.configureJson else .configure
      let sample : List Task := if case.withSample then [.target .startSample []] else []
      refine ⟨[], [.discardArchives, .target stored [], .target .all [],
        .target .startMonitor case.monitorArguments].append sample, [], ?_, by simp⟩
      simp [stored, sample]
    | reconnect =>
      -- The setup and the run of the case are the plan of the plain scenario.
      exact exists_discard_of_reconnect environment required
    | logNotification => cases required

theorem eq_none_of_rank {given : Builtin} {run cleanup : Option HarnessError}
    (ranked : given.rank run cleanup = none) : run = none ∧ cleanup = none := by
  cases given with
  | case given => exact Option.or_eq_none_iff.1 ranked
  | plain given =>
    cases given with
    | metricsAppConfig | logJmxReconnect => exact Option.or_eq_none_iff.1 ranked
    | logAppNotifications =>
      rcases run with _ | (_ | _)
      · exact ⟨rfl, ranked⟩
      · exact absurd (Option.or_eq_none_iff.1 ranked).2 nofun
      all_goals cases ranked

end Builtin

namespace Task

variable {context : Context}

theorem perform_clears {task : Task} (silent : task.command? context = none) :
    Action.Follows (task.perform context) World.Clears := by
  cases task with
  | target | monitor => cases silent
  | sentinel name =>
    intro world
    rw [perform, expectSentinel_apply, context.requireSentinel_apply]
    exact Std.Refl.refl world
  | discard name => exact ScratchFiles.remove_clears _
  | discardArchives =>
    exact .bind (ScratchFiles.removeMatching_clears _ _) fun _ => .pure ()

theorem perform_tree {task : Task} {command : Command} (known : task.command? context = some command)
    (world : World) :
    (task.perform context world).2.tree = (context.runner.reaction world command).tree := by
  cases task with
  | target wanted extra =>
    cases known
    exact congrArg (·.2.tree) (context.require_apply wanted extra world)
  | monitor arguments =>
    cases known
    exact congrArg (·.2.tree) (monitor_apply context world arguments)
  | _ => cases known

theorem not_holds_of_discard {name : String} {world after : World}
    (isName : Path.IsName (Octets.ofText name)) (lookedUp : FileTree.LookedUp (Octets.ofText name))
    (discarded : (discard name).perform context world = (.ok (), after)) :
    ¬ after.tree.Holds (context.path name) := by
  rw [perform, Context.remove, ScratchFiles.remove_apply] at discarded
  have entry := FileTree.namesEntry_join context.workdir isName lookedUp
  split at discarded
  · rename_i tree removed
    cases discarded
    exact ScratchFiles.not_holds_of_removeFrom entry removed
  · cases discarded

theorem read_of_sentinel {name : String} {world after : World}
    (checked : (sentinel name).perform context world = (.ok (), after)) :
    ∃ content, world.tree.read (context.path name) = .ok content := by
  rw [perform, expectSentinel_apply, context.requireSentinel_apply] at checked
  rcases readable : world.tree.read (context.path name) with cause | content
  · rw [readable] at checked
    cases checked
  · exact ⟨content, rfl⟩

end Task

/-- A sentinel was removed before any command was issued, a command made it appear again, and it could be
read when it was looked for. -/
def MadeAnew (context : Context) (name : String) (executions : List TaskExecution) : Prop :=
  ∃ (first between rest : List TaskExecution) (removal check : TaskExecution),
    executions = first ++ removal :: (between ++ check :: rest) ∧
    (∀ execution ∈ first, execution.subject.command? context = none) ∧
    removal.subject = .discard name ∧ check.subject = .sentinel name ∧
    (∃ content, check.before.tree.read (context.path name) = .ok content) ∧
    ∃ maker ∈ between, ∃ command, maker.subject.command? context = some command ∧
      ¬ maker.before.tree.Holds (context.path name) ∧
      (context.runner.reaction maker.before command).tree.Holds (context.path name)

theorem isName_of_mem_sentinels {given : Builtin} {name : String} (required : name ∈ given.sentinels) :
    Path.IsName (Octets.ofText name) ∧ FileTree.LookedUp (Octets.ofText name) := by
  have known : name = firstSentinel ∨ name = secondSentinel := by
    rcases given with (_ | _ | _) | (_ | _ | _) <;> simp at required <;> tauto
  rcases known with rfl | rfl <;>
    exact ⟨⟨by decide, by decide⟩, ⟨by decide, by decide⟩⟩

theorem madeAnew_of_chain {given : Builtin} {context : Context} {world last : World}
    {executions : List TaskExecution} {name : String} (required : name ∈ given.sentinels)
    (chain : Chain (Task.perform context) world executions last)
    (subjects : executions.map (·.subject) =
      given.setupTasks ++ given.runTasks context.environment)
    (succeeded : ∀ execution ∈ executions, execution.Succeeded) :
    MadeAnew context name executions := by
  obtain ⟨isName, lookedUp⟩ := isName_of_mem_sentinels required
  obtain ⟨planned, after, later, plan, silent⟩ :=
    given.exists_discard_of_mem_sentinels context.environment name required
  -- The executions are cut where the plan is cut: at the removal and at the check.
  rw [plan, List.map_eq_append_iff] at subjects
  obtain ⟨first, rest, rfl, sameFirst, subjects⟩ := subjects
  obtain ⟨removal, rest, rfl, discards, subjects⟩ := List.map_eq_cons_iff.1 subjects
  obtain ⟨between, rest, rfl, -, subjects⟩ := List.map_eq_append_iff.1 subjects
  obtain ⟨check, rest, rfl, checks, -⟩ := List.map_eq_cons_iff.1 subjects
  -- The sentinel is missing after its removal and there when it is looked for.
  obtain ⟨start, -, others⟩ := chain.split
  obtain ⟨-, removed, others⟩ := others.uncons
  obtain ⟨looked, made, others⟩ := others.split
  obtain ⟨here, checked, -⟩ := others.uncons
  obtain ⟨_, removalEnd⟩ := succeeded removal (by simp)
  obtain ⟨_, checkEnd⟩ := succeeded check (by simp)
  rw [discards, removalEnd] at removed
  rw [checks, checkEnd] at checked
  have absent := Task.not_holds_of_discard isName lookedUp removed
  obtain ⟨content, readable⟩ := Task.read_of_sentinel checked
  -- One of the executions in between made the difference.
  obtain ⟨maker, member, before, after⟩ := made.exists_brings_about
    (fun world => world.tree.Holds (context.path name)) absent (FileTree.holds_of_read readable)
  have performed := made.performed maker member
  have issued : maker.subject.command? context ≠ none := by
    -- Nothing appears without a command.
    intro none
    have cleared := Task.perform_clears none maker.before
    rw [performed] at cleared
    exact before (cleared _ after)
  obtain ⟨command, known⟩ := Option.ne_none_iff_exists'.1 issued
  have tree := Task.perform_tree known maker.before
  rw [performed] at tree
  refine ⟨first, between, rest, removal, check, rfl, fun execution among => ?_, discards, checks,
    ⟨content, here ▸ readable⟩, maker, member, command, known, before, tree ▸ after⟩
  exact silent context _ (sameFirst ▸ List.mem_map_of_mem among)

def MonitorPassed (context : Context) (run : List TaskExecution) : Prop :=
  ∃ execution ∈ run, ∃ arguments output, execution.subject = .monitor arguments ∧
    (context.runner.reaction execution.before
      (context.executableCommand Marker.monitorStandalone arguments)).outcome = .ok output ∧
    output.exitCode = 0 ∧ Marker.pass.toList <:+: output.stdout.toList

/-- What a scenario that passed has to show. -/
structure Evident (given : Builtin) (dispatcher : Dispatcher) (workdir : Path) (world : World)
    (setup run cleared : List TaskExecution) (settled after : World) : Prop where
  whole : (setup ++ run ++ cleared).map (·.subject) =
    given.setupTasks ++ given.runTasks dispatcher.environment ++ given.cleanupTasks none
  sentinels : ∀ name ∈ given.sentinels,
    MadeAnew (dispatcher.contextIn workdir) name (setup ++ run)
  monitor : given.sentinels = [] → MonitorPassed (dispatcher.contextIn workdir) run
  started : ∀ execution ∈ setup ++ run ++ cleared, ∀ command,
    execution.subject.command? (dispatcher.contextIn workdir) = some command →
    ∃ output, (dispatcher.runner.reaction execution.before command).outcome = .ok output ∧
      ∀ wanted extra, execution.subject = .target wanted extra → wanted.mustSucceed = true →
        output.exitCode = 0
  cleaned : ∃ output, output.exitCode = 0 ∧
    (dispatcher.runner.reaction settled (dispatcher.cleanCommand workdir)).outcome = .ok output
  commands : after.commands = world.commands ++
    commandsOf (dispatcher.contextIn workdir) (setup ++ run ++ cleared) ++
    [dispatcher.cleanCommand workdir]

theorem Task.started_of_not_fails {context : Context} {world : World} {task : Task}
    (well : ¬ task.Fails context world) {command : Command}
    (known : task.command? context = some command) :
    ∃ output, (context.runner.reaction world command).outcome = .ok output ∧
      ∀ wanted extra, task = .target wanted extra → wanted.mustSucceed = true →
        output.exitCode = 0 := by
  cases task with
  | target wanted extra =>
    cases known
    simp only [Fails] at well
    split at well
    · exact absurd trivial well
    · rename_i output met
      refine ⟨output, met, ?_⟩
      intro other others same must
      cases same
      by_contra nonzero
      exact well ⟨must, nonzero⟩
  | monitor arguments =>
    cases known
    simp only [Fails] at well
    split at well
    · exact absurd trivial well
    · rename_i output met
      refine ⟨output, met, fun other others same => ?_⟩
      cases same
  | _ => cases known

theorem Builtin.exists_monitor (given : Builtin) (environment : Environment)
    (bare : given.sentinels = []) : ∃ arguments, .monitor arguments ∈ given.runTasks environment := by
  rcases given with (_ | _ | _) | (_ | _ | _)
  case plain.logAppNotifications | case.logNotification =>
    exact ⟨Case.credentials environment, by simp⟩
  all_goals cases bare

theorem monitorPassed {given : Builtin} {context : Context} {run : List TaskExecution}
    (subjects : run.map (·.subject) = given.runTasks context.environment)
    (well : ∀ execution ∈ run, ¬ execution.subject.Fails context execution.before)
    (bare : given.sentinels = []) : MonitorPassed context run := by
  obtain ⟨arguments, planned⟩ := given.exists_monitor context.environment bare
  rw [← subjects] at planned
  obtain ⟨execution, member, same⟩ := List.mem_map.1 planned
  have good := well execution member
  simp only [same, Task.Fails] at good
  split at good
  · exact absurd trivial good
  · rename_i output met
    exact ⟨execution, member, arguments, output, same, met, Classical.not_not.1 good⟩

theorem Builtin.exists_of_passed {dispatcher : Dispatcher} {root : Path} {world : World} {name : String}
    (toolkit : dispatcher.registry = registry)
    (passed : (dispatcher.runScenario root name world).1 = .passed) :
    ∃ given : Builtin, dispatcher.registry.scenario? name = some given.scenario := by
  rcases dispatcher.refusal_or_admits root world.tree name with ⟨result, refusal⟩ | ⟨scenario, admitted⟩
  · rw [refusal.runScenario] at passed
    cases refusal <;> cases passed
  · have member : scenario ∈ scenarios := mem_of_scenario?_registry (toolkit ▸ admitted.registered)
    obtain ⟨given, rfl⟩ := exists_of_mem_scenarios member
    exact ⟨given, admitted.registered⟩

/-- A scenario of the toolkit that passed has evidence of this run, and on the toolkit's own registry nothing else can
pass. -/
theorem runScenario_evident {dispatcher : Dispatcher} {root : Path} {world : World} {name : String}
    (passed : (dispatcher.runScenario root name world).1 = .passed) :
    (∀ given : Builtin, dispatcher.registry.scenario? name = some given.scenario →
      ∃ workdir setup run cleared settled,
        world.tree.absolute (root.join (.ofText given.scenario.directory)) = .ok workdir ∧
        given.Passage (dispatcher.contextIn workdir) world setup run cleared settled ∧
        Evident given dispatcher workdir world setup run cleared settled
          (dispatcher.runScenario root name world).2) ∧
    (dispatcher.registry = registry →
      ∃ given : Builtin, dispatcher.registry.scenario? name = some given.scenario) := by
  refine ⟨fun given registered => ?_, fun toolkit => Builtin.exists_of_passed toolkit passed⟩
  have admitted := Dispatcher.admits_of_passed registered passed
  obtain ⟨workdir, whole, performed⟩ := admitted.runScenario
  obtain ⟨setup, run, cleared, settled, passage, ended⟩ :=
    given.phases_passage (dispatcher.contextIn workdir) admitted.complete world
  refine ⟨workdir, setup, run, cleared, settled, whole, passage, ?_⟩
  rw [performed] at passed ⊢
  -- Only where no error counts the final target decides.
  rcases counts : (Execution.firstError? setup).or
    (given.rank (Execution.firstError? run) (Execution.firstError? cleared)) with _ | cause
  · rw [counts] at ended
    rw [ended, dispatcher.makeClean_apply, Dispatcher.resultOf_targetEnding_clean] at passed
    obtain ⟨setupWell, ranked⟩ := Option.or_eq_none_iff.1 counts
    obtain ⟨runWell, clearedWell⟩ := Builtin.eq_none_of_rank ranked
    rw [Execution.firstError?_eq_none_iff] at setupWell runWell clearedWell
    have subjects : (setup ++ run).map (·.subject) =
        given.setupTasks ++ given.runTasks dispatcher.environment := passage.subjects setupWell runWell
    have allWell : ∀ execution ∈ setup ++ run ++ cleared, execution.Succeeded := by
      simp only [List.mem_append]
      rintro execution ((early | middle) | late)
      · exact setupWell execution early
      · exact runWell execution middle
      · exact clearedWell execution late
    -- What succeeded is known by the reaction of the runner, not by its ending alone.
    have noneFails : ∀ execution ∈ setup ++ run ++ cleared,
        ¬ execution.subject.Fails (dispatcher.contextIn workdir) execution.before :=
      fun execution member =>
        (succeeded_iff_of_chain passage.chain execution member).1 (allWell execution member)
    obtain ⟨between, followed, -⟩ := passage.chain.split
    constructor
    case whole =>
      rw [List.map_append, subjects, passage.whole setupWell,
        (Execution.failed?_eq_none_iff run).2 runWell]
    case sentinels =>
      exact fun name required => madeAnew_of_chain required followed subjects
        fun execution member => allWell execution (List.mem_append_left _ member)
    case monitor =>
      exact monitorPassed ((passage.runFollowed setupWell).whole runWell) fun execution member =>
        noneFails execution (List.mem_append_left _ (List.mem_append_right _ member))
    case started =>
      exact fun execution member _ known =>
        Task.started_of_not_fails (noneFails execution member) known
    case cleaned =>
      obtain ⟨output, met, zero⟩ := passed
      exact ⟨output, zero, met⟩
    case commands =>
      rw [ended, dispatcher.makeClean_apply]
      exact congrArg (· ++ [dispatcher.cleanCommand workdir]) (commands_of_chain passage.chain)
  · rw [counts] at ended
    rw [ended] at passed
    cases passed

def sentinelLocation : Location :=
  [Octets.ofText "done_1", Octets.ofText "appConfig", Octets.ofText "MetricsSource"]

theorem named_sentinelLocation : FileTree.Named sentinelLocation := by
  decide

def staleTree : FileTree :=
  ⟨[([Octets.ofText "MetricsSource"], .directory),
    ([Octets.ofText "appConfig", Octets.ofText "MetricsSource"], .directory),
    (sentinelLocation, .file [] false)], [], by decide, by decide, FileTree.named_nil⟩

def busyMonitorDispatcher : Dispatcher where
  registry := Registry.register .empty (Builtin.plain .metricsAppConfig).scenario
  environment := .ofPairs (Variable.jmxDomain.map (·, "known"))
  runner := fun _ tree command =>
    ⟨.ok ⟨"", "", 0⟩, if command.arguments = ["start-monitor"] then
      tree.put sentinelLocation (.file [] false) named_sentinelLocation else tree, false⟩
  make := "make"
  waiter := .standard defaultTimeoutSeconds defaultPollSeconds
  logArchives := Marker.logArchives

theorem busyMonitor_passes :
    (busyMonitorDispatcher.runScenario (.ofText "/") "MetricsSource/appConfig"
      (.fresh staleTree)).1 = .passed := by
  have admitted : busyMonitorDispatcher.Admits (.ofText "/") (World.fresh staleTree).tree
      "MetricsSource/appConfig" Plain.metricsAppConfig.scenario := by
    constructor
    · rfl
    · cbv
    · decide
    · rfl
  obtain ⟨workdir, whole, performed⟩ := admitted.runScenario
  obtain rfl : Path.ofText "/MetricsSource/appConfig" = workdir := by
    refine Except.ok.inj (Eq.trans ?_ whole)
    symm
    cbv
  rw [performed, Plain.phases_eq]
  -- The time of a wait is too long to be computed with.
  have body : Plain.metricsAppConfig.scenario.run = Catalogue.metricsAppConfig := rfl
  rw [body]
  simp only [metricsAppConfig, awaitSentinel_eq]
  cbv

theorem runScenario_evident_busyMonitor :
    ∃ workdir setup run cleared settled,
      staleTree.absolute ((Path.ofText "/").join
        (.ofText (Builtin.plain .metricsAppConfig).scenario.directory)) = .ok workdir ∧
      (Builtin.plain .metricsAppConfig).Passage (busyMonitorDispatcher.contextIn workdir)
        (.fresh staleTree) setup run cleared settled ∧
      Evident (.plain .metricsAppConfig) busyMonitorDispatcher workdir (.fresh staleTree) setup run
        cleared settled (busyMonitorDispatcher.runScenario (.ofText "/") "MetricsSource/appConfig"
          (.fresh staleTree)).2 :=
  (runScenario_evident busyMonitor_passes).1 _ rfl

end ScenarioBench.Catalogue

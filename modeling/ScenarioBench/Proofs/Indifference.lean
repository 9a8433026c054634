import ScenarioBench.Proofs.Evidence
import ScenarioBench.Proofs.Ranking

/-! What a run of a scenario does not depend on.

Two contexts that answer every target alike, and the standalone monitor where a scenario runs it, perform
the same phases. Two statements rest on this: what a cleanup target prints and how it exits never counts,
and a scenario reads no variable that it does not ask for.
-/

set_option autoImplicit false

namespace ScenarioBench

namespace Context

def monitorWithCredentials (context : Context) : Act HarnessError Output := do
  let arguments ← Action.settled context.credentialArguments
  context.runMonitorStandalone arguments

/-- Two contexts look alike to a scenario that requires these variables. -/
structure Alike (required : List String) (context other : Context) : Prop where
  workdir : other.workdir = context.workdir
  waiter : other.waiter = context.waiter
  logArchives : other.logArchives = context.logArchives
  require : ∀ target extra, other.require target extra = context.require target extra
  monitor : Variable.jmxDomain ⊆ required →
    other.monitorWithCredentials = context.monitorWithCredentials

namespace Alike

variable {required : List String} {context other : Context}

theorem path (alike : Alike required context other) (name : String) :
    other.path name = context.path name := by
  rw [Context.path, Context.path, alike.workdir]

theorem remove (alike : Alike required context other) (name : String) :
    other.remove name = context.remove name := by
  rw [Context.remove, Context.remove, alike.path]

theorem removeLogArchives (alike : Alike required context other) :
    other.removeLogArchives = context.removeLogArchives := by
  simp only [Context.removeLogArchives, Context.removeMatching, alike.workdir, alike.logArchives]

theorem waitFor (alike : Alike required context other) (name : String) :
    other.waitFor name = context.waitFor name := by
  simp only [Context.waitFor, alike.path, alike.waiter]

theorem requireSentinel (alike : Alike required context other) (name : String) :
    other.requireSentinel name = context.requireSentinel name := by
  simp only [Context.requireSentinel, Context.resultCode, alike.path]

end Alike

end Context

namespace Catalogue

open Context (Alike)

section
variable {required : List String} {context other : Context}

theorem stopJobsAndDomain_alike (alike : Alike required context other) :
    stopJobsAndDomain other = stopJobsAndDomain context := by
  simp [stopJobsAndDomain, alike.require]

theorem removeSentinelsAndStop_alike (alike : Alike required context other) :
    removeSentinelsAndStop other = removeSentinelsAndStop context := by
  simp only [removeSentinelsAndStop, alike.remove, stopJobsAndDomain_alike alike]

theorem awaitSentinel_alike (alike : Alike required context other) (name : String)
    (cleanup : Act HarnessError Unit) :
    awaitSentinel other name cleanup = awaitSentinel context name cleanup := by
  simp only [awaitSentinel, alike.waitFor, alike.requireSentinel]

theorem expectSentinel_alike (alike : Alike required context other) (name : String) :
    expectSentinel other name = expectSentinel context name := by
  simp only [expectSentinel, alike.waitFor, alike.requireSentinel]

end

theorem logAppNotifications_eq (context : Context) :
    logAppNotifications context = (do
      context.makeApplications
      context.startSample []
      let monitor ← Action.attempt context.monitorWithCredentials
      let stopped ← Action.attempt context.stopSample
      let output ← Action.settled monitor
      Action.settled stopped
      Context.expectPass (reportsPass output) output) :=
  rfl

theorem logNotification_run_eq (context : Context) :
    LogNotificationCase.run context = (do
      context.makeApplications
      context.startSample []
      let output ← context.monitorWithCredentials
      Context.expectPass (reportsPass output) output) := by
  simp only [LogNotificationCase.run, Context.monitorWithCredentials, bind_assoc]

namespace Builtin

variable {given : Builtin} {context other : Context}

theorem setup_alike (alike : Alike given.scenario.required context other) :
    given.scenario.setup other = given.scenario.setup context := by
  cases given with
  | plain given => cases given <;> rfl
  | case given =>
    cases given with
    | appConfig case =>
      show AppConfigCase.setup other = AppConfigCase.setup context
      simp only [AppConfigCase.setup, alike.remove, alike.removeLogArchives]
    | reconnect =>
      show ReconnectCase.setup other = ReconnectCase.setup context
      simp [ReconnectCase.setup, alike.remove, alike.removeLogArchives, alike.require]
    | logNotification => rfl

theorem run_alike (alike : Alike given.scenario.required context other) :
    given.scenario.run other = given.scenario.run context := by
  cases given with
  | plain given =>
    cases given with
    | metricsAppConfig =>
      show metricsAppConfig other = metricsAppConfig context
      simp [metricsAppConfig, alike.remove, alike.removeLogArchives, alike.require,
        awaitSentinel_alike alike]
    | logJmxReconnect =>
      show logJmxReconnect other = logJmxReconnect context
      simp [logJmxReconnect, alike.remove, alike.removeLogArchives, alike.require,
        awaitSentinel_alike alike, stopJobsAndDomain_alike alike, removeSentinelsAndStop_alike alike]
    | logAppNotifications =>
      show logAppNotifications other = logAppNotifications context
      simp [logAppNotifications_eq, alike.require, alike.monitor (List.Subset.refl _)]
  | case given =>
    cases given with
    | appConfig case =>
      show case.run other = case.run context
      simp [AppConfigCase.run, alike.require, expectSentinel_alike alike]
    | reconnect =>
      show ReconnectCase.run other = ReconnectCase.run context
      simp [ReconnectCase.run, alike.require, expectSentinel_alike alike]
    | logNotification =>
      show LogNotificationCase.run other = LogNotificationCase.run context
      simp [logNotification_run_eq, alike.require, alike.monitor (List.Subset.refl _)]

theorem teardown_alike (alike : Alike given.scenario.required context other) :
    given.scenario.teardown other = given.scenario.teardown context := by
  cases given with
  | plain given => cases given <;> rfl
  | case given =>
    cases given with
    | appConfig case =>
      show case.teardown other = case.teardown context
      simp [AppConfigCase.teardown, alike.remove, alike.require]
    | reconnect => exact removeSentinelsAndStop_alike alike
    | logNotification => exact alike.require .stopSample []

theorem phases_alike (alike : Alike given.scenario.required context other) :
    Dispatcher.phases given.scenario other = Dispatcher.phases given.scenario context := by
  simp only [Dispatcher.phases, setup_alike alike, run_alike alike, teardown_alike alike,
    Context.makeClean, alike.require]

end Builtin

end Catalogue

namespace Dispatcher

variable {dispatcher other : Dispatcher} {root : Path} {name : String} {world : World}
  {scenario : Scenario}

theorem runScenario_congr (registered : dispatcher.registry.scenario? name = some scenario)
    (gated : other.gate root world.tree name = dispatcher.gate root world.tree name)
    (same : ∀ workdir, phases scenario (other.contextIn workdir) =
      phases scenario (dispatcher.contextIn workdir)) :
    other.runScenario root name world = dispatcher.runScenario root name world := by
  rcases dispatcher.refusal_or_admits root world.tree name with ⟨result, refusal⟩ | ⟨found, admitted⟩
  · simp only [runScenario, gated, refusal.gate_eq_error]
  · obtain rfl : found = scenario := Option.some.inj (admitted.registered.symm.trans registered)
    simp only [runScenario, gated, admitted.gate_eq_ok, drive, same]

end Dispatcher

/-! ### Cleanup targets -/

def cleanupTargets : List Target :=
  [.configureClean, .stopSample, .stopMonitor, .stopTestDomain]

@[simp] theorem mem_cleanupTargets_iff (target : Target) :
    target ∈ cleanupTargets ↔ target.mustSucceed = false := by
  cases target <;> decide

theorem Target.spelling_injective {target other : Target} (same : target.spelling = other.spelling) :
    target = other := by
  have found := target.ofSpelling?_spelling
  rw [same, other.ofSpelling?_spelling] at found
  exact (Option.some.inj found).symm

def Command.AsksCleanup (make : String) (command : Command) : Prop :=
  command.program = make ∧
    ∃ target ∈ cleanupTargets, ∃ extra, command.arguments = target.spelling :: extra

namespace CommandRunner

/-- Two runners write the same files and give the same answers, but for what a cleanup target that was
started prints and how it exits. -/
structure AlikeButCleanup (make : String) (runner other : CommandRunner) : Prop where
  tree : ∀ earlier tree command, (other earlier tree command).tree = (runner earlier tree command).tree
  cancels : ∀ earlier tree command,
    (other earlier tree command).cancels = (runner earlier tree command).cancels
  outcome : ∀ earlier tree command, ¬ command.AsksCleanup make →
    (other earlier tree command).outcome = (runner earlier tree command).outcome
  started : ∀ earlier tree command, command.AsksCleanup make →
    (other earlier tree command).outcome.map (fun _ => ()) =
      (runner earlier tree command).outcome.map fun _ => ()

variable {make : String} {runner other : CommandRunner}

theorem AlikeButCleanup.answered (alike : AlikeButCleanup make runner other) (world : World)
    (command : Command) : world.answered command (other.reaction world command) =
      world.answered command (runner.reaction world command) := by
  simp only [World.answered, reaction, alike.tree, alike.cancels]

theorem AlikeButCleanup.issue (alike : AlikeButCleanup make runner other) {command : Command}
    (elsewhere : ¬ command.AsksCleanup make) : other.issue command = runner.issue command := by
  funext world
  have outcome : (other.reaction world command).outcome = (runner.reaction world command).outcome :=
    alike.outcome world.commands world.tree command elsewhere
  simp only [CommandRunner.issue, alike.answered, outcome]

end CommandRunner

namespace Context

theorem targetEnding_of_mayFail (context : Context) {target : Target}
    (mayFail : target.mustSucceed = false) (outcome : Except OsError Output) :
    context.targetEnding target outcome =
      (outcome.map fun _ => ()).mapError (.spawn context.make ·) := by
  rcases outcome with cause | output
  · rfl
  · simp [targetEnding, mayFail, Except.map, Except.mapError]

theorem asksCleanup_targetCommand_iff (context : Context) (target : Target) (extra : List String) :
    (context.targetCommand target extra).AsksCleanup context.make ↔ target ∈ cleanupTargets := by
  constructor
  · rintro ⟨-, other, listed, others, same⟩
    rwa [Target.spelling_injective (List.cons.inj same).1]
  · exact fun listed => ⟨rfl, target, listed, extra, rfl⟩

variable {other : CommandRunner} (context : Context)

theorem require_of_alikeButCleanup (alike : context.runner.AlikeButCleanup context.make other)
    (target : Target) (extra : List String) :
    ({ context with runner := other }).require target extra = context.require target extra := by
  funext world
  let command := context.targetCommand target extra
  have ending : context.targetEnding target (other.reaction world command).outcome =
      context.targetEnding target (context.runner.reaction world command).outcome := by
    by_cases asks : command.AsksCleanup context.make
    · have listed := (context.asksCleanup_targetCommand_iff target extra).1 asks
      have mayFail := (mem_cleanupTargets_iff target).1 listed
      rw [context.targetEnding_of_mayFail mayFail, context.targetEnding_of_mayFail mayFail]
      exact congrArg _ (alike.started world.commands world.tree command asks)
    · exact congrArg _ (alike.outcome world.commands world.tree command asks)
  rw [require_apply, require_apply]
  exact Prod.ext ending (alike.answered world command)

theorem not_asksCleanup_monitor {arguments : List String} (make : String)
    (told : context.credentialArguments = .ok arguments) :
    ¬ (context.executableCommand Marker.monitorStandalone arguments).AsksCleanup make := by
  rintro ⟨-, target, -, extra, same⟩
  simp only [credentialArguments, bind, Except.bind, pure, Except.pure] at told
  repeat' split at told
  all_goals cases told
  have spelled := congrArg (fun words : List String => words.head?.map (·.toList.take 5)) same
  cases target <;> simp [executableCommand, Target.spelling] at spelled

theorem alike_of_alikeButCleanup (required : List String)
    (alike : context.runner.AlikeButCleanup context.make other) :
    Alike required context { context with runner := other } := by
  constructor
  case workdir | waiter | logArchives => rfl
  case require => exact context.require_of_alikeButCleanup alike
  case monitor =>
    intro _
    funext world
    show (Action.settled context.credentialArguments >>= _) world =
      (Action.settled context.credentialArguments >>= _) world
    rcases told : context.credentialArguments with cause | arguments
    · rfl
    · have elsewhere := context.not_asksCleanup_monitor context.make told
      exact congrFun (alike.issue elsewhere) world

end Context

namespace Catalogue

/-- What a cleanup target prints and how it exits has no part in a run of a scenario of the toolkit. -/
theorem runScenario_ignores_cleanup {dispatcher : Dispatcher} {name : String} {given : Builtin}
    {other : CommandRunner} (registered : dispatcher.registry.scenario? name = some given.scenario)
    (alike : dispatcher.runner.AlikeButCleanup dispatcher.make other) (root : Path) (world : World) :
    ({ dispatcher with runner := other }).runScenario root name world =
      dispatcher.runScenario root name world := by
  refine Dispatcher.runScenario_congr registered rfl fun workdir => ?_
  exact Builtin.phases_alike
    ((dispatcher.contextIn workdir).alike_of_alikeButCleanup _ alike)

def complainingRunner : CommandRunner := fun earlier tree command =>
  let reaction := busyMonitorDispatcher.runner earlier tree command
  if command.arguments = ["stop-monitor"] ∧ command.program = "make" then
    { reaction with outcome := .ok ⟨"", "no such job", 1⟩ }
  else reaction

theorem busyMonitor_alikeButCleanup :
    busyMonitorDispatcher.runner.AlikeButCleanup busyMonitorDispatcher.make complainingRunner := by
  constructor
  case tree | cancels | started =>
    intros
    simp only [complainingRunner]
    split <;> rfl
  case outcome =>
    intro earlier tree command elsewhere
    have missed : ¬ (command.arguments = ["stop-monitor"] ∧ command.program = "make") :=
      fun asked => elsewhere ⟨asked.2, .stopMonitor, by decide, [], asked.1⟩
    simp only [complainingRunner, if_neg missed]

theorem runScenario_ignores_cleanup_busyMonitor :
    (∀ earlier tree directory,
      (complainingRunner earlier tree ⟨"make", ["stop-monitor"], directory⟩).outcome ≠
        (busyMonitorDispatcher.runner earlier tree ⟨"make", ["stop-monitor"], directory⟩).outcome) ∧
    ({ busyMonitorDispatcher with runner := complainingRunner }).runScenario (.ofText "/")
        "MetricsSource/appConfig" (.fresh staleTree) =
      busyMonitorDispatcher.runScenario (.ofText "/") "MetricsSource/appConfig" (.fresh staleTree) ∧
    (busyMonitorDispatcher.runScenario (.ofText "/") "MetricsSource/appConfig"
      (.fresh staleTree)).1 = .passed := by
  have registered : busyMonitorDispatcher.registry.scenario? "MetricsSource/appConfig" =
      some (Builtin.plain .metricsAppConfig).scenario := rfl
  refine ⟨fun _ _ _ same => ?_, ?_, busyMonitor_passes⟩
  · simp [complainingRunner, busyMonitorDispatcher] at same
  · exact runScenario_ignores_cleanup registered busyMonitor_alikeButCleanup _ _

end Catalogue

/-! ### Variables -/

namespace Environment

/-- Two environments agree on variables, and on which of the second domain's variables are set. -/
structure AgreeOn (names : List String) (environment other : Environment) : Prop where
  values : ∀ name ∈ names, other.get? name = environment.get? name
  secondDomain : ∀ name ∈ Variable.secondDomain,
    ((other.get? name).isSome ↔ (environment.get? name).isSome)

namespace AgreeOn

variable {names : List String} {environment other : Environment}

theorem requireAll (agree : AgreeOn names environment other) :
    other.requireAll names = environment.requireAll names := by
  have missing : other.missing names = environment.missing names :=
    List.filter_congr fun name listed => by rw [agree.values name listed]
  rw [Environment.requireAll, Environment.requireAll, missing]

theorem missingSecondDomain (agree : AgreeOn names environment other) :
    other.missingSecondDomain = environment.missingSecondDomain := by
  have missing : other.missing Variable.secondDomain = environment.missing Variable.secondDomain := by
    refine List.filter_congr fun name listed => ?_
    rw [Bool.eq_iff_iff, ← Option.not_isSome, ← Option.not_isSome, Bool.not_eq_true',
      Bool.not_eq_true', ← Bool.not_eq_true, ← Bool.not_eq_true, agree.secondDomain name listed]
  rw [Environment.missingSecondDomain, Environment.missingSecondDomain, missing]

theorem require (agree : AgreeOn names environment other) {name : String} (listed : name ∈ names) :
    other.require name = environment.require name := by
  rw [Environment.require, Environment.require, agree.values name listed]

end AgreeOn

end Environment

namespace Catalogue

namespace Builtin

variable {given : Builtin} {environment other : Environment}

theorem skipReason_of_agree {names : List String}
    (agree : environment.AgreeOn names other) :
    given.scenario.skipReason other = given.scenario.skipReason environment := by
  cases given with
  | plain given => cases given <;> rfl
  | case given =>
    cases given with
    | appConfig | logNotification => rfl
    | reconnect =>
      show (if other.missingSecondDomain > 0 then _ else _) =
        if environment.missingSecondDomain > 0 then _ else _
      rw [agree.missingSecondDomain]

end Builtin

theorem alike_of_agree {names : List String} (context : Context) {other : Environment}
    (agree : context.environment.AgreeOn names other) :
    Context.Alike names context { context with environment := other } := by
  constructor
  case workdir | waiter | logArchives => rfl
  case require => exact fun _ _ => rfl
  case monitor =>
    intro told
    have credentials : ({ context with environment := other }).credentialArguments =
        context.credentialArguments := by
      simp only [Context.credentialArguments]
      rw [agree.require (told (by decide : Variable.jmxUser ∈ Variable.jmxDomain)),
        agree.require (told (by decide : Variable.jmxPassword ∈ Variable.jmxDomain)),
        agree.require (told (by decide : Variable.domainId ∈ Variable.jmxDomain))]
    rw [Context.monitorWithCredentials, credentials]
    rfl

end Catalogue

/-! ### Errors of phases -/

def HarnessError.Arises : HarnessError → Prop
  | .failure _ | .spawn _ _ | .io _ => True
  | _ => False

def ScenarioResult.AsksForVariables (result : ScenarioResult) : Prop :=
  ∃ listed, result = .failed (.message ("Please set the environment variables " ++ listed))

theorem ScenarioResult.not_asksForVariables {first : String} (head : Char)
    (begins : first.toList.head? = some head) (differs : head ≠ 'P') (rest : String) :
    ¬ (failed (.message (first ++ rest))).AsksForVariables := by
  rintro ⟨listed, same⟩
  simp only [failed.injEq, FailureDetail.message.injEq] at same
  have heads := congrArg (·.toList.head?) same
  simp only [String.toList_append, List.head?_append, begins, Option.some_or] at heads
  exact differs (Option.some.inj heads)

theorem HarnessError.Arises.not_asksForVariables {cause : HarnessError} (arises : cause.Arises) :
    ¬ (Dispatcher.resultOf (.error cause)).AsksForVariables := by
  cases cause with
  | failure =>
    rintro ⟨listed, same⟩
    cases same
  | spawn program refused =>
    show ¬ (ScenarioResult.failed (.message
      ("failed to run " ++ program ++ ": " ++ refused.message))).AsksForVariables
    rw [String.append_assoc, String.append_assoc]
    exact ScenarioResult.not_asksForVariables 'f' (by decide) (by decide) _
  | io refused => exact ScenarioResult.not_asksForVariables 'I' (by decide) (by decide) _
  | _ => cases arises

theorem Action.error_of_bind {σ ε α β : Type} {action : Action σ ε α} {next : α → Action σ ε β}
    {state : σ} {cause : ε} (failed : ((action >>= next) state).1 = .error cause) :
    (action state).1 = .error cause ∨ ∃ value after, (next value after).1 = .error cause := by
  rcases performed : action state with ⟨first | value, after⟩
  · rw [bind_of_error performed] at failed
    cases failed
    exact .inl rfl
  · rw [bind_of_ok performed] at failed
    exact .inr ⟨value, after, failed⟩

namespace ScratchFiles

theorem remove_arises {path : Path} {world : World} {cause : HarnessError}
    (failed : (remove path world).1 = .error cause) : cause.Arises := by
  rw [remove_apply] at failed
  split at failed <;> cases failed
  trivial

theorem removeEach_arises {directory : Path} {names : List Octets} {world : World}
    {cause : HarnessError} (failed : (removeEach directory names world).1 = .error cause) :
    cause.Arises := by
  induction names generalizing world with
  | nil => cases failed
  | cons name rest ih =>
    obtain first | ⟨_, between, later⟩ := Action.error_of_bind failed
    · exact remove_arises first
    · obtain others | ⟨_, _, counted⟩ := Action.error_of_bind later
      · exact ih others
      · cases counted

theorem removeMatching_arises {directory : Path} {pattern : String} {world : World}
    {cause : HarnessError} (failed : (removeMatching directory pattern world).1 = .error cause) :
    cause.Arises := by
  rw [removeMatching_apply] at failed
  split at failed
  · exact removeEach_arises failed
  · cases failed
  · cases failed
    trivial

end ScratchFiles

theorem Context.targetEnding_arises {context : Context} {target : Target}
    {outcome : Except OsError Output} {cause : HarnessError}
    (failed : context.targetEnding target outcome = .error cause) : cause.Arises := by
  rcases outcome with refused | output
  · cases failed
    trivial
  · rw [targetEnding_ok] at failed
    split at failed <;> cases failed
    trivial

namespace Catalogue

theorem Task.complaint_arises {task : Task} {context : Context} {world : World} {cause : HarnessError}
    (complains : task.complaint? context world = some cause) : cause.Arises := by
  cases task with
  | target | sentinel | monitor | discard =>
    simp only [complaint?] at complains
    repeat' split at complains
    all_goals cases complains
    all_goals trivial
  | discardArchives =>
    simp only [complaint?] at complains
    split at complains <;> cases complains
    rename_i failed
    exact ScratchFiles.removeMatching_arises failed

namespace Builtin

theorem rank_eq_some {given : Builtin} {run cleanup : Option HarnessError} {cause : HarnessError}
    (counts : given.rank run cleanup = some cause) : run = some cause ∨ cleanup = some cause := by
  rcases run with _ | first
  · rw [rank_none_left] at counts
    exact .inr counts
  · by_cases overruled : given.Overruled (some first) cleanup
    · rw [rank_of_overruled overruled] at counts
      exact .inr counts
    · rw [rank_of_not_overruled overruled] at counts
      exact .inl counts

theorem phases_arises {given : Builtin} {context : Context} {world : World} {cause : HarnessError}
    (complete : context.environment.missing given.scenario.required = [])
    (failed : (Dispatcher.phases given.scenario context world).1 = .error cause) : cause.Arises := by
  obtain ⟨setup, run, cleared, settled, passage, ended⟩ :=
    given.phases_passage context complete world
  have performed := passage.chain.performed
  -- Whichever error counts, a task complained in the world that it was performed in.
  have arises : ∀ executions : List TaskExecution, executions ⊆ setup ++ run ++ cleared →
      Execution.firstError? executions = some cause → cause.Arises := by
    intro executions among first
    rw [firstError?_eq_firstComplaint? fun execution member => performed execution (among member)]
      at first
    obtain ⟨execution, -, complains⟩ := List.exists_of_findSome?_eq_some first
    exact Task.complaint_arises complains
  rw [ended] at failed
  split at failed
  · rename_i counts
    cases failed
    rcases Option.or_eq_some_iff.1 counts with first | ⟨-, ranked⟩
    · exact arises setup (fun _ member => by simp [member]) first
    · rcases rank_eq_some ranked with first | first
      · exact arises run (fun _ member => by simp [member]) first
      · exact arises cleared (fun _ member => by simp [member]) first
  · rw [Context.makeClean, context.require_apply] at failed
    exact Context.targetEnding_arises failed

end Builtin

/-- What a scenario requires is all that it reads of its environment. -/
structure EnvironmentCovered (dispatcher : Dispatcher) (required : List String) (root : Path)
    (name : String) (world : World) : Prop where
  indifferent : ∀ other, dispatcher.environment.AgreeOn required other →
    ({ dispatcher with environment := other }).runScenario root name world =
      dispatcher.runScenario root name world
  complete : dispatcher.environment.missing required = [] →
    ¬ (dispatcher.runScenario root name world).1.AsksForVariables
  untouched : (dispatcher.runScenario root name world).1.AsksForVariables →
    (dispatcher.runScenario root name world).2 = world

theorem runScenario_complete {dispatcher : Dispatcher} {name : String} {given : Builtin}
    {root : Path} {world : World}
    (registered : dispatcher.registry.scenario? name = some given.scenario)
    (complete : dispatcher.environment.missing given.scenario.required = []) :
    ¬ (dispatcher.runScenario root name world).1.AsksForVariables := by
  rcases dispatcher.refusal_or_admits root world.tree name with ⟨result, refusal⟩ | ⟨found, admitted⟩
  · rw [refusal.runScenario]
    cases refusal with
    | unknown missed => simp [missed] at registered
    | absent found missing =>
      rw [String.append_assoc]
      exact ScenarioResult.not_asksForVariables 's' (by decide) (by decide) _
    | incomplete found _ missing =>
      obtain rfl := Option.some.inj (found.symm.trans registered)
      exact absurd complete missing
    | skipped =>
      rintro ⟨listed, same⟩
      cases same
  · obtain rfl : found = given.scenario :=
      Option.some.inj (admitted.registered.symm.trans registered)
    obtain ⟨workdir, -, performed⟩ := admitted.runScenario
    rw [performed]
    rcases ended : (Dispatcher.phases given.scenario (dispatcher.contextIn workdir) world).1
      with cause | value
    · exact (Builtin.phases_arises complete ended).not_asksForVariables
    · rintro ⟨listed, same⟩
      cases same

/-- A scenario of the toolkit reads no variable that it does not require. -/
theorem runScenario_environmentCovered {dispatcher : Dispatcher} {name : String} {given : Builtin}
    (registered : dispatcher.registry.scenario? name = some given.scenario) (root : Path)
    (world : World) :
    EnvironmentCovered dispatcher given.scenario.required root name world := by
  constructor
  case indifferent =>
    intro other agree
    refine Dispatcher.runScenario_congr registered ?_ fun workdir => ?_
    · simp only [Dispatcher.gate, registered, agree.requireAll, Builtin.skipReason_of_agree agree]
    · exact Builtin.phases_alike (alike_of_agree (dispatcher.contextIn workdir) agree)
  case complete => exact runScenario_complete registered
  case untouched =>
    intro asks
    rcases dispatcher.refusal_or_admits root world.tree name with ⟨result, refusal⟩ | ⟨found, admitted⟩
    · rw [refusal.runScenario]
    · obtain rfl : found = given.scenario :=
        Option.some.inj (admitted.registered.symm.trans registered)
      exact absurd asks (runScenario_complete registered admitted.complete)

theorem runScenario_environmentCovered_silentMonitor :
    silentMonitorDispatcher.environment.AgreeOn Variable.jmxDomain
      (silentMonitorDispatcher.environment.set "HOME" "/root") ∧
    EnvironmentCovered silentMonitorDispatcher Variable.jmxDomain (.ofText "/")
      "LogSource/appLogNotifications" (.fresh monitorTree) := by
  refine ⟨⟨by decide, by decide⟩, ?_⟩
  have registered : silentMonitorDispatcher.registry.scenario? "LogSource/appLogNotifications" =
      some (Builtin.plain .logAppNotifications).scenario := rfl
  exact runScenario_environmentCovered registered _ _

end Catalogue

end ScenarioBench

import Mathlib.Tactic.Choose
import ScenarioBench.Scenario.Catalogue
import ScenarioBench.Scenario.Scripted

/-! What scenarios do with their contexts.

Whatever a scenario does is a procedure: one operation of its context after the other, each chosen by how the
ones before it ended. An operation issues at most one command, which is known from the operation and the
scenario directory alone, so that the commands of a run can be read off the operations performed. The
scenarios of the toolkit are procedures, and so are scripted ones.
-/

set_option autoImplicit false

namespace ScenarioBench

inductive Procedure (α : Type) where
  | settled (ending : Except HarnessError α)
  | step (operation : Step) (next : Except HarnessError StepValue → Procedure α)
  | note (entry : JournalEntry) (next : Procedure α)

namespace Step

def command? (make : String) (workdir : Path) : Step → Option Command
  | invoke spelling extra =>
    (Target.ofSpelling? spelling).map fun target => ⟨make, target.spelling :: extra, workdir⟩
  | makeAll => some ⟨make, ["all"], workdir⟩
  | makeBuild => some ⟨make, ["build"], workdir⟩
  | require target extra => some ⟨make, target.spelling :: extra, workdir⟩
  | runStandalone arguments =>
    some ⟨(workdir.join (.ofText "output/bin/standalone")).display, arguments, workdir⟩
  | runMonitorStandalone arguments =>
    some ⟨(workdir.join (.ofText "output/monitor/bin/standalone")).display, arguments, workdir⟩
  | _ => none

@[simp] theorem issue_commands {α : Type} (runner : CommandRunner) (command : Command) (value : Output → α)
    (world : World) :
    ((do return value (← runner.issue command) : Act HarnessError α) world).2.commands =
      world.commands ++ [command] := by
  rw [Action.bind_apply, CommandRunner.issue]
  rcases (runner.reaction world command).outcome with cause | output <;> rfl

@[simp] theorem perform_commands (operation : Step) (context : Context) (world : World) :
    (operation.perform context world).2.commands =
      world.commands ++ (operation.command? context.make context.workdir).toList := by
  -- Most operations issue nothing and keep the record of commands as it is.
  have silent : Action.Follows (operation.perform context) World.Silent →
      operation.command? context.make context.workdir = none →
      (operation.perform context world).2.commands =
        world.commands ++ (operation.command? context.make context.workdir).toList := by
    intro follows none
    rw [none]
    exact (follows world).trans (List.append_nil _).symm
  cases operation with
  | invoke spelling extra =>
    simp only [perform, command?]
    rcases Target.ofSpelling? spelling with _ | target
    · exact (List.append_nil _).symm
    · exact issue_commands _ _ _ _
  | makeAll | makeBuild | runStandalone arguments | runMonitorStandalone arguments =>
    exact issue_commands _ _ _ _
  | require target extra =>
    rw [perform, Action.bind_apply, context.require_apply]
    rcases context.targetEnding target
      (context.runner.reaction world (context.targetCommand target extra)).outcome <;> rfl
  | credentialArguments | lookUp name =>
    exact silent (.bind (.settled _) fun _ => .pure _) rfl
  | waitFor name => exact silent (.bind (context.waitFor_follows _) fun _ => .pure _) rfl
  | resultCode name => exact silent (.bind (context.resultCode_follows _) fun _ => .pure _) rfl
  | requireSentinel name =>
    exact silent (.bind (context.requireSentinel_follows _) fun _ => .pure _) rfl
  | remove name => exact silent (.bind (ScratchFiles.remove_silent _) fun _ => .pure _) rfl
  | removeMatching pattern =>
    exact silent (.bind (ScratchFiles.removeMatching_silent _ _) fun _ => .pure _) rfl
  | removeLogArchives =>
    exact silent (.bind (ScratchFiles.removeMatching_silent _ _) fun _ => .pure _) rfl
  | path name | workdir => exact silent (.pure _) rfl
  | write name text => exact silent (Act.changeTree_silent _ _) rfl
  | cancel => exact silent (fun _ => rfl) rfl
  | fail stdout stderr => exact silent (.throw _) rfl

end Step

namespace Procedure

variable {α β : Type}

def perform (context : Context) : Procedure α → Act HarnessError α
  | settled ending => Action.settled ending
  | step operation next => fun world =>
    (next (operation.perform context world).1).perform context (operation.perform context world).2
  | note entry next => fun world =>
    next.perform context { world with journal := world.journal ++ [entry] }

def steps (context : Context) : Procedure α → World → List Step
  | settled _, _ => []
  | step operation next, world =>
    operation ::
      (next (operation.perform context world).1).steps context (operation.perform context world).2
  | note entry next, world => next.steps context { world with journal := world.journal ++ [entry] }

@[simp] theorem perform_commands (context : Context) (procedure : Procedure α) (world : World) :
    (procedure.perform context world).2.commands = world.commands ++
      (procedure.steps context world).filterMap (Step.command? context.make context.workdir) := by
  induction procedure generalizing world with
  | settled ending => simp [perform, steps, Action.settled]
  | step operation next ih =>
    rw [perform, ih, operation.perform_commands, steps, List.filterMap_cons]
    rcases operation.command? context.make context.workdir with _ | command <;> simp
  | note entry next ih => exact ih _

def andThen (procedure : Procedure α) (next : Except HarnessError α → Procedure β) : Procedure β :=
  match procedure with
  | settled ending => next ending
  | step operation rest => step operation fun ending => (rest ending).andThen next
  | note entry rest => note entry (rest.andThen next)

variable (context : Context) (procedure : Procedure α)
  (next : Except HarnessError α → Procedure β) (world : World)

@[simp] theorem perform_andThen :
    (procedure.andThen next).perform context world =
      (next (procedure.perform context world).1).perform context
        (procedure.perform context world).2 := by
  induction procedure generalizing world with
  | settled ending => rfl
  | step operation rest ih => exact ih _ _
  | note entry rest ih => exact ih _

@[simp] theorem steps_andThen :
    (procedure.andThen next).steps context world = procedure.steps context world ++
      (next (procedure.perform context world).1).steps context
        (procedure.perform context world).2 := by
  induction procedure generalizing world with
  | settled ending => rfl
  | step operation rest ih => exact congrArg (operation :: ·) (ih _ _)
  | note entry rest ih => exact ih _

end Procedure

structure Procedures where
  setup : Procedure Unit
  run : Procedure Unit
  teardown : Procedure Unit

structure Scenario.Worked (scenario : Scenario) (procedures : Procedures) : Prop where
  setup : ∀ context, scenario.setup context = procedures.setup.perform context
  run : ∀ context, scenario.run context = procedures.run.perform context
  teardown : ∀ context, scenario.teardown context = procedures.teardown.perform context

/-! ### The scenarios of the toolkit -/

/-- A body does nothing with its context but what some procedure says. -/
def Operates {α : Type} (body : Context → Act HarnessError α) : Prop :=
  ∃ procedure : Procedure α, ∀ context, body context = procedure.perform context

namespace Operates

variable {α β : Type}

theorem settled (ending : Except HarnessError α) : Operates fun _ => Action.settled ending :=
  ⟨.settled ending, fun _ => rfl⟩

theorem pure (value : α) : Operates fun _ => (pure value : Act HarnessError α) :=
  settled (.ok value)

theorem ofStep {body : Context → Act HarnessError α} (operation : Step)
    (read : Except HarnessError StepValue → Except HarnessError α)
    (same : ∀ context world, body context world =
      (read (operation.perform context world).1, (operation.perform context world).2)) :
    Operates body :=
  ⟨.step operation fun ending => .settled (read ending), fun context => funext (same context)⟩

theorem bind {body : Context → Act HarnessError α} {next : α → Context → Act HarnessError β}
    (first : Operates body) (rest : ∀ value, Operates (next value)) :
    Operates fun context => body context >>= fun value => next value context := by
  obtain ⟨procedure, performed⟩ := first
  -- There is a procedure for every value that the first one may end with.
  choose others continued using rest
  refine ⟨procedure.andThen fun ending => match ending with
    | .ok value => others value
    | .error cause => .settled (.error cause), fun context => funext fun world => ?_⟩
  dsimp only
  rw [Procedure.perform_andThen, Action.bind_apply, performed]
  rcases procedure.perform context world with ⟨cause | value, after⟩
  · rfl
  · exact congrFun (continued value context) after

theorem attempt {body : Context → Act HarnessError α} (operates : Operates body) :
    Operates fun context => Action.attempt (body context) := by
  obtain ⟨procedure, performed⟩ := operates
  refine ⟨procedure.andThen fun ending => .settled (.ok ending), fun context => funext fun world => ?_⟩
  rw [Procedure.perform_andThen, ← performed]
  rfl

theorem firstError_nil : Operates fun _ => Action.firstError [] :=
  settled (.ok ())

theorem firstError_cons {body : Context → Act HarnessError Unit}
    {rest : Context → List (Act HarnessError Unit)} (first : Operates body)
    (others : Operates fun context => Action.firstError (rest context)) :
    Operates fun context => Action.firstError (body context :: rest context) := by
  obtain ⟨procedure, performed⟩ := first
  obtain ⟨cleanup, cleaned⟩ := others
  refine ⟨procedure.andThen fun ending => cleanup.andThen fun last => .settled (ending.bind fun _ => last),
    fun context => funext fun world => ?_⟩
  rw [Procedure.perform_andThen, Procedure.perform_andThen, ← performed, ← cleaned]
  simp only [Action.firstError]
  rcases body context world with ⟨cause | value, between⟩ <;> rfl

theorem require (target : Target) (extra : List String) :
    Operates fun context => context.require target extra := by
  refine ofStep (.require target extra) (·.map fun _ => ()) fun context world => ?_
  rw [Step.perform, Action.bind_apply]
  rcases context.require target extra world with ⟨cause | value, after⟩ <;> rfl

theorem remove (name : String) : Operates fun context => context.remove name := by
  refine ofStep (.remove name) (·.map fun _ => ()) fun context world => ?_
  rw [Step.perform, Action.bind_apply]
  rcases context.remove name world with ⟨cause | value, after⟩ <;> rfl

theorem removeLogArchives : Operates Context.removeLogArchives := by
  refine ofStep .removeLogArchives
    (·.map fun value => match value with | .number count => count | _ => 0) fun context world => ?_
  rw [Step.perform, Action.bind_apply]
  rcases context.removeLogArchives world with ⟨cause | value, after⟩ <;> rfl

theorem waitFor (name : String) : Operates fun context => context.waitFor name := by
  refine ofStep (.waitFor name)
    (·.map fun value => match value with | .waited outcome => outcome | _ => none)
    fun context world => rfl

theorem requireSentinel (name : String) : Operates fun context => context.requireSentinel name := by
  refine ofStep (.requireSentinel name) (·.map fun _ => ()) fun context world => ?_
  rw [Step.perform, Action.bind_apply]
  rcases context.requireSentinel name world with ⟨cause | value, after⟩ <;> rfl

theorem credentialArguments : Operates fun context => Action.settled context.credentialArguments := by
  refine ofStep .credentialArguments
    (·.map fun value => match value with | .texts texts => texts | _ => []) fun context world => ?_
  rw [Step.perform, Action.bind_apply]
  rcases context.credentialArguments <;> rfl

theorem runMonitorStandalone (arguments : List String) :
    Operates fun context => context.runMonitorStandalone arguments := by
  refine ofStep (.runMonitorStandalone arguments)
    (·.map fun value => match value with | .output output => output | _ => default) fun context world => ?_
  rw [Step.perform, Action.bind_apply]
  rcases context.runMonitorStandalone arguments world with ⟨cause | value, after⟩ <;> rfl

end Operates

namespace Catalogue

open Marker (firstSentinel secondSentinel)

theorem stopJobsAndDomain_operates : Operates stopJobsAndDomain :=
  .firstError_cons (.require _ _) <| .firstError_cons (.require _ _) <|
    .firstError_cons (.require _ _) .firstError_nil

theorem removeSentinelsAndStop_operates : Operates removeSentinelsAndStop :=
  .firstError_cons (.remove _) <| .firstError_cons (.remove _) <|
    .firstError_cons stopJobsAndDomain_operates .firstError_nil

theorem awaitSentinel_operates (name : String) {cleanup : Context → Act HarnessError Unit}
    (operates : Operates cleanup) :
    Operates fun context => awaitSentinel context name (cleanup context) := by
  refine .bind (.waitFor name) fun _ => .bind (.attempt (.requireSentinel name)) fun ending => ?_
  rcases ending with cause | value
  · exact .bind (.attempt operates) fun _ => .settled (.error cause)
  · exact .pure ()

theorem expectSentinel_operates (name : String) : Operates fun context => expectSentinel context name :=
  .bind (.waitFor name) fun _ => .requireSentinel name

theorem metricsAppConfig_operates : Operates metricsAppConfig := by
  refine .bind (.remove _) fun _ => .bind .removeLogArchives fun _ => ?_
  refine .bind (.require _ _) fun _ => .bind (.require _ _) fun _ => .bind (.require _ _) fun _ => ?_
  refine .bind (awaitSentinel_operates _ (.require _ _)) fun _ => ?_
  exact .firstError_cons (.remove _) <| .firstError_cons (.require _ _) .firstError_nil

theorem logJmxReconnect_operates : Operates logJmxReconnect := by
  refine .bind (.remove _) fun _ => .bind (.remove _) fun _ => .bind .removeLogArchives fun _ => ?_
  refine .bind (.require _ _) fun _ => .bind (.require _ _) fun _ => ?_
  refine .bind (.require _ _) fun _ => .bind (.require _ _) fun _ => ?_
  refine .bind (awaitSentinel_operates _ stopJobsAndDomain_operates) fun _ => ?_
  refine .bind (.require _ _) fun _ => .bind (.require _ _) fun _ => .bind (.require _ _) fun _ => ?_
  refine .bind (awaitSentinel_operates _ stopJobsAndDomain_operates) fun _ => ?_
  exact removeSentinelsAndStop_operates

theorem logAppNotifications_operates : Operates logAppNotifications := by
  refine .bind (.require _ _) fun _ => .bind (.require _ _) fun _ => ?_
  refine .bind (.attempt (.bind .credentialArguments .runMonitorStandalone)) fun _ => ?_
  refine .bind (.attempt (.require _ _)) fun _ => ?_
  exact .bind (.settled _) fun _ => .bind (.settled _) fun _ => .settled _

namespace AppConfigCase

theorem setup_operates : Operates setup :=
  .bind (.remove _) fun _ => .bind .removeLogArchives fun _ => .pure ()

theorem run_operates (case : AppConfigCase) : Operates case.run := by
  show Operates fun context => case.run context
  by_cases stored : case.configuration = .filterDocument <;> cases sample : case.withSample
  all_goals
    simp only [run, stored, sample, if_true, if_false, Bool.false_eq_true]
    refine .bind (.require _ _) fun _ => .bind (.require _ _) fun _ => .bind (.require _ _) fun _ => ?_
  · exact expectSentinel_operates _
  · exact .bind (.require _ _) fun _ => expectSentinel_operates _
  · exact expectSentinel_operates _
  · exact .bind (.require _ _) fun _ => expectSentinel_operates _

theorem teardown_operates (case : AppConfigCase) : Operates case.teardown := by
  show Operates fun context => case.teardown context
  cases sample : case.withSample
  all_goals
    simp only [teardown, sample, if_true, if_false, Bool.false_eq_true, List.cons_append,
      List.nil_append]
    refine .firstError_cons (.remove _) <| .firstError_cons (.require _ _) ?_
  · exact .firstError_cons (.require _ _) .firstError_nil
  · exact .firstError_cons (.require _ _) <| .firstError_cons (.require _ _) .firstError_nil

end AppConfigCase

theorem reconnect_setup_operates : Operates ReconnectCase.setup :=
  .bind (.remove _) fun _ => .bind (.remove _) fun _ => .bind .removeLogArchives fun _ => .require _ _

theorem reconnect_run_operates : Operates ReconnectCase.run := by
  refine .bind (.require _ _) fun _ => .bind (.require _ _) fun _ => .bind (.require _ _) fun _ => ?_
  refine .bind (expectSentinel_operates _) fun _ => ?_
  refine .bind (.require _ _) fun _ => .bind (.require _ _) fun _ => .bind (.require _ _) fun _ => ?_
  exact expectSentinel_operates _

theorem logNotification_run_operates : Operates LogNotificationCase.run := by
  refine .bind (.require _ _) fun _ => .bind (.require _ _) fun _ => ?_
  exact .bind .credentialArguments fun _ => .bind (.runMonitorStandalone _) fun _ => .settled _

theorem exists_worked {scenario : Scenario} (setup : Operates scenario.setup)
    (run : Operates scenario.run) (teardown : Operates scenario.teardown) :
    ∃ procedures, scenario.Worked procedures := by
  obtain ⟨first, began⟩ := setup
  obtain ⟨second, ran⟩ := run
  obtain ⟨third, cleared⟩ := teardown
  exact ⟨⟨first, second, third⟩, began, ran, cleared⟩

/-- Every scenario of the toolkit does nothing but operations. -/
theorem worked_of_mem_scenarios {scenario : Scenario} (member : scenario ∈ scenarios) :
    ∃ procedures, scenario.Worked procedures := by
  simp only [scenarios, plain, List.append_assoc, List.mem_append, List.mem_cons, List.mem_map,
    List.not_mem_nil, or_false] at member
  rcases member with (rfl | rfl | rfl) | ⟨case, -, rfl⟩ | rfl | rfl
  · exact exists_worked (.pure ()) metricsAppConfig_operates (.pure ())
  · exact exists_worked (.pure ()) logJmxReconnect_operates (.pure ())
  · exact exists_worked (.pure ()) logAppNotifications_operates (.pure ())
  · exact exists_worked AppConfigCase.setup_operates case.run_operates case.teardown_operates
  · exact exists_worked reconnect_setup_operates reconnect_run_operates removeSentinelsAndStop_operates
  · exact exists_worked (.pure ()) logNotification_run_operates (.require _ _)

end Catalogue

namespace ScriptedScenario

def procedureOf (phase : Phase) : List NamedStep → Procedure Unit
  | [] => .settled (.ok ())
  | named :: rest =>
    .step named.step fun ending =>
      .note ⟨phase, named.name, ending⟩ <|
        match ending with
        | .ok _ => procedureOf phase rest
        | .error cause => .settled (.error cause)

theorem performAll_eq (phase : Phase) (context : Context) (steps : List NamedStep) :
    NamedStep.performAll phase context steps = (procedureOf phase steps).perform context := by
  induction steps with
  | nil => rfl
  | cons named rest ih =>
    funext world
    rw [NamedStep.performAll, procedureOf, Procedure.perform, Action.bind_apply, ih]
    simp only [NamedStep.performNoted]
    rcases named.step.perform context world with ⟨cause | value, after⟩ <;> rfl

def procedures (script : ScriptedScenario) : Procedures where
  setup := procedureOf .setup script.setup
  run := procedureOf .run script.run
  teardown := procedureOf .teardown script.teardown

theorem worked (script : ScriptedScenario) : script.scenario.Worked script.procedures where
  setup context := performAll_eq .setup context script.setup
  run context := performAll_eq .run context script.run
  teardown context := performAll_eq .teardown context script.teardown

end ScriptedScenario

end ScenarioBench

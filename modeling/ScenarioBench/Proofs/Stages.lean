import ScenarioBench.Data.Results
import ScenarioBench.Http.Exchange
import ScenarioBench.Launch.Submission
import ScenarioBench.Proofs.Execution

/-! Stages of submissions.

What a submission asks of the world is a command or a request, one at a time. An action goes in stages when each
of them is performed in the world that the one before it left, the first that fails is the last, and its error is
the result. Main statements: such stages account for every command that is issued and every request that reaches
a server, and they form a chain in which all but the last succeeded.
-/

set_option autoImplicit false

namespace ScenarioBench

inductive Stage where
  /-- A command, and what an exit code other than 0 is an error of; without it every exit code will do. -/
  | run (command : Command) (refusal : Option (String → LaunchError))
  | send (url : Http.Url) (request : Http.Request)

inductive Answer where
  | output (output : Output)
  | response (response : Http.Response)

abbrev StageRun := Execution World LaunchError Answer Stage

namespace Stage

def command? : Stage → Option Command
  | run command _ => some command
  | send _ _ => none

def request? : Stage → Option Http.Request
  | run _ _ => none
  | send url request => some (Http.authorized url request)

def judged (program : String) (refusal : Option (String → LaunchError)) :
    Except OsError Output → Except LaunchError Answer
  | .error cause => .error (.harness (.spawn program cause))
  | .ok output =>
    match refusal with
    | some refuse =>
      if output.exitCode = 0 then .ok (.output output) else .error (refuse output.stderr)
    | none => .ok (.output output)

def received : Except Http.Error Http.Response → Except LaunchError Answer
  | .error cause => .error (.http cause)
  | .ok response => .ok (.response response)

theorem received_eq (outcome : Except Http.Error Http.Response) :
    received outcome = (outcome.mapError LaunchError.http).map .response := by
  cases outcome <;> rfl

variable (runner : CommandRunner) (network : Http.Network)

def perform : Stage → Launching World Answer
  | run command refusal => fun world =>
    let reaction := runner.reaction world command
    (judged command.program refusal reaction.outcome, world.answered command reaction)
  | send url request => fun world =>
    let (outcome, after) := Http.exchange network url request world
    (received outcome, after)

variable {runner network} {stage : Stage} {world after : World} {ending : Except LaunchError Answer}

theorem perform_commands (performed : stage.perform runner network world = (ending, after)) :
    after.commands = world.commands ++ stage.command?.toList := by
  cases stage with
  | run command refusal =>
    cases performed
    rfl
  | send url request =>
    cases performed
    exact (Http.exchange_commands network url request world).trans (List.append_nil _).symm

theorem perform_requests (performed : stage.perform runner network world = (ending, after)) :
    ∃ sent, after.requests = world.requests ++ sent ∧ sent.Sublist stage.request?.toList := by
  cases stage with
  | run command refusal =>
    cases performed
    exact ⟨[], (List.append_nil _).symm, .slnil⟩
  | send url request =>
    cases performed
    exact Http.exchange_requests network url request world

end Stage

inductive Staged (runner : CommandRunner) (network : Http.Network) {α : Type} :
    World → List StageRun → Except LaunchError α → World → Prop where
  | ended {world : World} (result : Except LaunchError α) : Staged runner network world [] result world
  | failed {world after : World} (stage : Stage) {cause : LaunchError} :
      stage.perform runner network world = (.error cause, after) →
      Staged runner network world [⟨stage, world, .error cause, after⟩] (.error cause) after
  | passed {world between after : World} (stage : Stage) {answer : Answer} {rest : List StageRun}
      {result : Except LaunchError α} :
      stage.perform runner network world = (.ok answer, between) →
      Staged runner network between rest result after →
      Staged runner network world (⟨stage, world, .ok answer, between⟩ :: rest) result after

namespace Staged

variable {runner : CommandRunner} {network : Http.Network} {α β : Type} {world between after : World}
  {steps more : List StageRun} {result : Except LaunchError α}

theorem chain (staged : Staged runner network world steps result after) :
    Chain (Stage.perform runner network) world steps after := by
  induction staged with
  | ended => exact .nil
  | failed stage performed => exact .cons stage performed .nil
  | passed stage performed _ ih => exact .cons stage performed ih

theorem stops (staged : Staged runner network world steps result after) :
    (∀ step ∈ steps.dropLast, step.Succeeded) ∧
      ∀ step ∈ steps, ∀ cause, step.ending = .error cause → result = .error cause := by
  induction staged with
  | ended => exact ⟨List.forall_mem_nil _, List.forall_mem_nil _⟩
  | failed stage performed =>
    refine ⟨List.forall_mem_nil _, fun step member cause ended => ?_⟩
    rw [List.mem_singleton.1 member] at ended
    exact congrArg Except.error (Except.error.inj ended)
  | @passed _ _ _ stage answer rest _ performed others ih =>
    refine ⟨fun step member => ?_, fun step member cause ended => ?_⟩
    · cases rest with
      | nil => cases member
      | cons next rest =>
        rcases List.mem_cons.1 member with rfl | later
        · exact ⟨answer, rfl⟩
        · exact ih.1 step later
    · rcases List.mem_cons.1 member with rfl | later
      · cases ended
      · exact ih.2 step later cause ended

theorem commands (staged : Staged runner network world steps result after) :
    after.commands = world.commands ++ steps.filterMap fun step => step.subject.command? := by
  induction staged with
  | ended => exact (List.append_nil _).symm
  | failed stage performed =>
    rw [Stage.perform_commands performed]
    cases shown : stage.command? <;> simp [shown]
  | passed stage performed _ ih =>
    rw [ih, Stage.perform_commands performed]
    cases shown : stage.command? <;> simp [shown]

theorem requests (staged : Staged runner network world steps result after) :
    ∃ sent, after.requests = world.requests ++ sent ∧
      sent.Sublist (steps.filterMap fun step => step.subject.request?) := by
  induction staged with
  | ended => exact ⟨[], (List.append_nil _).symm, .slnil⟩
  | failed stage performed =>
    obtain ⟨sent, told, among⟩ := Stage.perform_requests performed
    refine ⟨sent, told, ?_⟩
    cases shown : stage.request? <;> simpa [shown] using among
  | passed stage performed _ ih =>
    obtain ⟨sent, told, among⟩ := Stage.perform_requests performed
    obtain ⟨later, others, amongOthers⟩ := ih
    refine ⟨sent ++ later, by rw [others, told, List.append_assoc], ?_⟩
    have both := among.append amongOthers
    cases shown : stage.request? <;> simpa [shown] using both

theorem left {step : StageRun} (staged : Staged runner network world steps result after)
    (isLast : steps.getLast? = some step) : step.after = after := by
  induction staged with
  | ended => cases isLast
  | failed => exact congrArg Execution.after (Option.some.inj isLast.symm)
  | @passed _ _ _ stage _ rest _ _ others ih =>
    cases rest with
    | nil =>
      cases others
      exact congrArg Execution.after (Option.some.inj isLast.symm)
    | cons next rest => exact ih isLast

theorem single (stage : Stage) {ending : Except LaunchError Answer}
    (performed : stage.perform runner network world = (ending, after))
    (fails : ∀ cause, ending = .error cause → result = .error cause) :
    Staged runner network world [⟨stage, world, ending, after⟩] result after := by
  cases ending with
  | error cause =>
    rw [fails cause rfl]
    exact .failed stage performed
  | ok answer => exact .passed stage performed (.ended result)

theorem error_of_error {cause : LaunchError}
    (staged : Staged runner network world steps (.error cause : Except LaunchError α) after) :
    Staged runner network world steps (.error cause : Except LaunchError β) after := by
  generalize failed : (.error cause : Except LaunchError α) = result at staged
  induction staged with
  | ended => exact .ended _
  | failed stage performed =>
    cases failed
    exact .failed stage performed
  | passed stage performed _ ih => exact .passed stage performed (ih failed)

theorem append {value : β} (staged : Staged runner network world steps (.ok value) between)
    (next : Staged runner network between more result after) :
    Staged runner network world (steps ++ more) result after := by
  generalize gave : (.ok value : Except LaunchError β) = first at staged
  induction staged with
  | ended => exact next
  | failed => cases gave
  | passed stage performed _ ih => exact .passed stage performed (ih next gave)

end Staged

/-- An action goes in stages by rules about the stages and the result. -/
def Ruled (runner : CommandRunner) (network : Http.Network) {α : Type}
    (rules : List StageRun → Except LaunchError α → Prop) (action : Launching World α) (world : World) :
    Prop :=
  ∃ steps, Staged runner network world steps (action world).1 (action world).2 ∧
    rules steps (action world).1

namespace Ruled

variable {runner : CommandRunner} {network : Http.Network} {α β : Type} {world : World}

theorem settled {rules : List StageRun → Except LaunchError α → Prop} {result : Except LaunchError α}
    (ruled : rules [] result) : Ruled runner network rules (Action.settled result) world :=
  ⟨[], .ended result, ruled⟩

/-- Two actions in a row go by rules that take the error of the first, and otherwise go on. -/
theorem bind {first : List StageRun → Except LaunchError α → Prop}
    {rules : List StageRun → Except LaunchError β → Prop} {action : Launching World α}
    {next : α → Launching World β} (begins : Ruled runner network first action world)
    (fails : ∀ steps cause, first steps (.error cause) → rules steps (.error cause))
    (goesOn : ∀ steps value between, first steps (.ok value) →
      Staged runner network world steps (.ok value : Except LaunchError α) between →
      Ruled runner network (fun more result => rules (steps ++ more) result) (next value) between) :
    Ruled runner network rules (action >>= next) world := by
  obtain ⟨steps, staged, ruled⟩ := begins
  unfold Ruled
  -- Whether there is a second action at all depends on what the first came to.
  rw [Action.bind_apply]
  revert staged ruled
  rcases action world with ⟨cause | value, between⟩
  · intro staged ruled
    exact ⟨steps, staged.error_of_error, fails steps cause ruled⟩
  · intro staged ruled
    obtain ⟨more, next, allowed⟩ := goesOn steps value between ruled staged
    exact ⟨steps ++ more, staged.append next, allowed⟩

theorem bind_look {rules : List StageRun → Except LaunchError β → Prop} {next : World → Launching World β}
    (ruled : Ruled runner network rules (next world) world) :
    Ruled runner network rules (Action.look >>= next) world :=
  ruled

theorem bind_settled {rules : List StageRun → Except LaunchError β → Prop}
    {settled : Except LaunchError α} {next : α → Launching World β}
    (fails : ∀ cause, settled = .error cause → rules [] (.error cause))
    (goesOn : ∀ value, settled = .ok value → Ruled runner network rules (next value) world) :
    Ruled runner network rules (Action.settled settled >>= next) world := by
  have begins : Ruled runner network (fun steps result => steps = [] ∧ result = settled)
      (Action.settled settled) world := .settled ⟨rfl, rfl⟩
  refine begins.bind ?_ ?_
  · rintro _ cause ⟨rfl, failed⟩
    exact fails cause failed.symm
  · rintro _ value between ⟨rfl, gave⟩ staged
    cases staged
    exact goesOn value gave.symm

end Ruled

end ScenarioBench

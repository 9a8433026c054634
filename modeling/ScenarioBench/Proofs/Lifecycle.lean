import ScenarioBench.Proofs.Dispatch

/-! The life of one dispatched scenario.

Main statement: a scenario that passes every gate has its setup executed once, then, if that succeeded,
its run and its teardown once each, whatever the run came to. The target that removes build output
follows exactly when all three succeeded. The scenario passes if that target exits with code 0, and
otherwise fails with the first error of all.
-/

set_option autoImplicit false

namespace ScenarioBench

/-- A detail tells an error: an expectation by its streams, anything else by its wording. -/
structure FailureDetail.Tells (detail : FailureDetail) (cause : HarnessError) : Prop where
  streams : ∀ failure, cause = .failure failure → detail = .streams failure
  message : (∀ failure, cause ≠ .failure failure) → detail = .message cause.message

theorem FailureDetail.tells_ofError (cause : HarnessError) :
    (FailureDetail.ofError cause).Tells cause := by
  constructor
  · rintro failure rfl
    rfl
  · intro other
    cases cause with
    | failure failure => exact absurd rfl (other failure)
    | _ => rfl

namespace Dispatcher

/-- How a scenario lives from one world to another: `executions` lead from the world before it to
`settled`, and then only the final target may follow. -/
structure Lifecycle (dispatcher : Dispatcher) (scenario : Scenario) (workdir : Path)
    (before : World) (executions : List PhaseExecution) (settled : World)
    (result : ScenarioResult) (after : World) : Prop where
  chain : Chain (scenario.phase (dispatcher.contextIn workdir)) before executions settled
  decides : SetupDecides executions
  cleaned : (∀ phase, PhaseSucceeded executions phase) →
    after = settled.answered (dispatcher.cleanCommand workdir)
      (dispatcher.runner.reaction settled (dispatcher.cleanCommand workdir))
  uncleaned : ¬ (∀ phase, PhaseSucceeded executions phase) → after = settled
  passed_iff : result = .passed ↔ (∀ phase, PhaseSucceeded executions phase) ∧
    ∃ output, (dispatcher.runner.reaction settled (dispatcher.cleanCommand workdir)).outcome =
      .ok output ∧ output.exitCode = 0
  failed : ∀ cause, Execution.firstError? executions = some cause →
    ∃ detail, result = .failed detail ∧ detail.Tells cause
  notStarted : (∀ phase, PhaseSucceeded executions phase) → ∀ cause,
    (dispatcher.runner.reaction settled (dispatcher.cleanCommand workdir)).outcome = .error cause →
    result = .failed (.message (HarnessError.spawn dispatcher.make cause).message)
  notClean : (∀ phase, PhaseSucceeded executions phase) → ∀ output,
    (dispatcher.runner.reaction settled (dispatcher.cleanCommand workdir)).outcome = .ok output →
    output.exitCode ≠ 0 → result = .failed (.streams ⟨output.stdout, output.stderr⟩)

variable {dispatcher : Dispatcher} {root : Path} {world : World} {name : String}
  {scenario : Scenario}

theorem resultOf_targetEnding_clean (context : Context) (outcome : Except OsError Output) :
    resultOf (context.targetEnding .clean outcome) = .passed ↔
      ∃ output, outcome = .ok output ∧ output.exitCode = 0 := by
  rcases outcome with cause | output
  · exact ⟨nofun, nofun⟩
  · by_cases zero : output.exitCode = 0
    · simp [zero, resultOf]
    · simp [zero, resultOf, Target.mustSucceed]

/-- An admitted scenario is lived through, whatever its phases do and however they end. -/
theorem runScenario_lifecycle (admitted : dispatcher.Admits root world.tree name scenario) :
    ∃ workdir executions settled,
      world.tree.absolute (root.join (.ofText scenario.directory)) = .ok workdir ∧
      Lifecycle dispatcher scenario workdir world executions settled
        (dispatcher.runScenario root name world).1 (dispatcher.runScenario root name world).2 := by
  obtain ⟨workdir, whole, performed⟩ := admitted.runScenario
  obtain ⟨executions, settled, chain, decides, ended⟩ :=
    phases_chain scenario (dispatcher.contextIn workdir) world
  refine ⟨workdir, executions, settled, whole, ?_⟩
  rw [performed, ended]
  rcases first : Execution.firstError? executions with _ | cause
  · -- No phase failed: the final target decides.
    have all := decides.forall_succeeded_iff.2 first
    refine
      { chain := chain
        decides := decides
        cleaned := fun _ => congrArg (·.2) (dispatcher.makeClean_apply workdir settled)
        uncleaned := fun notAll => absurd all notAll
        passed_iff := ?_
        failed := ?_
        notStarted := ?_
        notClean := ?_ }
    · rw [makeClean_apply, resultOf_targetEnding_clean]
      exact ⟨fun clean => ⟨all, clean⟩, fun both => both.2⟩
    · intro cause failed
      rw [first] at failed
      cases failed
    · intro _ cause met
      rw [makeClean_apply, met]
      rfl
    · intro _ output met nonzero
      rw [makeClean_apply, met, Context.targetEnding_ok, if_pos ⟨rfl, nonzero⟩]
      rfl
  · -- A phase failed: its error is the result, and nothing comes after the phases.
    have notAll : ¬ ∀ phase, PhaseSucceeded executions phase := by
      rw [decides.forall_succeeded_iff, first]
      exact nofun
    refine
      { chain := chain
        decides := decides
        cleaned := fun all => absurd all notAll
        uncleaned := fun _ => rfl
        passed_iff := ⟨nofun, fun both => absurd both.1 notAll⟩
        failed := ?_
        notStarted := fun all => absurd all notAll
        notClean := fun all => absurd all notAll }
    intro other failed
    obtain rfl : cause = other := Option.some.inj (first.symm.trans failed)
    exact ⟨_, rfl, FailureDetail.tells_ofError cause⟩

def failingTwice : Scenario where
  name := "twice"
  directory := "twice"
  description := "Fails in its run and in its teardown"
  required := [Variable.domainId]
  skipReason := fun _ => none
  setup := fun _ => pure ()
  run := fun _ => throw (.failure ⟨"out", "err"⟩)
  teardown := fun _ => throw (.io .notFound)
  setupExtends := fun _ => .pure ()
  runExtends := fun _ => .throw _
  teardownExtends := fun _ => .throw _

def twiceDispatcher : Dispatcher where
  registry := Registry.register .empty failingTwice
  environment := .ofPairs [(Variable.domainId, "domain")]
  runner := fun _ tree _ => ⟨.ok ⟨"", "", 0⟩, tree, false⟩
  make := "make"
  waiter := .standard defaultTimeoutSeconds defaultPollSeconds
  logArchives := Marker.logArchives

def twiceTree : FileTree :=
  ⟨[([Octets.ofText "twice"], .directory)], [], by decide, by decide, FileTree.named_nil⟩

theorem runScenario_failingTwice :
    ∃ workdir executions settled,
      twiceTree.absolute ((Path.ofText "/").join (.ofText failingTwice.directory)) = .ok workdir ∧
      Lifecycle twiceDispatcher failingTwice workdir (.fresh twiceTree) executions settled
        (twiceDispatcher.runScenario (.ofText "/") "twice" (.fresh twiceTree)).1
        (twiceDispatcher.runScenario (.ofText "/") "twice" (.fresh twiceTree)).2 := by
  have admitted : twiceDispatcher.Admits (.ofText "/") twiceTree "twice" failingTwice := by
    constructor
    · rfl
    · have led : twiceTree.walk true FileTree.maximumLinks [] [Octets.ofText "twice"] =
          .ok (.taken [Octets.ofText "twice"] .directory) := by
        rw [FileTree.walk_cons_directory (by decide) (by decide) (by decide) (by decide), FileTree.walk]
        rfl
      exact FileTree.isDirectory_of_walk rfl led
    · decide
    · rfl
  exact runScenario_lifecycle admitted

end Dispatcher

end ScenarioBench

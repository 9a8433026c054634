import Mathlib.Data.List.Nodup
import ScenarioBench.Proofs.Execution
import ScenarioBench.Run.Dispatch

/-! What dispatching a scenario comes to.

A scenario that passes every gate has an absolute directory, in which its phases run as a chain of
executions. The chain stops after a setup that failed; the first error in it is the error of the
whole, and without one the build output is removed.
-/

set_option autoImplicit false

namespace ScenarioBench

theorem FileTree.absolute_of_isDirectory {tree : FileTree} {path : Path}
    (directory : tree.isDirectory path = true) :
    ∃ whole, tree.absolute path = .ok whole := by
  unfold FileTree.absolute Path.absolute
  split
  · rename_i empty
    simp [FileTree.isDirectory, FileTree.nodeAt, FileTree.follow, FileTree.checkPath,
      List.isEmpty_iff.1 empty] at directory
  · exact ⟨_, rfl⟩

def Scenario.phase (scenario : Scenario) (context : Context) : Phase → Act HarnessError Unit
  | .setup => scenario.setup context
  | .run => scenario.run context
  | .teardown => scenario.teardown context

abbrev PhaseExecution := Execution World HarnessError Unit Phase

namespace Dispatcher

/-- A scenario passes every gate. -/
structure Admits (dispatcher : Dispatcher) (root : Path) (tree : FileTree) (name : String)
    (scenario : Scenario) : Prop where
  registered : dispatcher.registry.scenario? name = some scenario
  present : tree.isDirectory (root.join (.ofText scenario.directory)) = true
  complete : dispatcher.environment.missing scenario.required = []
  wanted : scenario.skipReason dispatcher.environment = none

theorem Admits.gate_eq_ok {dispatcher : Dispatcher} {root : Path} {tree : FileTree} {name : String}
    {scenario : Scenario} (admitted : dispatcher.Admits root tree name scenario) :
    dispatcher.gate root tree name = .ok (scenario, root.join (.ofText scenario.directory)) := by
  simp [gate, admitted.registered, admitted.present, admitted.wanted, Environment.requireAll,
    admitted.complete]

/-- The phases of an admitted scenario run in the absolute form of its directory, and how they end
is the result. -/
theorem Admits.runScenario {dispatcher : Dispatcher} {root : Path} {world : World} {name : String}
    {scenario : Scenario} (admitted : dispatcher.Admits root world.tree name scenario) :
    ∃ workdir, world.tree.absolute (root.join (.ofText scenario.directory)) = .ok workdir ∧
      dispatcher.runScenario root name world =
        (resultOf (phases scenario (dispatcher.contextIn workdir) world).1,
          (phases scenario (dispatcher.contextIn workdir) world).2) := by
  obtain ⟨workdir, whole⟩ := FileTree.absolute_of_isDirectory admitted.present
  refine ⟨workdir, whole, ?_⟩
  have driven : dispatcher.drive scenario (root.join (.ofText scenario.directory)) world =
      phases scenario (dispatcher.contextIn workdir) world := by
    have settled : (Action.settled ((world.tree.absolute
        (root.join (.ofText scenario.directory))).mapError .io) : Act HarnessError Path) world =
        (.ok workdir, world) := by
      rw [whole]
      rfl
    exact (Action.bind_of_ok rfl _).trans (Action.bind_of_ok settled _)
  simp only [Dispatcher.runScenario, admitted.gate_eq_ok, Action.perform, driven]

def work (scenario : Scenario) (context : Context) : Act HarnessError Unit := do
  let run ← Action.attempt (scenario.run context)
  let teardown ← Action.attempt (scenario.teardown context)
  Action.settled run
  Action.settled teardown

theorem phases_eq (scenario : Scenario) (context : Context) :
    phases scenario context = (do
      scenario.setup context
      work scenario context
      context.makeClean) := by
  simp only [phases, work, bind_assoc]

theorem phases_extends (scenario : Scenario) (context : Context) :
    Action.Follows (phases scenario context) World.Extends := by
  refine .bind (scenario.setupExtends context) fun _ => ?_
  refine .bind (.attempt (scenario.runExtends context)) fun _ => ?_
  refine .bind (.attempt (scenario.teardownExtends context)) fun _ => ?_
  exact .bind (.settled _) fun _ => .bind (.settled _) fun _ => context.require_extends _ _

theorem runScenario_extends (dispatcher : Dispatcher) (root : Path) (name : String) (world : World) :
    world.Extends (dispatcher.runScenario root name world).2 := by
  unfold Dispatcher.runScenario
  split
  · exact Std.Refl.refl world
  · rename_i scenario directory _
    have driven : Action.Follows (dispatcher.drive scenario directory) World.Extends :=
      .bind .look fun _ => .bind (.settled _) fun _ => phases_extends scenario _
    exact driven world

def cleanCommand (dispatcher : Dispatcher) (workdir : Path) : Command :=
  { program := dispatcher.make, arguments := ["clean"], directory := workdir }

theorem makeClean_apply (dispatcher : Dispatcher) (workdir : Path) (world : World) :
    let context := dispatcher.contextIn workdir
    let reaction := dispatcher.runner.reaction world (dispatcher.cleanCommand workdir)
    context.makeClean world = (context.targetEnding .clean reaction.outcome,
      world.answered (dispatcher.cleanCommand workdir) reaction) :=
  (dispatcher.contextIn workdir).require_apply .clean [] world

theorem phases_of_setup_error {scenario : Scenario} {context : Context} {world after : World}
    {cause : HarnessError} (began : scenario.setup context world = (.error cause, after)) :
    phases scenario context world = (.error cause, after) :=
  Action.bind_of_error began _

theorem phases_of_setup_ok {scenario : Scenario} {context : Context}
    {world afterSetup afterRun settled : World} {run teardown : Except HarnessError Unit}
    (began : scenario.setup context world = (.ok (), afterSetup))
    (ran : scenario.run context afterSetup = (run, afterRun))
    (cleared : scenario.teardown context afterRun = (teardown, settled)) :
    phases scenario context world = (do
      Action.settled run
      Action.settled teardown
      context.makeClean : Act HarnessError Unit) settled := by
  refine (Action.bind_of_ok began _).trans ?_
  simp only [Action.bind_apply, Action.attempt_apply, ran, cleared]

def PhaseSucceeded (executions : List PhaseExecution) (phase : Phase) : Prop :=
  ∃ execution ∈ executions, execution.subject = phase ∧ execution.Succeeded

structure SetupDecides (executions : List PhaseExecution) : Prop where
  whole : PhaseSucceeded executions .setup →
    executions.map (·.subject) = [.setup, .run, .teardown]
  cut : ¬ PhaseSucceeded executions .setup → executions.map (·.subject) = [.setup]

/-- The phases are a chain, which is cut short by a setup that fails. -/
theorem phases_chain (scenario : Scenario) (context : Context) (world : World) :
    ∃ executions settled, Chain (scenario.phase context) world executions settled ∧
      SetupDecides executions ∧
      phases scenario context world = match Execution.firstError? executions with
        | some cause => (.error cause, settled)
        | none => context.makeClean settled := by
  rcases began : scenario.phase context .setup world with ⟨cause | value, afterSetup⟩
  · -- The chain ends with the setup, and so does what is done.
    refine ⟨[⟨.setup, world, .error cause, afterSetup⟩], afterSetup, .cons _ began .nil,
      ⟨?_, fun _ => rfl⟩, phases_of_setup_error began⟩
    rintro ⟨setup, member, -, succeeded⟩
    rw [List.mem_singleton.1 member] at succeeded
    exact nomatch succeeded
  · rcases ran : scenario.phase context .run afterSetup with ⟨run, afterRun⟩
    rcases cleared : scenario.phase context .teardown afterRun with ⟨teardown, settled⟩
    refine ⟨[⟨.setup, world, .ok value, afterSetup⟩, ⟨.run, afterSetup, run, afterRun⟩,
      ⟨.teardown, afterRun, teardown, settled⟩], settled,
      .cons _ began (.cons _ ran (.cons _ cleared .nil)), ⟨fun _ => rfl, ?_⟩, ?_⟩
    · intro failed
      exact absurd ⟨_, List.mem_cons_self, rfl, value, rfl⟩ failed
    · -- The run's error hides that of the teardown, and the final target needs both to be well.
      rw [phases_of_setup_ok began ran cleared]
      cases run <;> cases teardown <;> rfl

namespace SetupDecides

variable {executions : List PhaseExecution}

theorem nodup (decides : SetupDecides executions) : (executions.map (·.subject)).Nodup := by
  by_cases succeeded : PhaseSucceeded executions .setup
  · rw [decides.whole succeeded]
    decide
  · rw [decides.cut succeeded]
    decide

theorem forall_succeeded_iff (decides : SetupDecides executions) :
    (∀ phase, PhaseSucceeded executions phase) ↔ Execution.firstError? executions = none := by
  rw [Execution.firstError?_eq_none_iff]
  constructor
  · -- No phase occurs twice, so that the execution of a phase that succeeded is the only one.
    intro all execution member
    obtain ⟨other, among, same, succeeded⟩ := all execution.subject
    rwa [List.inj_on_of_nodup_map decides.nodup among member same] at succeeded
  · intro all phase
    have listed : ∀ subject ∈ executions.map (·.subject), PhaseSucceeded executions subject := by
      intro subject member
      obtain ⟨execution, among, rfl⟩ := List.mem_map.1 member
      exact ⟨execution, among, rfl, all execution among⟩
    have setup : PhaseSucceeded executions .setup := by
      by_contra failed
      exact failed (listed _ (by rw [decides.cut failed]; decide))
    refine listed phase ?_
    rw [decides.whole setup]
    cases phase <;> decide

end SetupDecides

end Dispatcher

end ScenarioBench

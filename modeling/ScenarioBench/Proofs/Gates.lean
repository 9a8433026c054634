import ScenarioBench.Proofs.Dispatch

/-! The gates before a scenario.

A name has to be registered, its directory has to be there, its environment complete, and there must be no
reason to skip it. The first gate that it does not pass decides the result, and nothing is done then: the
world stays as it is, whatever the phases and the commands would have done.
-/

set_option autoImplicit false

namespace ScenarioBench

namespace Environment

/-- The names that are not set, as often and in the order that they are declared. -/
structure ListsUnset (environment : Environment) (names listed : List String) : Prop where
  mem_iff : ∀ name, name ∈ listed ↔ name ∈ names ∧ environment.get? name = none
  ordered : listed.Sublist names
  counted : ∀ name ∈ listed, listed.count name = names.count name

theorem missing_listsUnset (environment : Environment) (names : List String) :
    environment.ListsUnset names (environment.missing names) := by
  constructor
  case mem_iff =>
    intro name
    rw [missing, List.mem_filter, Option.isNone_iff_eq_none]
  case ordered => exact List.filter_sublist
  case counted =>
    intro name listed
    exact List.count_filter (List.mem_filter.1 listed).2

end Environment

namespace Dispatcher

variable {dispatcher other : Dispatcher} {root : Path} {tree : FileTree} {name : String}
  {scenario : Scenario} {result : ScenarioResult}

/-- Why a name is refused that passed the gates before. -/
inductive Refusal (dispatcher : Dispatcher) (root : Path) (tree : FileTree) (name : String) :
    ScenarioResult → Prop where
  | unknown : dispatcher.registry.scenario? name = none →
      Refusal dispatcher root tree name (.failed (.message ("unable to find scenario " ++ name)))
  | absent {scenario : Scenario} : dispatcher.registry.scenario? name = some scenario →
      tree.isDirectory (root.join (.ofText scenario.directory)) = false →
      Refusal dispatcher root tree name (.failed (.message ("scenario directory " ++
        (root.join (.ofText scenario.directory)).display ++ " does not exist")))
  | incomplete {scenario : Scenario} : dispatcher.registry.scenario? name = some scenario →
      tree.isDirectory (root.join (.ofText scenario.directory)) = true →
      dispatcher.environment.missing scenario.required ≠ [] →
      Refusal dispatcher root tree name (.failed (.message ("Please set the environment variables " ++
        ", ".intercalate (dispatcher.environment.missing scenario.required))))
  | skipped {scenario : Scenario} {reason : String} :
      dispatcher.registry.scenario? name = some scenario →
      tree.isDirectory (root.join (.ofText scenario.directory)) = true →
      dispatcher.environment.missing scenario.required = [] →
      scenario.skipReason dispatcher.environment = some reason →
      Refusal dispatcher root tree name (.skipped reason)

theorem Refusal.gate_eq_error (refusal : Refusal dispatcher root tree name result) :
    dispatcher.gate root tree name = .error result := by
  cases refusal with
  | unknown missed =>
    simp only [gate, missed]
    rfl
  | absent found missing =>
    simp only [gate, found, missing]
    rfl
  | incomplete found present missing =>
    simp only [gate, found, present, Environment.requireAll, List.isEmpty_iff, missing]
    rfl
  | skipped found present complete reason =>
    simp only [gate, found, present, Environment.requireAll, complete, reason]
    rfl

theorem refusal_or_admits (dispatcher : Dispatcher) (root : Path) (tree : FileTree) (name : String) :
    (∃ result, Refusal dispatcher root tree name result) ∨
      ∃ scenario, dispatcher.Admits root tree name scenario := by
  rcases found : dispatcher.registry.scenario? name with _ | scenario
  · exact .inl ⟨_, .unknown found⟩
  rcases present : tree.isDirectory (root.join (.ofText scenario.directory))
  · exact .inl ⟨_, .absent found present⟩
  by_cases complete : dispatcher.environment.missing scenario.required = []
  · rcases wanted : scenario.skipReason dispatcher.environment with _ | reason
    · exact .inr ⟨scenario, found, present, complete, wanted⟩
    · exact .inl ⟨_, .skipped found present complete wanted⟩
  · exact .inl ⟨_, .incomplete found present complete⟩

theorem Admits.not_refusal (admitted : dispatcher.Admits root tree name scenario) :
    ¬ Refusal dispatcher root tree name result := by
  intro refusal
  have gated := admitted.gate_eq_ok
  rw [refusal.gate_eq_error] at gated
  cases gated

theorem Refusal.runScenario {world : World}
    (refusal : Refusal dispatcher root world.tree name result) :
    dispatcher.runScenario root name world = (result, world) := by
  simp only [Dispatcher.runScenario, refusal.gate_eq_error]

theorem admits_of_passed {world : World}
    (registered : dispatcher.registry.scenario? name = some scenario)
    (passed : (dispatcher.runScenario root name world).1 = .passed) :
    dispatcher.Admits root world.tree name scenario := by
  rcases dispatcher.refusal_or_admits root world.tree name with ⟨result, refusal⟩ | ⟨found, admitted⟩
  · rw [refusal.runScenario] at passed
    cases refusal <;> cases passed
  · obtain rfl : found = scenario := Option.some.inj (admitted.registered.symm.trans registered)
    exact admitted

/-- Dispatchers that differ in the phases of a scenario, and in what commands do, but not at its gates. -/
structure GatedAlike (dispatcher other : Dispatcher) (name : String) : Prop where
  environment : other.environment = dispatcher.environment
  unknown : dispatcher.registry.scenario? name = none → other.registry.scenario? name = none
  known : ∀ scenario, dispatcher.registry.scenario? name = some scenario →
    ∃ twin, other.registry.scenario? name = some twin ∧ twin.directory = scenario.directory ∧
      twin.required = scenario.required ∧ twin.skipReason = scenario.skipReason

theorem Refusal.alike (refusal : Refusal dispatcher root tree name result)
    (alike : GatedAlike dispatcher other name) : Refusal other root tree name result := by
  cases refusal with
  | unknown missed => exact .unknown (alike.unknown missed)
  | absent found missing =>
    obtain ⟨twin, foundToo, directory, -, -⟩ := alike.known _ found
    rw [← directory] at missing ⊢
    exact .absent foundToo missing
  | incomplete found present missing =>
    obtain ⟨twin, foundToo, directory, required, -⟩ := alike.known _ found
    rw [← directory] at present
    rw [← required, ← alike.environment] at missing ⊢
    exact .incomplete foundToo present missing
  | skipped found present complete reason =>
    obtain ⟨twin, foundToo, directory, required, skipReason⟩ := alike.known _ found
    rw [← directory] at present
    rw [← required, ← alike.environment] at complete
    rw [← skipReason, ← alike.environment] at reason
    exact .skipped foundToo present complete reason

/-- How dispatching decides a name in a world. -/
structure Decided (dispatcher : Dispatcher) (root : Path) (name : String) (world : World) : Prop where
  exhaustive : (∃ result, Refusal dispatcher root world.tree name result) ∨
    ∃ scenario, dispatcher.Admits root world.tree name scenario
  listed : ∀ names, dispatcher.environment.ListsUnset names (dispatcher.environment.missing names)
  refused : ∀ result, Refusal dispatcher root world.tree name result →
    dispatcher.runScenario root name world = (result, world)
  indifferent : ∀ result, Refusal dispatcher root world.tree name result →
    ∀ other, GatedAlike dispatcher other name → other.runScenario root name world = (result, world)
  admitted : ∀ scenario, dispatcher.Admits root world.tree name scenario →
    (∀ result, ¬ Refusal dispatcher root world.tree name result) ∧
    ∃ workdir setup rest settled,
      world.tree.absolute (root.join (.ofText scenario.directory)) = .ok workdir ∧
      Chain (scenario.phase (dispatcher.contextIn workdir)) world (setup :: rest) settled ∧
      setup.subject = .setup ∧
      dispatcher.runScenario root name world =
        match Execution.firstError? (setup :: rest) with
        | some cause => (resultOf (.error cause), settled)
        | none => (resultOf ((dispatcher.contextIn workdir).makeClean settled).1,
          ((dispatcher.contextIn workdir).makeClean settled).2)

theorem SetupDecides.exists_cons {executions : List PhaseExecution}
    (decides : SetupDecides executions) :
    ∃ setup rest, executions = setup :: rest ∧ setup.subject = .setup := by
  obtain ⟨others, subjects⟩ : ∃ others, executions.map (·.subject) = .setup :: others := by
    by_cases succeeded : PhaseSucceeded executions .setup
    · exact ⟨_, decides.whole succeeded⟩
    · exact ⟨_, decides.cut succeeded⟩
  obtain ⟨setup, rest, split, first, -⟩ := List.map_eq_cons_iff.1 subjects
  exact ⟨setup, rest, split, first⟩

theorem decided (dispatcher : Dispatcher) (root : Path) (name : String) (world : World) :
    Decided dispatcher root name world := by
  constructor
  case exhaustive => exact dispatcher.refusal_or_admits root world.tree name
  case listed => exact dispatcher.environment.missing_listsUnset
  case refused => exact fun _ => Refusal.runScenario
  case indifferent => exact fun _ refusal _ alike => (refusal.alike alike).runScenario
  case admitted =>
    intro scenario admitted
    refine ⟨fun _ => admitted.not_refusal, ?_⟩
    obtain ⟨workdir, whole, performed⟩ := admitted.runScenario
    obtain ⟨executions, settled, chain, decides, ended⟩ :=
      phases_chain scenario (dispatcher.contextIn workdir) world
    obtain ⟨setup, rest, rfl, first⟩ := decides.exists_cons
    refine ⟨workdir, setup, rest, settled, whole, chain, first, ?_⟩
    rw [performed, ended]
    rcases Execution.firstError? (setup :: rest) with _ | cause <;> rfl

end Dispatcher

end ScenarioBench

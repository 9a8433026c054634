import ScenarioBench.CommandLine.Commands
import ScenarioBench.Proofs.Gates

/-! The gates of a scenario and the environment check of the command line.

Main statement: dispatching decides a name at the first gate that it does not pass, without any effect, and
what the environment check says of a scenario is what the gate of its environment would say.
-/

set_option autoImplicit false

namespace ScenarioBench.CommandLine

/-- A line says whether a registered scenario misses variables, and lists them as its gate does. -/
def TellsMissing (environment : Environment) (name line : String) : Prop :=
  ∃ scenario, Catalogue.registry.scenario? name = some scenario ∧
    (line = name ++ " ok\n" ↔ environment.missing scenario.required = []) ∧
    (environment.missing scenario.required ≠ [] → line =
      name ++ " missing " ++ ", ".intercalate (environment.missing scenario.required) ++ "\n")

variable (surroundings : Surroundings)

/-- Names were checked in order, with a line for each, up to one that is not registered. -/
structure Checked {α : Type} (names : List String) (session : Session)
    (ending : Except CommandError α) (after : Session) (done lines : List String) : Prop where
  told : List.Forall₂ (TellsMissing surroundings.environment) done lines
  printed : after = { session with printed := session.printed ++ String.join lines }
  stopped : (done = names ∧ ∃ value, ending = .ok value) ∨
    ∃ name, done ++ [name] <+: names ∧ Catalogue.registry.scenario? name = none ∧
      ending = .error (.unknownScenario name)

theorem missing_line_ne (name listed : String) :
    name ++ " missing " ++ listed ++ "\n" ≠ name ++ " ok\n" := by
  intro same
  have texts := congrArg String.toList same
  simp [String.toList_append] at texts

theorem checkScenario_known {name : String} {scenario : Scenario}
    (registered : Catalogue.registry.scenario? name = some scenario) (session : Session) :
    ∃ line complete, TellsMissing surroundings.environment name line ∧
      checkScenario surroundings name session =
        (.ok complete, { session with printed := session.printed ++ line }) := by
  let missing := surroundings.environment.missing scenario.required
  have said : checkScenario surroundings name session = (.ok missing.isEmpty,
      { session with printed := session.printed ++
        (name ++ (if missing.isEmpty then " ok" else " missing " ++ ", ".intercalate missing)
          ++ "\n") }) := by
    unfold checkScenario
    rw [registered]
    rfl
  refine ⟨_, _, ⟨scenario, registered, ?_, fun incomplete => ?_⟩, said⟩
  · by_cases complete : missing = []
    · simp [missing, complete, String.append_assoc]
    · have listed := missing_line_ne name (", ".intercalate missing)
      simpa [missing, complete, String.append_assoc] using listed
  · simp [missing, incomplete, String.append_assoc]

theorem checkScenario_unknown {name : String}
    (missed : Catalogue.registry.scenario? name = none) (session : Session) :
    checkScenario surroundings name session = (.error (.unknownScenario name), session) := by
  have thrown : checkScenario surroundings name = throw (.unknownScenario name) := by
    unfold checkScenario
    rw [missed]
  rw [thrown]
  exact Action.throw_apply _ _

namespace Checked

variable {surroundings : Surroundings} {α β : Type} {names done lines : List String}
  {session after : Session} {ending : Except CommandError α}

theorem map (checked : Checked surroundings names session ending after done lines) (change : α → β) :
    Checked surroundings names session (ending.map change) after done lines := by
  refine ⟨checked.told, checked.printed, ?_⟩
  rcases checked.stopped with ⟨whole, value, rfl⟩ | ⟨name, next, missed, rfl⟩
  · exact .inl ⟨whole, change value, rfl⟩
  · exact .inr ⟨name, next, missed, rfl⟩

theorem cons {name line : String} (tells : TellsMissing surroundings.environment name line)
    (checked : Checked surroundings names { session with printed := session.printed ++ line }
      ending after done lines) :
    Checked surroundings (name :: names) session ending after (name :: done) (line :: lines) := by
  refine ⟨.cons tells checked.told, ?_, ?_⟩
  · rw [checked.printed, String.join_cons, String.append_assoc]
  · rcases checked.stopped with ⟨rfl, value, ended⟩ | ⟨other, next, missed, ended⟩
    · exact .inl ⟨rfl, value, ended⟩
    · exact .inr ⟨other, List.cons_prefix_cons.2 ⟨rfl, next⟩, missed, ended⟩

end Checked

theorem mapM_checkScenario (names : List String) (session : Session) :
    ∃ done lines, Checked surroundings names session
      (names.mapM (checkScenario surroundings) session).1
      (names.mapM (checkScenario surroundings) session).2 done lines := by
  induction names generalizing session with
  | nil =>
    exact ⟨[], [], .nil, by simp, .inl ⟨rfl, _, rfl⟩⟩
  | cons name rest ih =>
    rw [List.mapM_cons]
    rcases registered : Catalogue.registry.scenario? name with _ | scenario
    · -- Lines that were printed before stay; the names after this one are not looked at.
      rw [Action.bind_of_error (checkScenario_unknown surroundings registered session)]
      exact ⟨[], [], .nil, by simp, .inr ⟨name, ⟨rest, rfl⟩, registered, rfl⟩⟩
    · obtain ⟨line, complete, tells, checked⟩ := checkScenario_known surroundings registered session
      obtain ⟨done, lines, others⟩ := ih { session with printed := session.printed ++ line }
      rw [Action.bind_of_ok checked, Action.bind_apply]
      have whole := (others.cons tells).map (complete :: ·)
      refine ⟨name :: done, line :: lines, ?_⟩
      revert whole
      rcases rest.mapM (checkScenario surroundings)
        { session with printed := session.printed ++ line } with ⟨cause | answers, after⟩ <;> exact id

def namesToCheck (names : List String) : List String :=
  if names.isEmpty then Catalogue.registry.keys else names

theorem checkEnvironment_checked (names : List String) (session : Session) :
    ∃ done lines, Checked surroundings (namesToCheck names) session
      (checkEnvironment surroundings names session).1
      (checkEnvironment surroundings names session).2 done lines := by
  obtain ⟨done, lines, checked⟩ := mapM_checkScenario surroundings (namesToCheck names) session
  have whole := checked.map (List.all · id)
  refine ⟨done, lines, ?_⟩
  rw [checkEnvironment, ← namesToCheck, Action.bind_apply]
  revert whole
  rcases (namesToCheck names).mapM (checkScenario surroundings) session
    with ⟨cause | answers, after⟩ <;> exact id

/-- Every name is decided at the first gate that it does not pass, without any effect. The environment check
tells for each scenario of the toolkit what its gate would. -/
theorem gates_decide (dispatcher : Dispatcher) (root : Path) (name : String) (world : World) :
    dispatcher.Decided root name world ∧
    (∀ scenario ∈ Catalogue.scenarios,
      Catalogue.registry.scenario? scenario.name = some scenario) ∧
    ∀ surroundings names session, ∃ done lines,
      Checked surroundings (namesToCheck names) session
        (checkEnvironment surroundings names session).1
        (checkEnvironment surroundings names session).2 done lines :=
  ⟨dispatcher.decided root name world, fun _ => Catalogue.scenario?_registry,
    checkEnvironment_checked⟩

end ScenarioBench.CommandLine

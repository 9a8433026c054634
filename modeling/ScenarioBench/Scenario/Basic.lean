import ScenarioBench.Bench.Context
import ScenarioBench.Data.Dictionary

/-! Scenarios and the registry they are found in.

A scenario is an end-to-end check that lives in a directory of its own. It says what it needs from
the environment and when it is skipped, and does its work in three phases. A phase may do anything to
the world but take back a command that was issued.
-/

set_option autoImplicit false

namespace ScenarioBench

structure Scenario where
  name : String
  directory : String
  description : String
  required : List String
  skipReason : Environment → Option String
  setup : Context → Act HarnessError Unit
  run : Context → Act HarnessError Unit
  teardown : Context → Act HarnessError Unit
  setupExtends : ∀ context, Action.Follows (setup context) World.Extends
  runExtends : ∀ context, Action.Follows (run context) World.Extends
  teardownExtends : ∀ context, Action.Follows (teardown context) World.Extends

namespace Scenario

def ofBody (name description : String) (required : List String)
    (body : Context → Act HarnessError Unit)
    (bodyExtends : ∀ context, Action.Follows (body context) World.Extends) : Scenario where
  name := name
  directory := name
  description := description
  required := required
  skipReason := fun _ => none
  setup := fun _ => pure ()
  run := body
  teardown := fun _ => pure ()
  setupExtends := fun _ => .pure ()
  runExtends := bodyExtends
  teardownExtends := fun _ => .pure ()

end Scenario

/-- Scenarios by name, in the order of their names. -/
abbrev Registry := Dictionary Scenario

namespace Registry

def register (registry : Registry) (scenario : Scenario) : Registry :=
  registry.insert scenario.name scenario

def registerAll (registry : Registry) (scenarios : List Scenario) : Registry :=
  scenarios.foldl register registry

def scenario? (registry : Registry) (name : String) : Option Scenario :=
  registry.get? name

@[simp] theorem scenario?_register_self (registry : Registry) (scenario : Scenario) :
    (registry.register scenario).scenario? scenario.name = some scenario :=
  Entries.find?_insert_self _ _ _

@[simp] theorem scenario?_register_of_ne (registry : Registry) (scenario : Scenario) {name : String}
    (different : name ≠ scenario.name) :
    (registry.register scenario).scenario? name = registry.scenario? name :=
  Entries.find?_insert_of_ne _ _ different

@[simp] theorem scenario?_registerAll_of_not_mem (registry : Registry) {scenarios : List Scenario}
    {name : String} (fresh : name ∉ scenarios.map (·.name)) :
    (registry.registerAll scenarios).scenario? name = registry.scenario? name := by
  induction scenarios generalizing registry with
  | nil => rfl
  | cons scenario rest ih =>
    rw [List.map_cons, List.mem_cons, not_or] at fresh
    rw [registerAll, List.foldl_cons, ← registerAll, ih _ fresh.2,
      scenario?_register_of_ne _ _ fresh.1]

theorem scenario?_registerAll (registry : Registry) {scenarios : List Scenario} {scenario : Scenario}
    (distinct : (scenarios.map (·.name)).Nodup) (member : scenario ∈ scenarios) :
    (registry.registerAll scenarios).scenario? scenario.name = some scenario := by
  induction scenarios generalizing registry with
  | nil => cases member
  | cons first rest ih =>
    obtain ⟨fresh, others⟩ := List.nodup_cons.1 distinct
    rw [registerAll, List.foldl_cons, ← registerAll]
    rcases List.mem_cons.1 member with rfl | member
    · rw [scenario?_registerAll_of_not_mem _ fresh, scenario?_register_self]
    · exact ih _ others member

def scenarios (registry : Registry) : List Scenario :=
  registry.entries.map (·.2)

end Registry

end ScenarioBench

import ScenarioBench.Data.Results
import ScenarioBench.Launch.Submission

/-! Showing submissions instead of making them.

A submission is shown as a JSON document: its context, the topology and the configuration map.
-/

set_option autoImplicit false

namespace ScenarioBench.DryRun

def pathValue (path : Path) : Except Json.Fault Json :=
  match path.toText? with
  | some text => .ok (.string text)
  | none => .error .pathNotText

def document (context : JobContext) (topology : Topology) (config : ConfigMap) :
    Except Json.Fault Json := do
  let toolkits ← topology.toolkits.mapM pathValue
  return .object
    [("context", .string context.spelling),
     ("name", .string topology.name),
     ("main_composite", .string topology.composite),
     ("toolkits", .array toolkits),
     ("params", .object (topology.parameters.entries.map fun (name, value) => (name, .string value))),
     ("config", .object config.entries)]

theorem pathValue_injective {first second : Path} {value : Json} (told : pathValue first = .ok value)
    (same : pathValue second = .ok value) : first = second := by
  unfold pathValue at told same
  split at told <;> cases told
  next text textual =>
  split at same <;> cases same
  next other =>
  cases first
  cases second
  exact congrArg Path.mk ((Octets.ofText_of_toText? textual).symm.trans (Octets.ofText_of_toText? other))

/-- A document determines the submission that it shows. -/
theorem document_injective {context other : JobContext} {topology job : Topology}
    {config settings : ConfigMap} {shown : Json} (told : document context topology config = .ok shown)
    (same : document other job settings = .ok shown) :
    context = other ∧ topology = job ∧ config = settings := by
  obtain ⟨values, toolkits, written⟩ := exists_of_bind_ok told
  obtain ⟨others, searched, ⟨⟩⟩ := exists_of_bind_ok same
  have members := Json.object.inj (Except.ok.inj written)
  simp only [List.cons.injEq, Prod.mk.injEq, true_and, and_true, Json.string.injEq, Json.array.injEq,
    Json.object.injEq] at members
  obtain ⟨contexts, names, composites, rfl, parameters, configs⟩ := members
  have pairs : topology.parameters.entries = job.parameters.entries :=
    (List.map_inj_right fun _ _ equal => by
      obtain ⟨keys, values⟩ := Prod.mk.inj equal
      exact Prod.ext keys (Json.string.inj values)).1 parameters
  refine ⟨?_, ?_, Dictionary.eq_of_entries configs⟩
  · have spelled := congrArg JobContext.ofSpelling? contexts
    rw [JobContext.ofSpelling?_spelling, JobContext.ofSpelling?_spelling] at spelled
    exact Option.some.inj spelled
  · cases topology
    cases job
    cases names
    cases composites
    cases mapM_injective (fun _ _ _ => pathValue_injective) toolkits searched
    cases Dictionary.eq_of_entries pairs
    rfl

def render (context : JobContext) (topology : Topology) (config : ConfigMap) :
    Except LaunchError String :=
  ((document context topology config).map Json.pretty).mapError .json

def submitter {σ : Type} (context : JobContext) : Submitter σ :=
  { context := context, capturesOutput := false
    submit := fun topology config => do
      let text ← Action.settled (render context topology config)
      return { context := context, name := topology.name, jobId := none
               output := some ⟨text, "", 0⟩ }
    cancel := fun _ => return () }

end ScenarioBench.DryRun

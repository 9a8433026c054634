import ScenarioBench.Bench.Action
import ScenarioBench.Bench.Command
import ScenarioBench.Launch.JobConfig
import ScenarioBench.Launch.Topology

/-! Submitting jobs.

A submitter stands for one context. Its actions change a state of its own choosing, so that checks
and plans can be run with any submitters.
-/

set_option autoImplicit false

namespace ScenarioBench

structure Handle where
  context : JobContext
  name : String
  jobId : Option String
  output : Option Output
  deriving DecidableEq, Repr

abbrev Launching (σ α : Type) := Action σ LaunchError α

structure Submitter (σ : Type) where
  context : JobContext
  /-- Whether a submission runs the job to its end and captures what it prints. -/
  capturesOutput : Bool
  submit : Topology → ConfigMap → Launching σ Handle
  cancel : Handle → Launching σ Unit

namespace Handle

def verify (handle : Handle) (marker : String) : Except LaunchError Unit :=
  match handle.output with
  | none => .error (.submit handle.context (.noOutput handle.name marker))
  | some output =>
    (expectPass (output.success && output.shows marker) output.stdout output.stderr).mapError
      fun failure => .harness (.failure failure)

theorem verify_eq_ok_iff {handle : Handle} {marker : String} :
    handle.verify marker = .ok () ↔ ∃ output, handle.output = some output ∧ output.exitCode = 0 ∧
      marker.toList <:+: output.stdout.toList := by
  unfold verify
  rcases handle.output with _ | output
  · exact ⟨nofun, nofun⟩
  · have both : (output.success && output.shows marker) = true ↔
        output.exitCode = 0 ∧ marker.toList <:+: output.stdout.toList := by
      simp [Output.shows, Text.contains_iff]
    simp only [Option.some.injEq, exists_eq_left', ← both]
    cases output.success && output.shows marker
    · exact iff_of_false (fun ended => nomatch ended) nofun
    · exact iff_of_true rfl rfl

end Handle

end ScenarioBench

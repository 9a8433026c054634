import ScenarioBench.Bench.Command
import ScenarioBench.Bench.Failure
import ScenarioBench.Bench.Wait

/-! What the steps of scripted scenarios answered. -/

set_option autoImplicit false

namespace ScenarioBench

inductive StepValue where
  | nothing
  | output (output : Output)
  | texts (texts : List String)
  /-- How a wait ended; `none` if it never did. -/
  | waited (outcome : Option WaitOutcome)
  | number (number : Nat)
  | text (text : String)
  | path (path : Path)
  deriving DecidableEq, Repr

inductive Phase where
  | setup
  | run
  | teardown
  deriving DecidableEq, Repr

structure JournalEntry where
  phase : Phase
  step : String
  result : Except HarnessError StepValue

end ScenarioBench

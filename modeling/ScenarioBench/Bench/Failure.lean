import ScenarioBench.Files.Path

/-! What goes wrong while a scenario is dispatched or run, and how it is worded. -/

set_option autoImplicit false

namespace ScenarioBench

structure TestFailure where
  stdout : String
  stderr : String
  deriving DecidableEq, Repr, Inhabited

namespace TestFailure

def describe (failure : TestFailure) : String :=
  "stdout: " ++ failure.stdout ++ "\nstderr: " ++ failure.stderr

def report (failure : TestFailure) (name : String) : String :=
  name ++ " fail:\n\tstdout: " ++ failure.stdout ++ "\n\tstderr: " ++ failure.stderr ++ "\n"

def ofDetail (context detail : String) : TestFailure :=
  ⟨context, detail⟩

end TestFailure

def expectPass (condition : Bool) (stdout stderr : String) : Except TestFailure Unit :=
  if condition then .ok () else .error ⟨stdout, stderr⟩

inductive HarnessError where
  | failure (failure : TestFailure)
  | missingVariables (names : List String)
  | spawn (program : String) (cause : OsError)
  | unknownScenario (name : String)
  | scenarioDirectory (path : Path)
  | testList (path : Path) (cause : OsError)
  | io (cause : OsError)
  deriving DecidableEq, Repr

namespace HarnessError

def message : HarnessError → String
  | .failure failed => failed.describe
  | .missingVariables names => "Please set the environment variables " ++ ", ".intercalate names
  | .spawn program cause => "failed to run " ++ program ++ ": " ++ cause.message
  | .unknownScenario name => "unable to find scenario " ++ name
  | .scenarioDirectory path => "scenario directory " ++ path.display ++ " does not exist"
  | .testList path cause => "cannot read test list " ++ path.display ++ ": " ++ cause.message
  | .io cause => "I/O error: " ++ cause.message

end HarnessError

end ScenarioBench

import ScenarioBench.Bench.Failure
import ScenarioBench.Http.Error
import ScenarioBench.Json.Fault
import ScenarioBench.Launch.JobContext
import ScenarioBench.Vocabulary.Names

/-! What goes wrong while jobs are described, built, submitted, checked and cancelled. -/

set_option autoImplicit false

namespace ScenarioBench

inductive SubmitProblem where
  | refused (reason : String)
  | noJobId (job : String)
  | noOutput (job marker : String)
  | checkNeedsOutput (job marker : String)
  | unverifiable (job : String)
  deriving DecidableEq, Repr

namespace SubmitProblem

def message : SubmitProblem → String
  | refused reason => reason
  | noJobId job => "no job id recorded for " ++ job
  | noOutput job marker => job ++ " captured no output to check for " ++ marker
  | checkNeedsOutput job marker =>
    job ++ " captures no job output to check for " ++ marker ++ "; use the standalone context"
  | unverifiable job => job ++ " cannot be verified: the context captures no job output"

end SubmitProblem

inductive CredentialProblem where
  | unknownService (name : String)
  | noCredentials (name : String)
  | noAddress
  | nothingUsable
  deriving DecidableEq, Repr

namespace CredentialProblem

def message : CredentialProblem → String
  | unknownService name => "service " ++ name ++ " not found in " ++ Variable.boundServices
  | noCredentials name => "service " ++ name ++ " has no credentials"
  | noAddress => "service credentials have no REST URL"
  | nothingUsable => "no API key or userid/password for the streaming analytics service"

end CredentialProblem

inductive LaunchError where
  | harness (cause : HarnessError)
  | composite (kind : String)
  | build (kind stderr : String)
  | submit (context : JobContext) (problem : SubmitProblem)
  | credentials (problem : CredentialProblem)
  | http (cause : Http.Error)
  | json (fault : Json.Fault)
  | io (cause : OsError)
  deriving Repr

namespace LaunchError

def message : LaunchError → String
  | harness cause => cause.message
  | composite kind => "composite name must be qualified as namespace::Name: " ++ kind
  | build kind stderr => "failed to compile " ++ kind ++ ":\n" ++ stderr
  | submit context problem =>
    "submission to " ++ context.spelling ++ " failed: " ++ problem.message
  | credentials problem => "credentials: " ++ problem.message
  | http cause => "HTTP error: " ++ cause.message
  | json fault => "JSON error: " ++ fault.message
  | io cause => "I/O error: " ++ cause.message

end LaunchError

end ScenarioBench

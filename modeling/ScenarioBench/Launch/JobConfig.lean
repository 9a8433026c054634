import ScenarioBench.Json.Value
import ScenarioBench.Launch.JobContext

/-! The configuration of a job.

A submission carries a configuration map from option names to JSON values. The map is opaque: only
the options named here are looked at, and any other option is passed on as it is.
-/

set_option autoImplicit false

namespace ScenarioBench

abbrev ConfigMap := Dictionary Json

namespace ConfigMap

/-- The text under an option; values of other kinds count as absent. -/
def text? (config : ConfigMap) (option : String) : Option String :=
  (config.get? option).bind Json.string?

def bool? (config : ConfigMap) (option : String) : Option Bool :=
  (config.get? option).bind Json.bool?

end ConfigMap

namespace JobOption

def verifyPeer : String := "ssl_verify"
def userName : String := "username"
def password : String := "password"
def apiKey : String := "api_key"
def tokenEndpoint : String := "token_endpoint"
def tracing : String := "tracing"

end JobOption

inductive Credentials where
  | user (name password : String)
  | apiKey (key endpoint : String)
  deriving DecidableEq, Repr

namespace Credentials

def defaultEndpoint : String := "https://iam.cloud.ibm.com/identity/token"

/-- The credentials that the given fields make. A key that is not empty wins; a user needs a name
that is not empty and a password. -/
def ofFields (name password key endpoint : Option String) : Option Credentials :=
  match key.filter fun key => key ≠ "" with
  | some key => some (.apiKey key (endpoint.getD defaultEndpoint))
  | none =>
    -- An empty password is one, an empty name is none.
    match name, password with
    | some name, some password => if name = "" then none else some (.user name password)
    | _, _ => none

def ofConfig (config : ConfigMap) : Option Credentials :=
  ofFields (config.text? JobOption.userName) (config.text? JobOption.password)
    (config.text? JobOption.apiKey) (config.text? JobOption.tokenEndpoint)

def options : Credentials → List (String × Json)
  | user name password =>
    [(JobOption.userName, .string name), (JobOption.password, .string password)]
  | apiKey key endpoint =>
    [(JobOption.apiKey, .string key), (JobOption.tokenEndpoint, .string endpoint)]

end Credentials

structure JobConfig where
  tracing : Option TraceLevel
  verifyPeer : Option Bool
  credentials : Option Credentials
  extra : ConfigMap

namespace JobConfig

def empty : JobConfig :=
  { tracing := none, verifyPeer := none, credentials := none, extra := .empty }

instance : Inhabited JobConfig := ⟨empty⟩

def options (config : JobConfig) : List (String × Json) :=
  (config.verifyPeer.map fun verify => (JobOption.verifyPeer, Json.bool verify)).toList
    ++ (config.credentials.map Credentials.options).getD []
    ++ (config.tracing.map fun level => (JobOption.tracing, Json.string level.spelling)).toList

/-- The configuration map: the extra options, over which the named fields win. -/
def toMap (config : JobConfig) : ConfigMap :=
  config.extra.insertMany config.options

end JobConfig

end ScenarioBench

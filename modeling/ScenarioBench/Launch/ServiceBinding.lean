import ScenarioBench.Bench.Environment
import ScenarioBench.Files.Tree
import ScenarioBench.Json.Record
import ScenarioBench.Launch.Error
import ScenarioBench.Launch.JobConfig
import ScenarioBench.Text.Lines

/-! The binding of the analytics service.

Bound services are listed in a JSON document: an object from kinds of services to arrays of entries.
The entry of a service is the first one with its name, the kinds taken in ascending order.
-/

set_option autoImplicit false

namespace ScenarioBench

structure ServiceBinding where
  apiKey : Option String
  /-- The address of the second version of the service, which goes before the other. -/
  address2 : Option String
  address : Option String
  user : Option String
  password : Option String
  deriving DecidableEq, Repr

namespace ServiceBinding

def fields : List String :=
  ["apikey", "v2_rest_url", "rest_url", "userid", "password"]

def ofJson (value : Json) : Except Json.Fault ServiceBinding := do
  let texts ← Json.recordStrings "struct ServiceCredentials" fields value
  return { apiKey := texts.lookup "apikey", address2 := texts.lookup "v2_rest_url"
           address := texts.lookup "rest_url", user := texts.lookup "userid"
           password := texts.lookup "password" }

/-- The entries of a document of bound services, in the order in which they are searched. -/
def entries (document : Json) : List Json :=
  (document.members?.getD []).flatMap fun member => member.2.items?.getD []

def isNamed (name : String) (entry : Json) : Bool :=
  decide ((entry.member? "name").bind Json.string? = some name)

def ofDocument (document : Json) (name : String) : Except LaunchError ServiceBinding :=
  match (entries document).find? (isNamed name) with
  | none => .error (.credentials (.unknownService name))
  | some entry =>
    match entry.member? "credentials" with
    | none => .error (.credentials (.noCredentials name))
    | some value => (ofJson value).mapError .json

def ofText (text name : String) : Except LaunchError ServiceBinding :=
  match Json.read? text with
  | some document => ofDocument document name
  | none => .error (.json .malformed)

def isInline (text : String) : Bool :=
  (Text.trimStart text.toList).head? = some '\x7b'

def ofEnvironment (environment : Environment) (tree : FileTree) :
    Except LaunchError ServiceBinding := do
  let name ← (environment.require Variable.serviceName).mapError .harness
  let services ← (environment.require Variable.boundServices).mapError .harness
  -- The variable holds the document itself or the path of a file with it.
  if isInline services then ofText services name
  else ofText (← (tree.readText (.ofText services)).mapError .io) name

def dropSlashes (text : String) : String :=
  String.ofList (text.toList.reverse.dropWhile (· = '/')).reverse

def base (binding : ServiceBinding) : Except LaunchError String :=
  match binding.address2, binding.address with
  | some address, _ | none, some address => .ok (dropSlashes address)
  | none, none => .error (.credentials .noAddress)

def credentials (binding : ServiceBinding) : Option Credentials :=
  Credentials.ofFields binding.user binding.password binding.apiKey none

def userParameters (binding : ServiceBinding) : List (String × String) :=
  match binding.user, binding.password with
  | some user, some password => [("user", user), ("password", password)]
  | _, _ => []

end ServiceBinding

end ScenarioBench

import ScenarioBench.Http.Exchange
import ScenarioBench.Launch.Compiler
import ScenarioBench.Launch.ServiceBinding
import ScenarioBench.Launch.Submission

/-! Submitting to the analytics service.

A job is compiled here, and its bundle is sent to the service with the options of the job. An API key
is first exchanged for a token; a user is sent with the password.
-/

set_option autoImplicit false

namespace ScenarioBench

structure Service where
  runner : CommandRunner
  network : Http.Network
  compiler : Compiler
  binding : ServiceBinding
  verifyPeer : Bool

namespace Service

def ofEnvironment (runner : CommandRunner) (network : Http.Network) (compiler : Compiler)
    (environment : Environment) (tree : FileTree) : Except LaunchError Service := do
  let binding ← ServiceBinding.ofEnvironment environment tree
  return { runner := runner, network := network, compiler := compiler, binding := binding
           verifyPeer := true }

def jobOptions (topology : Topology) (config : ConfigMap) : Json :=
  let parameters := topology.parameters.entries.map fun (name, value) =>
    Json.object [("name", .string name), ("value", .string value)]
  .object [("jobConfigOverlays", .array [.object [("jobConfig", .object (
    [("jobName", Json.string topology.name)]
      ++ (if parameters.isEmpty then [] else [("submissionParameters", .array parameters)])
      ++ ((config.text? JobOption.tracing).map fun level =>
          ("tracing", Json.string level)).toList))]])]

def grant : String := "urn:ibm:params:oauth:grant-type:apikey"

/-- The credentials of a submission: those of the configuration, else those of the binding. -/
def credentials (service : Service) (config : ConfigMap) : Option Credentials :=
  match Credentials.ofConfig config with
  | some credentials => some credentials
  | none => service.binding.credentials

def token (service : Service) (verifyPeer : Bool) (key endpoint : String) :
    Act Http.Error String := do
  let url ← Action.settled (Http.address endpoint)
  let response ← Http.exchange service.network url
    { method := .post, target := url.target, authorizations := []
      body := .form [("grant_type", grant), ("apikey", key)], verifyPeer := verifyPeer }
  match response.content.toText?.bind Json.readWritten?
      |>.bind (Json.onlyField? ["access_token"]) with
  | some (.string token) => return token
  | _ => throw .unreadable

def authorization (service : Service) (verifyPeer : Bool) (config : ConfigMap) :
    Act LaunchError String := do
  match service.credentials config with
  | some (.apiKey key endpoint) =>
    return Http.bearer (← (service.token verifyPeer key endpoint).mapError .http)
  | some (.user name password) => return Http.basic name password
  | none => throw (.credentials .nothingUsable)

/-- The bundle of a job: its file name, and its content unless it opens as a directory. -/
def openArchive (tree : FileTree) (archive : Path) : Except OsError (String × Option Octets) :=
  let name := Octets.lossy (archive.names.getLast?.getD [])
  match tree.read archive with
  | .ok content => .ok (name, some content)
  | .error .isADirectory => .ok (name, none)
  | .error cause => .error cause

/-- The id in the service's answer; one that is no text is written as JSON. -/
def jobIdOf (content : Octets) : Except Http.Error String :=
  match content.toText?.bind Json.readWritten? |>.bind (Json.onlyField? ["id", "jobId"]) with
  | some (.string id) => .ok id
  | some other => .ok other.sorted.compact
  | none => .error .unreadable

def submit (service : Service) (topology : Topology) (config : ConfigMap) :
    Launching World Handle := do
  let base ← Action.settled service.binding.base
  let bundle ← service.compiler.build service.runner topology false
  let verifyPeer := (config.bool? JobOption.verifyPeer).getD service.verifyPeer
  let world ← Action.look
  -- The bundle is opened before anything is sent, and read only when it is sent.
  let (fileName, content) ← Action.settled ((openArchive world.tree bundle.archive).mapError .io)
  let authorization ← service.authorization verifyPeer config
  let url ← Action.settled ((Http.address (base ++ "/jobs")).mapError .http)
  match content with
  | none => throw (.http (.noAnswer url.text))
  | some content =>
    let response ← (Http.exchange service.network url
      { method := .post, target := url.target, authorizations := [authorization]
        body := .multipart
          [Http.filePart "bundle_file" fileName content,
           Http.textPart "job_options" (jobOptions topology config).compact]
        verifyPeer := verifyPeer }).mapError .http
    let id ← Action.settled ((jobIdOf response.content).mapError .http)
    return { context := .service, name := topology.name, jobId := some id, output := none }

def cancel (service : Service) (handle : Handle) : Launching World Unit := do
  match handle.jobId with
  | none => throw (.submit .service (.noJobId handle.name))
  | some id =>
    let base ← Action.settled service.binding.base
    -- A handle carries no configuration, so only the binding can give credentials.
    let authorization ← service.authorization service.verifyPeer .empty
    let url ← Action.settled ((Http.address (base ++ "/jobs/" ++ id)).mapError .http)
    let _ ← (Http.exchange service.network url
      { method := .delete, target := url.target, authorizations := [authorization], body := .none
        verifyPeer := service.verifyPeer }).mapError .http
    return ()

def submitter (service : Service) : Submitter World :=
  { context := .service, capturesOutput := false, submit := service.submit, cancel := service.cancel }

end Service

end ScenarioBench

import ScenarioBench.Launch.Service
import ScenarioBench.Launch.Standalone
import ScenarioBench.Launch.Streamtool
import ScenarioBench.Proofs.Stages

/-! The stages of submitting and cancelling.

Each submitter compiles first and asks nothing else of the world unless that succeeded. What the instance tool is
asked, and what runs on this machine, is a plan that is known when the submission begins. What the service is asked
depends on its answers, so it is told by rules: one for each way in which authorizing, sending and cancelling can go
on. Main statement: every submission and every cancellation goes in the stages of its plan, or by these rules.
-/

set_option autoImplicit false

namespace ScenarioBench

/-- An action goes in the stages of a plan, and what it gives is made of the output of the last one. -/
def Planned (runner : CommandRunner) (network : Http.Network) {α : Type} (plan : List Stage)
    (value : Output → α) (world : World) (result : Except LaunchError α) (after : World) : Prop :=
  ∃ (steps : List StageRun) (last : StageRun) (ending : Except LaunchError Output),
    Staged runner network world steps result after ∧
    Followed Execution.Succeeded (·.subject) plan steps ∧
    steps.getLast? = some last ∧ last.ending = ending.map .output ∧ result = ending.map value

namespace Stage

def compile (compiler : Compiler) (topology : Topology) (standalone : Bool) : Stage :=
  .run { program := compiler.program, arguments := compiler.arguments topology standalone
         directory := compiler.workdir }
    (some (.build topology.composite))

def tool (tool : Streamtool) (arguments : List String) : Stage :=
  .run { program := tool.program, arguments := arguments, directory := .ofText "." }
    (some fun stderr => .submit .distributed (.refused stderr))

def job (executable : Path) (bundle : Bundle) (topology : Topology) : Stage :=
  .run { program := executable.display, arguments := topology.parameterArguments
         directory := bundle.directory }
    none

def exchange (verifyPeer : Bool) (key : String) (url : Http.Url) : Stage :=
  .send url
    { method := .post, target := url.target, authorizations := []
      body := .form [("grant_type", "urn:ibm:params:oauth:grant-type:apikey"), ("apikey", key)]
      verifyPeer := verifyPeer }

def upload (verifyPeer : Bool) (authorization fileName : String) (content : Octets) (options : Json)
    (url : Http.Url) : Stage :=
  .send url
    { method := .post, target := url.target, authorizations := [authorization]
      body := .multipart
        [Http.filePart "bundle_file" fileName content, Http.textPart "job_options" options.compact]
      verifyPeer := verifyPeer }

def delete (verifyPeer : Bool) (authorization : String) (url : Http.Url) : Stage :=
  .send url
    { method := .delete, target := url.target, authorizations := [authorization], body := .none
      verifyPeer := verifyPeer }

end Stage

namespace Service

def granted (response : Http.Response) : Except LaunchError String :=
  match response.content.toText?.bind Json.readWritten? |>.bind (Json.onlyField? ["access_token"]) with
  | some (.string token) => .ok (Http.bearer token)
  | _ => .error (.http .unreadable)

def accepted (name : String) (response : Http.Response) : Except LaunchError Handle :=
  match jobIdOf response.content with
  | .ok id => .ok { context := .service, name := name, jobId := some id, output := none }
  | .error cause => .error (.http cause)

variable (service : Service)

def checksPeer (config : ConfigMap) : Bool :=
  (config.bool? JobOption.verifyPeer).getD service.verifyPeer

/-- How a request is authorized: a user needs no stage, a key needs one that exchanges it. -/
inductive Authorizes (verifyPeer : Bool) (config : ConfigMap) :
    List StageRun → Except LaunchError String → Prop where
  | anonymous : service.credentials config = none →
      Authorizes verifyPeer config [] (.error (.credentials .nothingUsable))
  | user {name password : String} : service.credentials config = some (.user name password) →
      Authorizes verifyPeer config [] (.ok (Http.basic name password))
  | unaddressed {key endpoint : String} {cause : Http.Error} :
      service.credentials config = some (.apiKey key endpoint) →
      Http.address endpoint = .error cause → Authorizes verifyPeer config [] (.error (.http cause))
  | exchanged {key endpoint : String} {url : Http.Url} {step : StageRun}
      {ending : Except LaunchError Http.Response} :
      service.credentials config = some (.apiKey key endpoint) → Http.address endpoint = .ok url →
      step.subject = .exchange verifyPeer key url → step.ending = ending.map .response →
      Authorizes verifyPeer config [step] (ending.bind granted)

inductive Sends (topology : Topology) (config : ConfigMap) (base : String) (tree : FileTree) :
    List StageRun → Except LaunchError Handle → Prop where
  | unopened {cause : OsError} :
      openArchive tree (service.compiler.bundle topology).archive = .error cause →
      Sends topology config base tree [] (.error (.io cause))
  | unauthorized {opened : String × Option Octets} {steps : List StageRun} {cause : LaunchError} :
      openArchive tree (service.compiler.bundle topology).archive = .ok opened →
      service.Authorizes (service.checksPeer config) config steps (.error cause) →
      Sends topology config base tree steps (.error cause)
  | unaddressed {opened : String × Option Octets} {steps : List StageRun} {authorization : String}
      {cause : Http.Error} :
      openArchive tree (service.compiler.bundle topology).archive = .ok opened →
      service.Authorizes (service.checksPeer config) config steps (.ok authorization) →
      Http.address (base ++ "/jobs") = .error cause →
      Sends topology config base tree steps (.error (.http cause))
  | directory {fileName : String} {steps : List StageRun} {authorization : String} {url : Http.Url} :
      openArchive tree (service.compiler.bundle topology).archive = .ok (fileName, none) →
      service.Authorizes (service.checksPeer config) config steps (.ok authorization) →
      Http.address (base ++ "/jobs") = .ok url →
      Sends topology config base tree steps (.error (.http (.noAnswer url.text)))
  | sent {fileName : String} {content : Octets} {steps : List StageRun} {authorization : String}
      {url : Http.Url} {step : StageRun} {ending : Except LaunchError Http.Response} :
      openArchive tree (service.compiler.bundle topology).archive = .ok (fileName, some content) →
      service.Authorizes (service.checksPeer config) config steps (.ok authorization) →
      Http.address (base ++ "/jobs") = .ok url →
      step.subject = .upload (service.checksPeer config) authorization fileName content
        (jobOptions topology config) url →
      step.ending = ending.map .response →
      Sends topology config base tree (steps ++ [step]) (ending.bind (accepted topology.name))

/-- How a job is submitted: nothing is compiled without an address, and nothing is sent unless the compiler
succeeded. -/
inductive Submits (topology : Topology) (config : ConfigMap) :
    List StageRun → Except LaunchError Handle → Prop where
  | noAddress {cause : LaunchError} : service.binding.base = .error cause →
      Submits topology config [] (.error cause)
  | notCompiled {base : String} {step : StageRun} {cause : LaunchError} :
      service.binding.base = .ok base → step.subject = .compile service.compiler topology false →
      step.ending = .error cause → Submits topology config [step] (.error cause)
  | compiled {base : String} {step : StageRun} {rest : List StageRun}
      {result : Except LaunchError Handle} :
      service.binding.base = .ok base → step.subject = .compile service.compiler topology false →
      step.Succeeded → service.Sends topology config base step.after.tree rest result →
      Submits topology config (step :: rest) result

inductive Cancels (id : String) : List StageRun → Except LaunchError Unit → Prop where
  | noAddress {cause : LaunchError} : service.binding.base = .error cause → Cancels id [] (.error cause)
  | unauthorized {base : String} {steps : List StageRun} {cause : LaunchError} :
      service.binding.base = .ok base →
      service.Authorizes service.verifyPeer .empty steps (.error cause) → Cancels id steps (.error cause)
  | unaddressed {base : String} {steps : List StageRun} {authorization : String} {cause : Http.Error} :
      service.binding.base = .ok base →
      service.Authorizes service.verifyPeer .empty steps (.ok authorization) →
      Http.address (base ++ "/jobs/" ++ id) = .error cause → Cancels id steps (.error (.http cause))
  | sent {base : String} {steps : List StageRun} {authorization : String} {url : Http.Url}
      {step : StageRun} {ending : Except LaunchError Http.Response} :
      service.binding.base = .ok base →
      service.Authorizes service.verifyPeer .empty steps (.ok authorization) →
      Http.address (base ++ "/jobs/" ++ id) = .ok url →
      step.subject = .delete service.verifyPeer authorization url →
      step.ending = ending.map .response → Cancels id (steps ++ [step]) (ending.map fun _ => ())

end Service

namespace Planned

variable {runner : CommandRunner} {network : Http.Network} {α : Type} {plan : List Stage} {stage : Stage}
  {value : Output → α} {world between after : World} {result : Except LaunchError α}

theorem cut {cause : LaunchError} (performed : stage.perform runner network world = (.error cause, after)) :
    Planned runner network (stage :: plan) value world (.error cause) after :=
  ⟨_, _, .error cause, .failed stage performed, .cut rfl Execution.not_succeeded_error, rfl, rfl, rfl⟩

theorem last {output : Output}
    (performed : stage.perform runner network world = (.ok (.output output), after)) :
    Planned runner network [stage] value world (.ok (value output)) after :=
  ⟨_, _, .ok output, .passed stage performed (.ended _), .cons rfl ⟨_, rfl⟩ .nil, rfl, rfl, rfl⟩

theorem cons {answer : Answer} (performed : stage.perform runner network world = (.ok answer, between))
    (planned : Planned runner network plan value between result after) :
    Planned runner network (stage :: plan) value world result after := by
  obtain ⟨steps, last, ending, staged, followed, isLast, answered, ends⟩ := planned
  refine ⟨_, last, ending, .passed stage performed staged, .cons rfl ⟨answer, rfl⟩ followed, ?_,
    answered, ends⟩
  rw [List.getLast?_cons, isLast]
  rfl

end Planned

section
variable (runner : CommandRunner) (network : Http.Network) {α : Type} (world : World)

theorem issue_harness (command : Command) :
    (runner.issue command).mapError LaunchError.harness world =
      ((runner.reaction world command).outcome.mapError fun cause =>
          .harness (.spawn command.program cause),
        world.answered command (runner.reaction world command)) := by
  unfold Action.mapError CommandRunner.issue
  cases met : (runner.reaction world command).outcome <;> simp only [met] <;> rfl

theorem issue_judged (command : Command) (refuse : String → LaunchError) (value : Output → α) :
    ∃ (ending : Except LaunchError Output) (after : World),
      (Stage.run command (some refuse)).perform runner network world = (ending.map .output, after) ∧
      (do
        let output ← (runner.issue command).mapError .harness
        if output.success then return value output
        else throw (refuse output.stderr) : Launching World α) world = (ending.map value, after) := by
  rw [Action.bind_apply, issue_harness]
  unfold Stage.perform
  dsimp only
  rcases (runner.reaction world command).outcome with cause | output
  · exact ⟨.error (.harness (.spawn command.program cause)), _, rfl, rfl⟩
  · by_cases clean : output.exitCode = 0
    · have passed : output.success = true := decide_eq_true clean
      refine ⟨.ok output, _, by simp only [Stage.judged, clean, if_true]; rfl, ?_⟩
      exact congrFun (if_pos passed) _
    · have refused : ¬ output.success = true := fun passed => clean (of_decide_eq_true passed)
      refine ⟨.error (refuse output.stderr), _, by simp only [Stage.judged, clean, if_false]; rfl, ?_⟩
      exact congrFun (if_neg refused) _

theorem build_apply (compiler : Compiler) (topology : Topology) (standalone : Bool) :
    ∃ (ending : Except LaunchError Output) (after : World),
      (Stage.compile compiler topology standalone).perform runner network world =
        (ending.map .output, after) ∧
      compiler.build runner topology standalone world =
        (ending.map fun _ => compiler.bundle topology, after) :=
  issue_judged runner network world _ _ fun _ => compiler.bundle topology

theorem run_apply (tool : Streamtool) (arguments : List String) :
    ∃ (ending : Except LaunchError Output) (after : World),
      (Stage.tool tool arguments).perform tool.runner network world = (ending.map .output, after) ∧
      tool.run arguments world = (ending.map fun output => output, after) :=
  issue_judged tool.runner network world _ _ fun output => output

theorem job_apply (executable : Path) (bundle : Bundle) (topology : Topology) :
    ∃ (ending : Except LaunchError Output) (after : World),
      (Stage.job executable bundle topology).perform runner network world = (ending.map .output, after) ∧
      (runner.issue (Standalone.command executable bundle topology)).mapError .harness world =
        (ending, after) := by
  rw [issue_harness]
  unfold Stage.job Stage.perform Standalone.command
  dsimp only
  rcases (runner.reaction world _).outcome with cause | output
  · exact ⟨.error (.harness (.spawn executable.display cause)), _, rfl, rfl⟩
  · exact ⟨.ok output, _, rfl, rfl⟩

end

namespace Streamtool

variable (tool : Streamtool) (network : Http.Network) (world : World)

theorem submit_planned (topology : Topology) (config : ConfigMap) :
    Planned tool.runner network
      [.compile tool.compiler topology false,
        .tool tool (tool.submitArguments (tool.compiler.bundle topology).archive.display topology config)]
      (fun output =>
        { context := .distributed, name := topology.name
          jobId := (JobId.parse? output.stdout).or (JobId.parse? output.stderr), output := none : Handle })
      world (tool.submit topology config world).1 (tool.submit topology config world).2 := by
  unfold submit
  obtain ⟨_ | compiled, between, performed, built⟩ := build_apply tool.runner network world
    tool.compiler topology false
  · rw [Action.bind_of_error built]
    exact .cut performed
  · rw [Action.bind_of_ok built]
    refine .cons performed ?_
    obtain ⟨_ | output, after, asked, ran⟩ := run_apply network between tool
      (tool.submitArguments (tool.compiler.bundle topology).archive.display topology config)
    · rw [Action.bind_of_error ran]
      exact .cut asked
    · rw [Action.bind_of_ok ran]
      have given : JobId.ofOutput? output =
          (JobId.parse? output.stdout).or (JobId.parse? output.stderr) := by
        unfold JobId.ofOutput?
        cases JobId.parse? output.stdout <;> rfl
      rw [given]
      exact .last asked

theorem cancel_planned (handle : Handle) {id : String} (known : handle.jobId = some id) :
    Planned tool.runner network [.tool tool ["canceljob", "-d", tool.domain, "-i", tool.instanceId, id]]
      (fun _ => ()) world (tool.cancel handle world).1 (tool.cancel handle world).2 := by
  have cancelling : tool.cancel handle world =
      (tool.run ["canceljob", "-d", tool.domain, "-i", tool.instanceId, id] >>= fun _ => pure ()) world := by
    unfold cancel
    rw [known]
    rfl
  rw [cancelling]
  obtain ⟨_ | output, after, asked, ran⟩ := run_apply network world tool
    ["canceljob", "-d", tool.domain, "-i", tool.instanceId, id]
  · rw [Action.bind_of_error ran]
    exact .cut asked
  · rw [Action.bind_of_ok ran]
    exact .last asked

end Streamtool

namespace Standalone

variable (standalone : Standalone) (network : Http.Network) (world : World)

theorem absolute_executable (tree : FileTree) (topology : Topology) :
    ∃ executable, tree.absolute (standalone.compiler.bundle topology).executable = .ok executable := by
  have named : (standalone.compiler.bundle topology).executable.octets.isEmpty = false :=
    List.isEmpty_eq_false_iff.2 (Path.octets_join_ne_nil _ ⟨by decide, by decide⟩)
  unfold FileTree.absolute Path.absolute
  rw [if_neg (Bool.eq_false_iff.1 named)]
  exact ⟨_, rfl⟩

theorem submit_planned (topology : Topology) (config : ConfigMap) :
    ∃ executable,
      ((Stage.compile standalone.compiler topology true).perform standalone.runner network world).2.tree.absolute
        (standalone.compiler.bundle topology).executable = .ok executable ∧
      Planned standalone.runner network
        [.compile standalone.compiler topology true,
          .job executable (standalone.compiler.bundle topology) topology]
        (fun output =>
          { context := .standalone, name := topology.name, jobId := none, output := some output : Handle })
        world (standalone.submit topology config world).1 (standalone.submit topology config world).2 := by
  unfold submit
  obtain ⟨ending, between, performed, built⟩ := build_apply standalone.runner network world
    standalone.compiler topology true
  obtain ⟨executable, absolute⟩ := standalone.absolute_executable between.tree topology
  refine ⟨executable, by rw [performed]; exact absolute, ?_⟩
  cases ending with
  | error cause =>
    rw [Action.bind_of_error built]
    exact .cut performed
  | ok compiled =>
    rw [Action.bind_of_ok built]
    refine .cons performed ?_
    have located : Action.settled ((between.tree.absolute
        (standalone.compiler.bundle topology).executable).mapError LaunchError.io) between =
        (.ok executable, between) := by
      rw [absolute]
      rfl
    obtain ⟨_ | output, after, started, ran⟩ := job_apply standalone.runner network between
      executable (standalone.compiler.bundle topology) topology
    all_goals
      rw [Action.bind_of_ok (show Action.look between = (.ok between, between) from rfl),
        Action.bind_of_ok located]
    · rw [Action.bind_of_error ran]
      exact .cut started
    · rw [Action.bind_of_ok ran]
      exact .last started

end Standalone

namespace Service

variable (service : Service) (world : World)

theorem build_ruled (topology : Topology) :
    Ruled service.runner service.network
      (fun steps result => ∃ step, steps = [step] ∧
        step.subject = .compile service.compiler topology false ∧
        ∃ ending : Except LaunchError Output, step.ending = ending.map .output ∧
          result = ending.map fun _ => service.compiler.bundle topology)
      (service.compiler.build service.runner topology false) world := by
  obtain ⟨ending, after, performed, built⟩ := build_apply service.runner service.network world
    service.compiler topology false
  unfold Ruled
  rw [built]
  refine ⟨_, .single _ performed fun cause failed => ?_, _, rfl, rfl, ending, rfl, rfl⟩
  rw [error_of_map failed]
  rfl

theorem exchange_ruled (url : Http.Url) (request : Http.Request) :
    Ruled service.runner service.network
      (fun steps result => ∃ step, steps = [step] ∧ step.subject = .send url request ∧
        step.ending = result.map .response)
      ((Http.exchange service.network url request).mapError .http) world := by
  have performed : (Stage.send url request).perform service.runner service.network world =
      (((Http.exchange service.network url request world).1.mapError LaunchError.http).map .response,
        (Http.exchange service.network url request world).2) :=
    congrArg (Prod.mk · _) (Stage.received_eq _)
  exact ⟨_, .single _ performed fun _ => error_of_map, _, rfl, rfl, rfl⟩

theorem authorization_of_key {verifyPeer : Bool} {config : ConfigMap} {key endpoint : String}
    (given : service.credentials config = some (.apiKey key endpoint)) :
    service.authorization verifyPeer config = (do
      let url ← Action.settled ((Http.address endpoint).mapError .http)
      let response ← (Http.exchange service.network url
        { method := .post, target := url.target, authorizations := []
          body := .form [("grant_type", grant), ("apikey", key)]
          verifyPeer := verifyPeer }).mapError .http
      Action.settled (granted response)) := by
  unfold authorization
  rw [given]
  show ((service.token verifyPeer key endpoint).mapError LaunchError.http >>=
    fun token => pure (Http.bearer token)) = _
  unfold token
  -- Errors are turned into those of launching stage by stage, not at the end of them all.
  simp only [Action.mapError_bind, bind_assoc]
  refine congrArg (bind _) (funext fun url => congrArg (bind _) (funext fun response => ?_))
  unfold granted
  generalize (response.content.toText?.bind Json.readWritten?).bind
    (Json.onlyField? ["access_token"]) = read
  rcases read with _ | json
  · rfl
  · cases json <;> rfl

theorem authorization_ruled (verifyPeer : Bool) (config : ConfigMap) :
    Ruled service.runner service.network (service.Authorizes verifyPeer config)
      (service.authorization verifyPeer config) world := by
  rcases given : service.credentials config with _ | ⟨name, password⟩ | ⟨key, endpoint⟩
  · unfold authorization
    rw [given]
    exact .settled (.anonymous given)
  · unfold authorization
    rw [given]
    exact .settled (.user given)
  · rw [service.authorization_of_key given]
    refine .bind_settled ?_ fun url addressed => .bind (service.exchange_ruled world _ _) ?_ ?_
    · intro cause refused
      obtain ⟨reason, address, rfl⟩ := error_of_mapError refused
      exact .unaddressed given address
    · rintro _ cause ⟨step, rfl, asked, answered⟩
      exact .exchanged given (ok_of_mapError addressed) asked answered
    · rintro _ response between ⟨step, rfl, asked, answered⟩ -
      exact .settled (.exchanged given (ok_of_mapError addressed) asked answered)

def send (topology : Topology) (config : ConfigMap) (base : String) (archive : Path) :
    Launching World Handle := do
  let verifyPeer := (config.bool? JobOption.verifyPeer).getD service.verifyPeer
  let world ← Action.look
  let (fileName, content) ← Action.settled ((openArchive world.tree archive).mapError .io)
  let authorization ← service.authorization verifyPeer config
  let url ← Action.settled ((Http.address (base ++ "/jobs")).mapError .http)
  match content with
  | none => throw (.http (.noAnswer url.text))
  | some content =>
    let response ← (Http.exchange service.network url
      { method := .post, target := url.target, authorizations := [authorization]
        body := .multipart
          [Http.filePart "bundle_file" fileName content,
           Http.textPart "job_options" (jobOptions topology config).compact]
        verifyPeer := verifyPeer }).mapError .http
    let id ← Action.settled ((jobIdOf response.content).mapError .http)
    return { context := .service, name := topology.name, jobId := some id, output := none }

theorem submit_eq (topology : Topology) (config : ConfigMap) :
    service.submit topology config = (do
      let base ← Action.settled service.binding.base
      let bundle ← service.compiler.build service.runner topology false
      service.send topology config base bundle.archive) :=
  rfl

theorem send_ruled (topology : Topology) (config : ConfigMap) (base : String) :
    Ruled service.runner service.network (service.Sends topology config base world.tree)
      (service.send topology config base (service.compiler.bundle topology).archive) world := by
  refine .bind_look ?_
  refine .bind_settled ?_ fun opened found => .bind (service.authorization_ruled world _ config) ?_ ?_
  · intro cause refused
    obtain ⟨reason, unopened, rfl⟩ := error_of_mapError refused
    exact .unopened unopened
  · exact fun steps cause => .unauthorized (ok_of_mapError found)
  intro steps authorization between authorized _
  -- Nothing more is asked of the world unless the address can be requested and there is a bundle to send.
  refine .bind_settled ?_ fun url located => ?_
  · intro cause refused
    obtain ⟨reason, unaddressed, rfl⟩ := error_of_mapError refused
    rw [List.append_nil]
    exact .unaddressed (ok_of_mapError found) authorized unaddressed
  rcases opened with ⟨fileName, _ | content⟩
  · refine .settled ?_
    rw [List.append_nil]
    exact .directory (ok_of_mapError found) authorized (ok_of_mapError located)
  refine .bind (service.exchange_ruled _ url _) ?_ ?_
  · rintro _ cause ⟨step, rfl, asked, answered⟩
    exact .sent (ok_of_mapError found) authorized (ok_of_mapError located) asked answered
  · rintro _ response last ⟨step, rfl, asked, answered⟩ _
    have sent := Sends.sent (ok_of_mapError found) authorized (ok_of_mapError located) asked answered
    simp only [Except.bind, accepted] at sent
    refine .bind_settled ?_ fun id told => .settled ?_
    · intro cause refused
      obtain ⟨reason, unreadable, rfl⟩ := error_of_mapError refused
      rw [List.append_nil]
      rwa [unreadable] at sent
    · rw [List.append_nil]
      rwa [ok_of_mapError told] at sent

theorem submit_ruled (topology : Topology) (config : ConfigMap) :
    Ruled service.runner service.network (service.Submits topology config)
      (service.submit topology config) world := by
  rw [submit_eq]
  refine .bind_settled (fun cause => .noAddress) fun base addressed =>
    .bind (service.build_ruled world topology) ?_ ?_
  · rintro _ cause ⟨step, rfl, compile, ending, answered, failed⟩
    rw [error_of_map failed.symm] at answered
    exact .notCompiled addressed compile answered
  · rintro _ bundle between ⟨step, rfl, compile, ending, answered, compiled⟩ staged
    rcases ending with _ | output <;> cases compiled
    -- What is sent depends on the tree that the compiler left.
    obtain rfl : step.after = between := staged.left rfl
    obtain ⟨steps, next, sends⟩ := service.send_ruled step.after topology config base
    exact ⟨steps, next, .compiled addressed compile ⟨_, answered⟩ sends⟩

theorem cancel_ruled (handle : Handle) {id : String} (known : handle.jobId = some id) :
    Ruled service.runner service.network (service.Cancels id) (service.cancel handle) world := by
  unfold cancel
  rw [known]
  refine .bind_settled (fun cause => .noAddress) fun base addressed =>
    .bind (service.authorization_ruled world _ .empty) (fun steps cause => .unauthorized addressed) ?_
  intro steps authorization between authorized _
  refine .bind_settled ?_ fun url located => .bind (service.exchange_ruled _ url _) ?_ ?_
  · intro cause refused
    obtain ⟨reason, unaddressed, rfl⟩ := error_of_mapError refused
    rw [List.append_nil]
    exact .unaddressed addressed authorized unaddressed
  · rintro _ cause ⟨step, rfl, asked, answered⟩
    exact .sent addressed authorized (ok_of_mapError located) asked answered
  · rintro _ response last ⟨step, rfl, asked, answered⟩ _
    exact .settled (.sent addressed authorized (ok_of_mapError located) asked answered)

section
variable {verifyPeer : Bool} {topology : Topology} {config : ConfigMap} {base : String} {tree : FileTree}
  {steps : List StageRun} {id : String}

theorem Authorizes.requests {result : Except LaunchError String}
    (authorizes : service.Authorizes verifyPeer config steps result) :
    (∀ step ∈ steps, step.subject.command? = none) ∧
      (steps ≠ [] → ∃ credentials, service.credentials config = some credentials) := by
  cases authorizes with
  | anonymous | user | unaddressed => exact ⟨List.forall_mem_nil _, fun nonempty => absurd rfl nonempty⟩
  | exchanged given _ asked =>
    refine ⟨fun step member => ?_, fun _ => ⟨_, given⟩⟩
    rw [List.mem_singleton.1 member, asked]
    rfl

theorem Authorizes.known {authorization : String}
    (authorizes : service.Authorizes verifyPeer config steps (.ok authorization)) :
    ∃ credentials, service.credentials config = some credentials := by
  generalize gave : (.ok authorization : Except LaunchError String) = result at authorizes
  cases authorizes with
  | anonymous => cases gave
  | user given | unaddressed given | exchanged given => exact ⟨_, given⟩

theorem Sends.requests {result : Except LaunchError Handle}
    (sends : service.Sends topology config base tree steps result) :
    (∀ step ∈ steps, step.subject.command? = none) ∧
      (steps ≠ [] → (∃ opened, openArchive tree (service.compiler.bundle topology).archive = .ok opened) ∧
        ∃ credentials, service.credentials config = some credentials) := by
  cases sends with
  | unopened => exact ⟨List.forall_mem_nil _, fun nonempty => absurd rfl nonempty⟩
  | unauthorized found authorizes | unaddressed found authorizes | directory found authorizes =>
    obtain ⟨silent, known⟩ := authorizes.requests
    exact ⟨silent, fun nonempty => ⟨⟨_, found⟩, known nonempty⟩⟩
  | sent found authorizes _ asked =>
    refine ⟨fun step member => ?_, fun _ => ⟨⟨_, found⟩, authorizes.known⟩⟩
    rcases List.mem_append.1 member with earlier | last
    · exact authorizes.requests.1 step earlier
    · rw [List.mem_singleton.1 last, asked]
      rfl

/-- Every request of a submission comes after a compilation that succeeded, and not without a bundle and
credentials. -/
theorem Submits.gated {result : Except LaunchError Handle}
    (submits : service.Submits topology config steps result) :
    ∀ step ∈ steps, step.subject.command? = none → ∃ compile rest, steps = compile :: rest ∧
      compile.subject = .compile service.compiler topology false ∧ compile.Succeeded ∧
      (∃ opened, openArchive compile.after.tree (service.compiler.bundle topology).archive = .ok opened) ∧
      ∃ credentials, service.credentials config = some credentials := by
  intro step member request
  cases submits with
  | noAddress => cases member
  | notCompiled _ compile =>
    rw [List.mem_singleton.1 member, compile] at request
    cases request
  | compiled _ compile succeeded sends =>
    rcases List.mem_cons.1 member with rfl | later
    · rw [compile] at request
      cases request
    · exact ⟨_, _, rfl, compile, succeeded, sends.requests.2 (List.ne_nil_of_mem later)⟩

theorem Submits.compiles_once {result : Except LaunchError Handle}
    (submits : service.Submits topology config steps result) :
    steps.filterMap (·.subject.command?) = match service.binding.base with
      | .ok _ => (Stage.compile service.compiler topology false).command?.toList
      | .error _ => [] := by
  cases submits with
  | noAddress unknown => simp [unknown]
  | notCompiled addressed compile => simp [addressed, compile, Stage.compile, Stage.command?]
  | compiled addressed compile _ sends =>
    simpa [addressed, compile, Stage.compile, Stage.command?] using sends.requests.1

theorem Cancels.silent {result : Except LaunchError Unit} (cancels : service.Cancels id steps result) :
    steps.filterMap (·.subject.command?) = [] := by
  refine List.filterMap_eq_nil_iff.2 fun step member => ?_
  cases cancels with
  | noAddress => cases member
  | unauthorized _ authorizes | unaddressed _ authorizes => exact authorizes.requests.1 step member
  | sent _ authorizes _ asked =>
    rcases List.mem_append.1 member with earlier | last
    · exact authorizes.requests.1 step earlier
    · rw [List.mem_singleton.1 last, asked]
      rfl

end

end Service

structure Streamtool.Protocol (tool : Streamtool) : Prop where
  submit (network : Http.Network) (topology : Topology) (config : ConfigMap) (world : World) :
    Planned tool.runner network
      [.compile tool.compiler topology false,
        .tool tool (tool.submitArguments (tool.compiler.bundle topology).archive.display topology config)]
      (fun output =>
        { context := .distributed, name := topology.name
          jobId := (JobId.parse? output.stdout).or (JobId.parse? output.stderr), output := none : Handle })
      world (tool.submit topology config world).1 (tool.submit topology config world).2
  address (archive : String) (topology : Topology) (config : ConfigMap) :
    ["submitjob", archive, "-d", tool.domain, "-i", tool.instanceId] <+:
      tool.submitArguments archive topology config
  cancelUnknown (handle : Handle) (world : World) (unknown : handle.jobId = none) :
    tool.cancel handle world = (.error (.submit .distributed (.noJobId handle.name)), world)
  cancel (network : Http.Network) (handle : Handle) (id : String) (world : World)
    (known : handle.jobId = some id) :
    Planned tool.runner network [.tool tool ["canceljob", "-d", tool.domain, "-i", tool.instanceId, id]]
      (fun _ => ()) world (tool.cancel handle world).1 (tool.cancel handle world).2

structure Standalone.Protocol (standalone : Standalone) : Prop where
  submit (network : Http.Network) (topology : Topology) (config : ConfigMap) (world : World) :
    ∃ executable,
      ((Stage.compile standalone.compiler topology true).perform standalone.runner network world).2.tree.absolute
        (standalone.compiler.bundle topology).executable = .ok executable ∧
      Planned standalone.runner network
        [.compile standalone.compiler topology true,
          .job executable (standalone.compiler.bundle topology) topology]
        (fun output =>
          { context := .standalone, name := topology.name, jobId := none, output := some output : Handle })
        world (standalone.submit topology config world).1 (standalone.submit topology config world).2
  cancel (handle : Handle) (world : World) : standalone.submitter.cancel handle world = (.ok (), world)

structure Service.Protocol (service : Service) : Prop where
  submit (topology : Topology) (config : ConfigMap) (world : World) :
    Ruled service.runner service.network
      (fun steps result => service.Submits topology config steps result ∧
        (∀ step ∈ steps, step.subject.command? = none → ∃ compile rest, steps = compile :: rest ∧
          compile.subject = .compile service.compiler topology false ∧ compile.Succeeded ∧
          (∃ opened,
            openArchive compile.after.tree (service.compiler.bundle topology).archive = .ok opened) ∧
          ∃ credentials, service.credentials config = some credentials) ∧
        steps.filterMap (·.subject.command?) = match service.binding.base with
          | .ok _ => (Stage.compile service.compiler topology false).command?.toList
          | .error _ => [])
      (service.submit topology config) world
  cancelUnknown (handle : Handle) (world : World) (unknown : handle.jobId = none) :
    service.cancel handle world = (.error (.submit .service (.noJobId handle.name)), world)
  cancel (handle : Handle) (id : String) (world : World) (known : handle.jobId = some id) :
    Ruled service.runner service.network
      (fun steps result => service.Cancels id steps result ∧ steps.filterMap (·.subject.command?) = [])
      (service.cancel handle) world

/-- Submitters ask the world for one thing after the other, and nothing after the first that fails. -/
theorem submitters_go_in_stages :
    (∀ tool : Streamtool, tool.Protocol) ∧ (∀ standalone : Standalone, standalone.Protocol) ∧
    (∀ service : Service, service.Protocol) ∧
    ∀ (runner : CommandRunner) (network : Http.Network) (world after : World) (steps : List StageRun)
      (result : Except LaunchError Handle), Staged runner network world steps result after →
      Chain (Stage.perform runner network) world steps after ∧
      (∀ step ∈ steps.dropLast, step.Succeeded) ∧
      (∀ step ∈ steps, ∀ cause, step.ending = .error cause → result = .error cause) ∧
      after.commands = world.commands ++ steps.filterMap (·.subject.command?) ∧
      ∃ sent, after.requests = world.requests ++ sent ∧
        sent.Sublist (steps.filterMap (·.subject.request?)) := by
  refine ⟨fun tool => ?_, fun standalone => ?_, fun service => ?_, ?_⟩
  · constructor
    · exact fun network topology config world => tool.submit_planned network world topology config
    · exact fun archive topology config => ⟨_, by
        simp only [Streamtool.submitArguments, Streamtool.address, List.append_assoc]
        rfl⟩
    · intro handle world unknown
      unfold Streamtool.cancel
      rw [unknown]
      rfl
    · exact fun network handle id world known => tool.cancel_planned network world handle known
  · constructor
    · exact fun network topology config world => standalone.submit_planned network world topology config
    · exact fun handle world => rfl
  · constructor
    · intro topology config world
      obtain ⟨steps, staged, submits⟩ := service.submit_ruled world topology config
      exact ⟨steps, staged, submits, submits.gated, submits.compiles_once⟩
    · intro handle world unknown
      unfold Service.cancel
      rw [unknown]
      rfl
    · intro handle id world known
      obtain ⟨steps, staged, cancels⟩ := service.cancel_ruled world handle known
      exact ⟨steps, staged, cancels, cancels.silent⟩
  · exact fun _ _ _ _ _ _ staged =>
      ⟨staged.chain, staged.stops.1, staged.stops.2, staged.commands, staged.requests⟩

def wordyTool : Streamtool where
  runner := fun _ tree _ =>
    { outcome := .ok ⟨"submitted", "job 3 got\nthe ID 12: 42.", 0⟩, tree := tree, cancels := false }
  compiler := .ofProgram "sc" (.ofText "output")
  program := "streamtool"
  domain := "d"
  instanceId := "i"

def wordyHandle : Handle :=
  { context := .distributed, name := "job", jobId := some "42", output := none }

def emptyWorld : World :=
  .fresh default

def wordyJob : Topology :=
  { name := "job", composite := "a::B", toolkits := [], parameters := .empty }

theorem submitters_go_in_stages_wordyTool :
    (wordyTool.submit wordyJob .empty emptyWorld).1 = .ok wordyHandle ∧ wordyHandle.jobId = some "42" ∧
    Planned wordyTool.runner Http.unreachable
      [.tool wordyTool ["canceljob", "-d", "d", "-i", "i", "42"]] (fun _ => ()) emptyWorld
      (wordyTool.cancel wordyHandle emptyWorld).1 (wordyTool.cancel wordyHandle emptyWorld).2 ∧
    wordyTool.cancel { wordyHandle with jobId := none } emptyWorld =
      (.error (.submit .distributed (.noJobId "job")), emptyWorld) :=
  have protocol := submitters_go_in_stages.1 wordyTool
  ⟨by rfl, rfl, protocol.cancel _ wordyHandle "42" emptyWorld rfl,
    protocol.cancelUnknown { wordyHandle with jobId := none } emptyWorld rfl⟩

end ScenarioBench

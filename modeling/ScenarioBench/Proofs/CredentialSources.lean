import ScenarioBench.Proofs.Submitting

/-! Where credentials come from.

Credentials can be said by the configuration of a job and by the binding of the service, and one rule tells what a
source determines. Main statement: a submission authenticates with what the configuration determines, else with what
the binding determines, and never with fields of both; without either nothing is sent.
-/

set_option autoImplicit false

namespace ScenarioBench

inductive CredentialField where
  | userName
  | password
  | apiKey
  | tokenEndpoint
  deriving DecidableEq, Repr

/-- A configuration says a text under an option; a value of another kind says nothing. -/
def ConfigMap.Says (config : ConfigMap) (field : CredentialField) (text : String) : Prop :=
  let option := match field with
    | .userName => "username"
    | .password => "password"
    | .apiKey => "api_key"
    | .tokenEndpoint => "token_endpoint"
  config.get? option = some (.string text)

/-- A binding says nothing of an endpoint. -/
def ServiceBinding.Says (binding : ServiceBinding) (field : CredentialField) (text : String) : Prop :=
  match field with
  | .userName => binding.user = some text
  | .password => binding.password = some text
  | .apiKey => binding.apiKey = some text
  | .tokenEndpoint => False

/-- What a source determines on its own: a key if it says one that is not empty, else a user if it says a name that is
not empty and a password. -/
inductive Determines (source : CredentialField → String → Prop) : Credentials → Prop where
  | key {key endpoint : String} : source .apiKey key → key ≠ "" → source .tokenEndpoint endpoint →
      Determines source (.apiKey key endpoint)
  | keyAtDefault {key : String} : source .apiKey key → key ≠ "" → (∀ endpoint, ¬ source .tokenEndpoint endpoint) →
      Determines source (.apiKey key "https://iam.cloud.ibm.com/identity/token")
  | user {name password : String} : (∀ key, source .apiKey key → key = "") → source .userName name → name ≠ "" →
      source .password password → Determines source (.user name password)

structure FieldsOf (source : CredentialField → String → Prop) (name password key endpoint : Option String) : Prop where
  userName : ∀ text, source .userName text ↔ name = some text
  password : ∀ text, source .password text ↔ password = some text
  apiKey : ∀ text, source .apiKey text ↔ key = some text
  tokenEndpoint : ∀ text, source .tokenEndpoint text ↔ endpoint = some text

section
variable {source : CredentialField → String → Prop} {name password key endpoint : Option String}
  {credentials : Credentials}

theorem ofFields_of_key {key : String} (nonempty : key ≠ "") : Credentials.ofFields name password (some key) endpoint =
    some (.apiKey key (endpoint.getD Credentials.defaultEndpoint)) := by
  have usable : (some key).filter (fun key => key ≠ "") = some key :=
    Option.filter_eq_some_iff.2 ⟨rfl, decide_eq_true nonempty⟩
  unfold Credentials.ofFields
  rw [usable]

theorem ofFields_of_user {name password : String} (useless : ∀ text, key = some text → text = "")
    (nonempty : name ≠ "") :
    Credentials.ofFields (some name) (some password) key endpoint = some (.user name password) := by
  have unusable : key.filter (fun key => key ≠ "") = none :=
    Option.filter_eq_none_iff.2 fun text known => by simp [useless text known]
  unfold Credentials.ofFields
  rw [unusable]
  exact if_neg nonempty

theorem FieldsOf.ofFields_iff (fields : FieldsOf source name password key endpoint) :
    Credentials.ofFields name password key endpoint = some credentials ↔ Determines source credentials := by
  constructor
  · unfold Credentials.ofFields
    intro made
    split at made
    · next text usable =>
      cases made
      obtain ⟨known, nonempty⟩ := Option.filter_eq_some_iff.1 usable
      have said := (fields.apiKey text).2 known
      have nonempty := of_decide_eq_true nonempty
      rcases endpoint with _ | address
      · exact .keyAtDefault said nonempty fun other told => nomatch (fields.tokenEndpoint other).1 told
      · exact .key said nonempty ((fields.tokenEndpoint address).2 rfl)
    · next useless =>
      -- No key is left, also where an empty one is said.
      split at made
      · next name password =>
        split at made
        · cases made
        · next nonempty =>
          cases made
          refine .user (fun text said => ?_) ((fields.userName _).2 rfl) nonempty ((fields.password _).2 rfl)
          have empty := Option.filter_eq_none_iff.1 useless text ((fields.apiKey text).1 said)
          simpa using empty
      · cases made
  · rintro (⟨said, nonempty, told⟩ | ⟨said, nonempty, untold⟩ | ⟨useless, named, nonempty, secret⟩)
    · rw [(fields.apiKey _).1 said, (fields.tokenEndpoint _).1 told, ofFields_of_key nonempty]
      rfl
    · have unknown : endpoint = none := Option.eq_none_iff_forall_not_mem.2 fun other told =>
        untold other ((fields.tokenEndpoint other).2 told)
      rw [(fields.apiKey _).1 said, unknown, ofFields_of_key nonempty]
      rfl
    · rw [(fields.userName _).1 named, (fields.password _).1 secret]
      exact ofFields_of_user (fun text known => useless text ((fields.apiKey text).2 known)) nonempty

end

@[simp] theorem ConfigMap.text?_eq_some_iff {config : ConfigMap} {option text : String} :
    config.text? option = some text ↔ config.get? option = some (.string text) := by
  unfold ConfigMap.text?
  rcases config.get? option with _ | value
  · exact ⟨nofun, nofun⟩
  · cases value <;> simp [Json.string?]

theorem ConfigMap.fieldsOf (config : ConfigMap) : FieldsOf config.Says (config.text? JobOption.userName)
    (config.text? JobOption.password) (config.text? JobOption.apiKey) (config.text? JobOption.tokenEndpoint) :=
  ⟨fun _ => text?_eq_some_iff.symm, fun _ => text?_eq_some_iff.symm, fun _ => text?_eq_some_iff.symm,
    fun _ => text?_eq_some_iff.symm⟩

theorem ServiceBinding.fieldsOf (binding : ServiceBinding) :
    FieldsOf binding.Says binding.user binding.password binding.apiKey none :=
  ⟨fun _ => .rfl, fun _ => .rfl, fun _ => .rfl, fun _ => ⟨False.elim, nofun⟩⟩

theorem ConfigMap.ofConfig_iff {config : ConfigMap} {credentials : Credentials} :
    Credentials.ofConfig config = some credentials ↔ Determines config.Says credentials :=
  config.fieldsOf.ofFields_iff

theorem ConfigMap.ofConfig_eq_none_iff {config : ConfigMap} :
    Credentials.ofConfig config = none ↔ ∀ own, ¬ Determines config.Says own := by
  simp only [Option.eq_none_iff_forall_ne_some, ne_eq, ofConfig_iff]

theorem ServiceBinding.credentials_iff {binding : ServiceBinding} {credentials : Credentials} :
    binding.credentials = some credentials ↔ Determines binding.Says credentials :=
  binding.fieldsOf.ofFields_iff

def Stage.authorizations : Stage → List String
  | run _ _ => []
  | send _ request => request.authorizations

def sends (steps : List StageRun) : List StageRun :=
  steps.filter fun step => step.subject.request?.isSome

/-- How requests authenticate with credentials: a user goes with each of them; a key is exchanged at its endpoint
first, and the token that it gave goes with the others. -/
inductive Credentials.Authenticates (verifyPeer : Bool) : Credentials → List StageRun → Prop where
  | user {name password : String} {requests : List StageRun} :
      (∀ step ∈ requests, step.subject.authorizations = [Http.basic name password]) →
      Authenticates verifyPeer (.user name password) requests
  | unsent {key endpoint : String} : Authenticates verifyPeer (.apiKey key endpoint) []
  | exchanged {key endpoint : String} {url : Http.Url} {step : StageRun} {rest : List StageRun} :
      Http.address endpoint = .ok url → step.subject = .exchange verifyPeer key url →
      (∀ later ∈ rest, ∃ response authorization, step.ending = .ok (.response response) ∧
        Service.granted response = .ok authorization ∧ later.subject.authorizations = [authorization]) →
      Authenticates verifyPeer (.apiKey key endpoint) (step :: rest)

/-- What the requests of an action came to is served by credentials: they authenticate with them, it does not fail for
want of any, and it does not succeed without a request. -/
structure Credentials.Serves (verifyPeer : Bool) (credentials : Credentials) {α : Type} (requests : List StageRun)
    (result : Except LaunchError α) : Prop where
  authenticates : credentials.Authenticates verifyPeer requests
  usable : result ≠ .error (.credentials .nothingUsable)
  sent : ∀ value, result = .ok value → requests ≠ []

theorem Stage.perform_ne {runner : CommandRunner} {network : Http.Network} {stage : Stage} {world after : World}
    {problem : CredentialProblem}
    (asked : stage.command? = none ∨ ∃ compiler topology standalone, stage = .compile compiler topology standalone) :
    stage.perform runner network world ≠ (.error (.credentials problem), after) := by
  intro performed
  rcases asked with request | ⟨compiler, topology, standalone, rfl⟩
  · rcases stage with ⟨command, refusal⟩ | ⟨url, request⟩
    · cases request
    · have failed : Stage.received _ = _ := congrArg Prod.fst performed
      unfold Stage.received at failed
      split at failed <;> cases failed
  · unfold Stage.compile at performed
    have failed : Stage.judged compiler.program (some (.build topology.composite)) _ = _ :=
      congrArg Prod.fst performed
    unfold Stage.judged at failed
    split at failed
    · cases failed
    · dsimp only at failed
      split at failed <;> cases failed

theorem Staged.ending_ne {runner : CommandRunner} {network : Http.Network} {α : Type} {world after : World}
    {steps : List StageRun} {result : Except LaunchError α} {problem : CredentialProblem}
    (staged : Staged runner network world steps result after)
    (asked : ∀ step ∈ steps, step.subject.command? = none ∨
      ∃ compiler topology standalone, step.subject = .compile compiler topology standalone) :
    ∀ step ∈ steps, step.ending ≠ .error (.credentials problem) := by
  intro step member failed
  have performed := staged.chain.performed step member
  rw [failed] at performed
  exact Stage.perform_ne (asked step member) performed

theorem ServiceBinding.base_error {binding : ServiceBinding} {cause : LaunchError}
    (unknown : binding.base = .error cause) : cause = .credentials .noAddress := by
  unfold ServiceBinding.base at unknown
  split at unknown <;> cases unknown
  rfl

theorem Credentials.Authenticates.nil {verifyPeer : Bool} (credentials : Credentials) :
    credentials.Authenticates verifyPeer [] := by
  cases credentials with
  | user => exact .user (List.forall_mem_nil _)
  | apiKey => exact .unsent

namespace Service

variable {service : Service} {verifyPeer : Bool} {topology : Topology} {config : ConfigMap} {world : World}
  {steps : List StageRun} {credentials : Credentials}

theorem sends_eq_self (silent : ∀ step ∈ steps, step.subject.command? = none) : sends steps = steps := by
  refine List.filter_eq_self.2 fun step member => ?_
  have asked := silent step member
  rcases subject : step.subject with ⟨command, refusal⟩ | ⟨url, request⟩
  · rw [subject] at asked
    cases asked
  · rfl

theorem Authorizes.authenticates {result : Except LaunchError String}
    (authorizes : service.Authorizes verifyPeer config steps result)
    (given : service.credentials config = some credentials) :
    credentials.Authenticates verifyPeer steps ∧
      ∀ authorization step, result = .ok authorization → step.subject.authorizations = [authorization] →
        credentials.Authenticates verifyPeer (steps ++ [step]) := by
  cases authorizes with
  | anonymous none => exact nomatch none.symm.trans given
  | user known =>
    obtain rfl := Option.some.inj (known.symm.trans given)
    refine ⟨.user (List.forall_mem_nil _), fun authorization step ended asked => .user fun other member => ?_⟩
    rw [List.mem_singleton.1 member, asked, ← Except.ok.inj ended]
  | unaddressed known =>
    obtain rfl := Option.some.inj (known.symm.trans given)
    exact ⟨.unsent, fun _ _ ended => nomatch ended⟩
  | @exchanged _ _ url step ending known addressed asked answered =>
    obtain rfl := Option.some.inj (known.symm.trans given)
    refine ⟨.exchanged addressed asked (List.forall_mem_nil _), fun authorization later ended sent => ?_⟩
    rcases ending with _ | response
    · cases ended
    · refine .exchanged addressed asked fun other member => ⟨response, authorization, answered, ended, ?_⟩
      rw [List.mem_singleton.1 member, sent]

theorem Authorizes.usable {result : Except LaunchError String} {problem : CredentialProblem}
    (authorizes : service.Authorizes verifyPeer config steps result)
    (given : service.credentials config = some credentials)
    (sound : ∀ step ∈ steps, step.ending ≠ .error (.credentials problem)) : result ≠ .error (.credentials problem) := by
  cases authorizes with
  | anonymous none => exact nomatch none.symm.trans given
  | user | unaddressed => exact nofun
  | @exchanged _ _ _ step ending _ _ _ answered =>
    rcases ending with cause | response
    · rintro ⟨⟩
      exact absurd answered (sound step List.mem_cons_self)
    · show granted response ≠ _
      unfold granted
      split <;> exact nofun

theorem Authorizes.refusal_served {α : Type} {cause : LaunchError}
    (authorizes : service.Authorizes verifyPeer config steps (.error cause))
    (given : service.credentials config = some credentials)
    (sound : ∀ step ∈ steps, step.ending ≠ .error (.credentials .nothingUsable)) :
    credentials.Serves verifyPeer steps (.error cause : Except LaunchError α) := by
  refine ⟨(authorizes.authenticates given).1, ?_, fun _ ended => nomatch ended⟩
  rintro ⟨⟩
  exact authorizes.usable given sound rfl

theorem Authorizes.request_served {α : Type} {authorization : String} {step : StageRun}
    {result : Except LaunchError α} (authorizes : service.Authorizes verifyPeer config steps (.ok authorization))
    (given : service.credentials config = some credentials)
    (asked : step.subject.authorizations = [authorization])
    (failed : result = .error (.credentials .nothingUsable) →
      step.ending = .error (.credentials .nothingUsable))
    (sound : ∀ other ∈ steps ++ [step], other.ending ≠ .error (.credentials .nothingUsable)) :
    credentials.Serves verifyPeer (steps ++ [step]) result where
  authenticates := (authorizes.authenticates given).2 _ _ rfl asked
  usable ended := sound step (List.mem_append_right _ List.mem_cons_self) (failed ended)
  sent _ _ := List.append_ne_nil_of_right_ne_nil _ (List.cons_ne_nil _ _)

theorem Sends.serves {base : String} {tree : FileTree} {result : Except LaunchError Handle}
    (sending : service.Sends topology config base tree steps result)
    (given : service.credentials config = some credentials)
    (sound : ∀ step ∈ steps, step.ending ≠ .error (.credentials .nothingUsable)) :
    credentials.Serves (service.checksPeer config) steps result := by
  cases sending with
  | unopened => exact ⟨.nil credentials, nofun, fun _ ended => nomatch ended⟩
  | unaddressed _ authorizes | directory _ authorizes =>
    exact ⟨(authorizes.authenticates given).1, nofun, fun _ ended => nomatch ended⟩
  | unauthorized _ authorizes => exact authorizes.refusal_served given sound
  | @sent _ _ _ _ _ step ending _ authorizes _ asked answered =>
    refine authorizes.request_served given (by rw [asked]; rfl) (fun failed => ?_) sound
    -- An answer that cannot be read is not a want of credentials.
    rcases ending with cause | response
    · cases failed
      exact answered
    · have unread : accepted topology.name response = .error (.credentials .nothingUsable) := failed
      unfold accepted at unread
      split at unread <;> cases unread

theorem Submits.asked {result : Except LaunchError Handle} (submits : service.Submits topology config steps result) :
    ∀ step ∈ steps, step.subject.command? = none ∨
      ∃ compiler topology standalone, step.subject = .compile compiler topology standalone := by
  cases submits with
  | noAddress => exact List.forall_mem_nil _
  | notCompiled _ compile => exact List.forall_mem_singleton.2 (.inr ⟨_, _, _, compile⟩)
  | compiled _ compile _ sending =>
    exact List.forall_mem_cons.2 ⟨.inr ⟨_, _, _, compile⟩, fun step member => .inl (sending.requests.1 step member)⟩

theorem Submits.serves {result : Except LaunchError Handle}
    (submits : service.Submits topology config steps result)
    (given : service.credentials config = some credentials)
    (sound : ∀ step ∈ steps, step.ending ≠ .error (.credentials .nothingUsable)) :
    credentials.Serves (service.checksPeer config) (sends steps) result := by
  have skipped (step : StageRun) (rest : List StageRun)
      (compile : step.subject = .compile service.compiler topology false) : sends (step :: rest) = sends rest :=
    List.filter_cons_of_neg (by rw [compile]; exact Bool.false_ne_true)
  cases submits with
  | noAddress unknown =>
    obtain rfl := ServiceBinding.base_error unknown
    exact ⟨.nil credentials, nofun, fun _ ended => nomatch ended⟩
  | @notCompiled _ step _ _ compile failed =>
    rw [skipped step [] compile]
    refine ⟨.nil credentials, ?_, fun _ ended => nomatch ended⟩
    rintro ⟨⟩
    exact sound step List.mem_cons_self failed
  | @compiled _ step rest _ _ compile _ sending =>
    rw [skipped step rest compile, sends_eq_self sending.requests.1]
    exact sending.serves given fun other member => sound other (List.mem_cons_of_mem _ member)

def SubmitsWith (service : Service) (credentials : Credentials) (topology : Topology) (config : ConfigMap)
    (world : World) : Prop :=
  Ruled service.runner service.network
    (fun steps result => service.Submits topology config steps result ∧
      credentials.Serves (service.checksPeer config) (sends steps) result)
    (service.submit topology config) world

theorem submitsWith (given : service.credentials config = some credentials) :
    service.SubmitsWith credentials topology config world := by
  obtain ⟨steps, staged, submits⟩ := service.submit_ruled world topology config
  exact ⟨steps, staged, submits, submits.serves given (staged.ending_ne submits.asked)⟩

theorem credentials_iff : service.credentials config = some credentials ↔
    Determines config.Says credentials ∨
      (∀ other, ¬ Determines config.Says other) ∧ Determines service.binding.Says credentials := by
  unfold Service.credentials
  simp only [← ConfigMap.ofConfig_iff, ← ServiceBinding.credentials_iff]
  rcases Credentials.ofConfig config with _ | own
  · simp
  · simp

theorem credentials_eq_none_iff : service.credentials config = none ↔
    (∀ other, ¬ Determines config.Says other) ∧ ∀ other, ¬ Determines service.binding.Says other := by
  simp only [Option.eq_none_iff_forall_ne_some, ne_eq, credentials_iff]
  constructor
  · intro nothing
    have own : ∀ other, ¬ Determines config.Says other := fun other told => nothing other (.inl told)
    exact ⟨own, fun other told => nothing other (.inr ⟨own, told⟩)⟩
  · rintro ⟨own, bound⟩ other (told | ⟨-, told⟩)
    · exact own other told
    · exact bound other told

theorem submit_rebound {binding : ServiceBinding} (addressed : binding.base = service.binding.base)
    (same : { service with binding := binding }.credentials config = service.credentials config) :
    { service with binding := binding }.submit topology config = service.submit topology config := by
  have authorized (verifyPeer : Bool) : { service with binding := binding }.authorization verifyPeer config =
      service.authorization verifyPeer config := by
    unfold authorization
    rw [same]
    rfl
  unfold submit
  simp only [addressed, authorized]

theorem submit_reconfigured {other : ConfigMap} (same : service.credentials other = service.credentials config)
    (trace : other.text? JobOption.tracing = config.text? JobOption.tracing)
    (peer : other.bool? JobOption.verifyPeer = config.bool? JobOption.verifyPeer) :
    service.submit topology other = service.submit topology config := by
  have authorized (verifyPeer : Bool) :
      service.authorization verifyPeer other = service.authorization verifyPeer config := by
    unfold authorization
    rw [same]
  unfold submit
  simp only [jobOptions, trace, peer, authorized]

theorem Authorizes.of_anonymous {result : Except LaunchError String}
    (authorizes : service.Authorizes verifyPeer config steps result) (anonymous : service.credentials config = none) :
    steps = [] ∧ result = .error (.credentials .nothingUsable) := by
  cases authorizes with
  | anonymous => exact ⟨rfl, rfl⟩
  | user given | unaddressed given | exchanged given => exact nomatch given.symm.trans anonymous

/-- What a submission without credentials fails with: without an address for want of one, otherwise with what compiling
the job or opening its bundle fails with, and for want of credentials where neither does. -/
structure FailsUnserved (service : Service) (topology : Topology) (world : World) (cause : LaunchError) : Prop where
  unaddressed : ∀ problem, service.binding.base = .error problem → cause = .credentials .noAddress
  uncompiled : ∀ base problem after, service.binding.base = .ok base →
    (Stage.compile service.compiler topology false).perform service.runner service.network world =
      (.error problem, after) → cause = problem
  unopened : ∀ base answer after problem, service.binding.base = .ok base →
    (Stage.compile service.compiler topology false).perform service.runner service.network world =
      (.ok answer, after) →
    openArchive after.tree (service.compiler.bundle topology).archive = .error problem → cause = .io problem
  unauthorized : ∀ base answer after opened, service.binding.base = .ok base →
    (Stage.compile service.compiler topology false).perform service.runner service.network world =
      (.ok answer, after) →
    openArchive after.tree (service.compiler.bundle topology).archive = .ok opened →
    cause = .credentials .nothingUsable

namespace FailsUnserved

variable {base : String} {answer : Answer} {after : World} {problem : LaunchError}

theorem of_unaddressed (unknown : service.binding.base = .error problem) :
    service.FailsUnserved topology world (.credentials .noAddress) where
  unaddressed := fun _ _ => rfl
  uncompiled := fun _ _ _ known _ => by cases unknown.symm.trans known
  unopened := fun _ _ _ _ known _ _ => by cases unknown.symm.trans known
  unauthorized := fun _ _ _ _ known _ _ => by cases unknown.symm.trans known

theorem of_uncompiled (addressed : service.binding.base = .ok base)
    (failed : (Stage.compile service.compiler topology false).perform service.runner service.network world =
      (.error problem, after)) :
    service.FailsUnserved topology world problem where
  unaddressed := fun _ unknown => by cases addressed.symm.trans unknown
  uncompiled := fun _ _ _ _ told => Except.error.inj (congrArg Prod.fst (failed.symm.trans told))
  unopened := fun _ _ _ _ _ told _ => by cases failed.symm.trans told
  unauthorized := fun _ _ _ _ _ told _ => by cases failed.symm.trans told

theorem of_unopened {reason : OsError} (addressed : service.binding.base = .ok base)
    (compiled : (Stage.compile service.compiler topology false).perform service.runner service.network world =
      (.ok answer, after))
    (closed : openArchive after.tree (service.compiler.bundle topology).archive = .error reason) :
    service.FailsUnserved topology world (.io reason) where
  unaddressed := fun _ unknown => by cases addressed.symm.trans unknown
  uncompiled := fun _ _ _ _ told => by cases compiled.symm.trans told
  unopened := fun _ _ _ _ _ told stuck => by
    cases compiled.symm.trans told
    cases closed.symm.trans stuck
    rfl
  unauthorized := fun _ _ _ _ _ told found => by
    cases compiled.symm.trans told
    cases closed.symm.trans found

theorem of_opened {opened : String × Option Octets} (addressed : service.binding.base = .ok base)
    (compiled : (Stage.compile service.compiler topology false).perform service.runner service.network world =
      (.ok answer, after))
    (found : openArchive after.tree (service.compiler.bundle topology).archive = .ok opened) :
    service.FailsUnserved topology world (.credentials .nothingUsable) where
  unaddressed := fun _ unknown => by cases addressed.symm.trans unknown
  uncompiled := fun _ _ _ _ told => by cases compiled.symm.trans told
  unopened := fun _ _ _ _ _ told stuck => by
    cases compiled.symm.trans told
    cases found.symm.trans stuck
  unauthorized := fun _ _ _ _ _ _ _ => rfl

end FailsUnserved

theorem submit_anonymous (topology : Topology) (world : World) (anonymous : service.credentials config = none) :
    (service.submit topology config world).2.requests = world.requests ∧
    ∃ cause, (service.submit topology config world).1 = .error cause ∧
      service.FailsUnserved topology world cause := by
  obtain ⟨steps, staged, submits⟩ := service.submit_ruled world topology config
  have unsent (silent : steps.filterMap (·.subject.request?) = []) :
      (service.submit topology config world).2.requests = world.requests := by
    obtain ⟨sent, told, among⟩ := staged.requests
    rw [silent] at among
    rw [told, List.sublist_nil.1 among, List.append_nil]
  generalize (service.submit topology config world).1 = result at staged submits ⊢
  -- Only a job that compiled and whose bundle opened comes to its credentials.
  cases submits with
  | @noAddress cause unknown =>
    obtain rfl := ServiceBinding.base_error unknown
    exact ⟨unsent rfl, _, rfl, .of_unaddressed unknown⟩
  | @notCompiled base step cause addressed compile failed =>
    obtain ⟨-, performed, -⟩ := staged.chain.uncons
    rw [compile, failed] at performed
    exact ⟨unsent (by simp [compile, Stage.compile, Stage.request?]), cause, rfl, .of_uncompiled addressed performed⟩
  | @compiled base step rest _ addressed compile succeeded sends =>
    obtain ⟨-, performed, -⟩ := staged.chain.uncons
    obtain ⟨answer, passed⟩ := succeeded
    rw [compile, passed] at performed
    have onlyCompiled : [step].filterMap (·.subject.request?) = [] := by
      simp [compile, Stage.compile, Stage.request?]
    cases sends with
    | @unopened reason closed =>
      exact ⟨unsent onlyCompiled, .io reason, rfl, .of_unopened addressed performed closed⟩
    | unauthorized found authorizes =>
      obtain ⟨rfl, failed⟩ := authorizes.of_anonymous anonymous
      obtain rfl := Except.error.inj failed
      exact ⟨unsent onlyCompiled, _, rfl, .of_opened addressed performed found⟩
    | unaddressed _ authorizes | directory _ authorizes | sent _ authorizes =>
      cases (authorizes.of_anonymous anonymous).2

/-- Credentials have one source. What the configuration determines is used, whatever the binding says; else what the
binding determines is, whatever the configuration says; else nothing is sent. -/
theorem submissions_use_one_source (service : Service) (topology : Topology) (config : ConfigMap) :
    (∀ credentials, Determines config.Says credentials →
      (∀ world, service.SubmitsWith credentials topology config world) ∧
      ∀ binding : ServiceBinding, binding.address2 = service.binding.address2 →
        binding.address = service.binding.address →
        { service with binding := binding }.submit topology config = service.submit topology config) ∧
    ((∀ own, ¬ Determines config.Says own) →
      (∀ credentials, Determines service.binding.Says credentials →
        (∀ key endpoint, credentials = .apiKey key endpoint → endpoint = Credentials.defaultEndpoint) ∧
        (∀ world, service.SubmitsWith credentials topology config world) ∧
        ∀ other : ConfigMap, (∀ own, ¬ Determines other.Says own) →
          other.get? JobOption.tracing = config.get? JobOption.tracing →
          other.get? JobOption.verifyPeer = config.get? JobOption.verifyPeer →
          service.submit topology other = service.submit topology config) ∧
      ((∀ bound, ¬ Determines service.binding.Says bound) → ∀ world,
        (service.submit topology config world).2.requests = world.requests ∧
        ∃ cause, (service.submit topology config world).1 = .error cause ∧
          service.FailsUnserved topology world cause)) ∧
    ∀ source ∈ [config.Says, service.binding.Says], ∀ key, source .apiKey key → key ≠ "" →
      ∃ endpoint, ∀ credentials, Determines source credentials ↔ credentials = .apiKey key endpoint := by
  refine ⟨fun credentials own => ⟨fun world => submitsWith (credentials_iff.2 (.inl own)), ?_⟩,
    fun nothing => ⟨fun credentials bound => ⟨?_, ?_, ?_⟩, fun unbound world =>
      submit_anonymous topology world (credentials_eq_none_iff.2 ⟨nothing, unbound⟩)⟩, ?_⟩
  · intro binding second first
    refine submit_rebound ?_ ((credentials_iff.2 (.inl own)).trans (credentials_iff.2 (.inl own)).symm)
    unfold ServiceBinding.base
    rw [second, first]
  · -- A binding says no endpoint, so a key of it goes to the default one.
    rintro key endpoint rfl
    cases bound with
    | key _ _ told => exact told.elim
    | keyAtDefault => rfl
  · exact fun world => submitsWith (credentials_iff.2 (.inr ⟨nothing, bound⟩))
  · intro other untold trace peer
    have same := (credentials_iff.2 (.inr ⟨untold, bound⟩)).trans (credentials_iff.2 (.inr ⟨nothing, bound⟩)).symm
    exact submit_reconfigured same (congrArg (Option.bind · _) trace) (congrArg (Option.bind · _) peer)
  · intro source member key said nonempty
    obtain ⟨name, password, stated, endpoint, fields⟩ : ∃ name password stated endpoint,
        FieldsOf source name password stated endpoint := by
      rcases List.mem_cons.1 member with rfl | last
      · exact ⟨_, _, _, _, config.fieldsOf⟩
      · rw [List.mem_singleton.1 last]
        exact ⟨_, _, _, _, service.binding.fieldsOf⟩
    obtain rfl := (fields.apiKey key).1 said
    refine ⟨endpoint.getD Credentials.defaultEndpoint, fun credentials => ?_⟩
    rw [← fields.ofFields_iff, ofFields_of_key nonempty, Option.some.injEq, eq_comm]

def boundService : Service where
  runner := fun _ tree _ => { outcome := .ok ⟨"", "no toolkit", 1⟩, tree := tree, cancels := false }
  network := Http.unreachable
  compiler := .ofProgram "sc" (.ofText "output")
  binding := ⟨none, some "http://h", none, some "bound", some "secret"⟩
  verifyPeer := true

def nameOnly : ConfigMap :=
  Dictionary.empty.insert "username" (.string "own")

theorem submissions_use_one_source_boundService :
    boundService.SubmitsWith (.user "bound" "secret") wordyJob nameOnly emptyWorld :=
  have nothing := ConfigMap.ofConfig_eq_none_iff.1 (show Credentials.ofConfig nameOnly = none by rfl)
  have bound := ServiceBinding.credentials_iff.1
    (show boundService.binding.credentials = some (.user "bound" "secret") by rfl)
  (((submissions_use_one_source boundService wordyJob nameOnly).2.1 nothing).1 _ bound).2.1 emptyWorld

/-- A job that does not compile fails for that, also where there would be no credentials to submit it with. -/
theorem submit_compiles_before_credentials :
    let anonymous := { boundService with binding := ⟨none, some "http://h", none, none, none⟩ }
    (∀ own, ¬ Determines nameOnly.Says own) ∧ (∀ bound, ¬ Determines anonymous.binding.Says bound) ∧
    ∀ problem, (anonymous.submit wordyJob nameOnly emptyWorld).1 ≠ .error (.credentials problem) := by
  intro anonymous
  have nothing := credentials_eq_none_iff.1 (show anonymous.credentials nameOnly = none by rfl)
  have refused : (anonymous.submit wordyJob nameOnly emptyWorld).1 = .error (.build "a::B" "no toolkit") := by rfl
  refine ⟨nothing.1, nothing.2, fun problem failed => ?_⟩
  cases refused.symm.trans failed

end Service

end ScenarioBench

import ScenarioBench.Proofs.CredentialSources

/-! Credentials of cancellations.

A handle says nothing of credentials, and a cancellation knows those of the binding alone. Main statement: a job is
cancelled with the credentials that it was submitted with where they came from the binding; a job that the
configuration's own credentials submitted is not.
-/

set_option autoImplicit false

namespace ScenarioBench

namespace Service

variable {service : Service} {topology : Topology} {config : ConfigMap} {world : World} {steps : List StageRun}
  {credentials : Credentials}

theorem Cancels.serves {id : String} {result : Except LaunchError Unit}
    (cancels : service.Cancels id steps result) (given : service.credentials .empty = some credentials)
    (sound : ∀ step ∈ steps, step.ending ≠ .error (.credentials .nothingUsable)) :
    credentials.Serves service.verifyPeer (sends steps) result := by
  rw [sends_eq_self fun step member => List.filterMap_eq_nil_iff.1 cancels.silent step member]
  cases cancels with
  | noAddress unknown =>
    obtain rfl := ServiceBinding.base_error unknown
    exact ⟨.nil credentials, nofun, fun _ ended => nomatch ended⟩
  | unaddressed _ authorizes =>
    exact ⟨(authorizes.authenticates given).1, nofun, fun _ ended => nomatch ended⟩
  | unauthorized _ authorizes => exact authorizes.refusal_served given sound
  | @sent _ _ _ _ step ending _ authorizes _ asked answered =>
    refine authorizes.request_served given (by rw [asked]; rfl) (fun failed => ?_) sound
    rcases ending with cause | response <;> cases failed
    exact answered

/-- A cancellation goes by its rules and is served by given credentials. -/
def CancelsWith (service : Service) (credentials : Credentials) (handle : Handle) (world : World) : Prop :=
  Ruled service.runner service.network
    (fun steps result => (∃ id, handle.jobId = some id ∧ service.Cancels id steps result) ∧
      credentials.Serves service.verifyPeer (sends steps) result)
    (service.cancel handle) world

theorem cancelsWith {handle : Handle} {id : String} (known : handle.jobId = some id)
    (given : service.credentials .empty = some credentials) : service.CancelsWith credentials handle world := by
  obtain ⟨steps, staged, cancels⟩ := service.cancel_ruled world handle known
  exact ⟨steps, staged, ⟨id, known, cancels⟩, cancels.serves given (staged.ending_ne fun step member =>
    .inl (List.filterMap_eq_nil_iff.1 cancels.silent step member))⟩

theorem Submits.handed {handle : Handle} (submits : service.Submits topology config steps (.ok handle)) :
    (∃ base, service.binding.base = .ok base) ∧ ∃ id, handle.jobId = some id := by
  generalize gave : (.ok handle : Except LaunchError Handle) = result at submits
  cases submits with
  | noAddress | notCompiled => cases gave
  | compiled addressed _ _ sending =>
    refine ⟨⟨_, addressed⟩, ?_⟩
    cases sending with
    | unopened | unauthorized | unaddressed | directory => cases gave
    | @sent _ _ _ _ _ _ ending =>
      rcases ending with _ | response
      · cases gave
      · have accepts : .ok handle = accepted topology.name response := gave
        unfold accepted at accepts
        split at accepts <;> cases accepts
        exact ⟨_, rfl⟩

theorem submit_accepted {between : World} {bundle : Bundle} {base name password fileName id : String}
    {content : Octets} {url : Http.Url} {response : Http.Response}
    (addressed : service.binding.base = .ok base)
    (compiled : service.compiler.build service.runner topology false world = (.ok bundle, between))
    (opened : openArchive between.tree bundle.archive = .ok (fileName, some content))
    (given : service.credentials config = some (.user name password))
    (located : Http.address (base ++ "/jobs") = .ok url)
    (answered : ∀ request : Http.Request, request.authorizations = [Http.basic name password] →
      (Http.exchange service.network url request between).1 = .ok response)
    (identified : jobIdOf response.content = .ok id) : (service.submit topology config world).1 =
      .ok { context := .service, name := topology.name, jobId := some id, output := none } := by
  have settles {α : Type} {value : α} {result : Except LaunchError α} (gave : result = .ok value) (world : World) :
      Action.settled result world = (.ok value, world) := by
    rw [gave]
    rfl
  have authorized (verifyPeer : Bool) :
      service.authorization verifyPeer config between = (.ok (Http.basic name password), between) := by
    unfold authorization
    rw [given]
    rfl
  have sent (request : Http.Request) (asked : request.authorizations = [Http.basic name password]) :
      (Http.exchange service.network url request).mapError LaunchError.http between =
        (.ok response, (Http.exchange service.network url request between).2) := by
    have told := answered request asked
    unfold Action.mapError
    revert told
    rcases Http.exchange service.network url request between with ⟨outcome, last⟩
    rintro rfl
    rfl
  unfold submit
  -- One stage after the other: address, bundle, authorization, request and answer.
  refine (congrArg Prod.fst (Action.bind_of_ok (settles addressed world) _)).trans ?_
  refine (congrArg Prod.fst (Action.bind_of_ok compiled _)).trans ?_
  refine (congrArg Prod.fst (Action.bind_of_ok (show Action.look between = (.ok between, between) from rfl) _)).trans ?_
  refine (congrArg Prod.fst (Action.bind_of_ok
    (settles (congrArg (Except.mapError LaunchError.io) opened) between) _)).trans ?_
  refine (congrArg Prod.fst (Action.bind_of_ok (authorized _) _)).trans ?_
  refine (congrArg Prod.fst (Action.bind_of_ok
    (settles (congrArg (Except.mapError LaunchError.http) located) between) _)).trans ?_
  refine (congrArg Prod.fst (Action.bind_of_ok (sent _ rfl) _)).trans ?_
  exact congrArg Prod.fst (Action.bind_of_ok
    (settles (congrArg (Except.mapError LaunchError.http) identified) _) _)

theorem cancel_anonymous {handle : Handle} {base id : String} (known : handle.jobId = some id)
    (addressed : service.binding.base = .ok base) (anonymous : service.credentials .empty = none) :
    service.cancel handle world = (.error (.credentials .nothingUsable), world) := by
  have refused : service.authorization service.verifyPeer .empty world =
      (.error (.credentials .nothingUsable), world) := by
    unfold authorization
    rw [anonymous]
    rfl
  have located : Action.settled service.binding.base world = (.ok base, world) := by
    rw [addressed]
    rfl
  unfold cancel
  rw [known]
  exact (Action.bind_of_ok located _).trans (Action.bind_of_error refused _)

end Service

theorem Http.Host.normal?_h : normal? ['h'] = some "h" := by
  -- `splitOn` goes by a measure and does not evaluate, so its two steps are unfolded.
  have pieces : (String.ofList ['h']).splitOn "." = ["h"] := by
    rw [String.splitOn, if_neg (by decide), String.splitOnAux, if_neg (by decide), if_neg (by decide),
      String.splitOnAux, if_pos (by decide)]
    decide +kernel
  have labels : Name.labels? ['h'] = some [['h']] := by
    unfold Name.labels?
    rw [pieces]
    decide +kernel
  have settled : Name.settled? "h".toList = some ['h'] := by
    unfold Name.settled?
    rw [show "h".toList.mapM Name.replaced? = some [['h']] by decide +kernel]
    show (Name.labels? ['h'] >>= _) = _
    rw [labels]
    decide +kernel
  have notNumber : endsInNumber ['h'] = false := by
    unfold endsInNumber parts
    rw [pieces]
    decide +kernel
  have decoded : (decode ['h']).toText? = some "h" := by decide +kernel
  show ((decode ['h']).toText? >>= fun text => Name.settled? text.toList >>= _) = _
  rw [decoded, Option.bind_eq_bind, Option.bind_some, settled]
  exact congrArg (fun number => if number = true then _ else some "h") notNumber

def jobsAddress : Http.Url :=
  { scheme := .plain, user := none, host := "h", port := none, path := "/jobs", query := none, fragment := none }

theorem address_jobs : Http.address "http://h/jobs" = .ok jobsAddress := by
  have scheme : Http.Url.splitScheme? (Http.Url.cleaned "http://h/jobs") = some ("http", "//h/jobs".toList) := by
    decide +kernel
  have rest : Http.Url.readRest? .plain "//h/jobs".toList = some jobsAddress := by
    show (Http.Host.normal? ['h'] >>= _) = _
    rw [Http.Host.normal?_h]
    decide +kernel
  have read : Http.Url.read? "http://h/jobs" = some jobsAddress := by
    unfold Http.Url.read?
    rw [scheme]
    exact rest
  unfold Http.address
  rw [read]

def bundleCompiler : Compiler :=
  .ofProgram "sc" (.ofText "output")

def acceptingService (answer : Octets) (binding : ServiceBinding) : Service where
  runner := fun _ tree _ => { outcome := .ok ⟨"", "", 0⟩, tree := tree, cancels := false }
  network := fun _ _ _ => (true, some ⟨200, answer⟩)
  compiler := bundleCompiler
  binding := binding
  verifyPeer := true

def bundleNames : List Octets :=
  ["output", "job", "a.B.sab"].map Octets.ofText

def bundledWorld : World :=
  .fresh
    { entries := [((bundleNames.take 1).reverse, .directory), ((bundleNames.take 2).reverse, .directory),
        (bundleNames.reverse, .file [] false)]
      base := []
      distinct := by decide
      named := by decide
      baseNamed := FileTree.named_nil }

def acceptedHandle : Handle :=
  { context := .service, name := "job", jobId := some "7", output := none }

theorem openArchive_bundledWorld : ∃ fileName,
    Service.openArchive bundledWorld.tree (bundleCompiler.bundle wordyJob).archive = .ok (fileName, some []) := by
  have accepted : FileTree.checkPath (bundleCompiler.bundle wordyJob).archive = .ok () := by
    unfold FileTree.checkPath
    rw [if_neg (by decide +kernel), if_neg (by decide +kernel), if_neg (by decide +kernel)]
  have start : bundledWorld.tree.start (bundleCompiler.bundle wordyJob).archive = [] := by decide +kernel
  have steps : FileTree.steps (bundleCompiler.bundle wordyJob).archive = Path.dot :: bundleNames := by
    decide +kernel
  have led : bundledWorld.tree.walk true FileTree.maximumLinks [] (Path.dot :: bundleNames) =
      .ok (.taken bundleNames.reverse (.file [] false)) := by
    -- The dot stays, two directories are entered, and the file is the end of the way.
    rw [FileTree.walk, if_pos rfl, bundleNames, List.map_cons, List.map_cons,
      FileTree.walk_cons_directory (by decide) (by decide) (by decide) (by decide),
      FileTree.walk_cons_directory (by decide) (by decide) (by decide) (by decide),
      List.map_cons, FileTree.walk, if_neg (by decide), if_neg (by decide), if_neg (by decide)]
    rfl
  have followed : bundledWorld.tree.follow (bundleCompiler.bundle wordyJob).archive =
      .ok (.taken bundleNames.reverse (.file [] false)) := by
    rw [FileTree.follow_eq_ok_iff, start, steps]
    exact ⟨accepted, led⟩
  have read : bundledWorld.tree.read (bundleCompiler.bundle wordyJob).archive = .ok [] :=
    FileTree.read_eq_ok_iff.2 ⟨_, _, FileTree.nodeAt_eq_ok_iff_follow.2 followed⟩
  unfold Service.openArchive
  rw [read]
  exact ⟨_, rfl⟩

def idAnswer : String := "\x7b\"id\":\"7\"\x7d"

theorem jobIdOf_idAnswer : Service.jobIdOf (Octets.ofText idAnswer) = .ok "7" :=
  ok_of_toOption (by decide +kernel)

theorem acceptingService_submits {answer : Octets} {binding : ServiceBinding} {config : ConfigMap}
    (identified : Service.jobIdOf answer = .ok "7") (addressed : binding.base = .ok "http://h")
    (given : (acceptingService answer binding).credentials config = some (.user "u" "p")) :
    ((acceptingService answer binding).submit wordyJob config bundledWorld).1 = .ok acceptedHandle := by
  have answered (world : World) (request : Http.Request) (asked : request.authorizations = [Http.basic "u" "p"]) :
      (Http.exchange (acceptingService answer binding).network jobsAddress request world).1 = .ok ⟨200, answer⟩ := by
    have sendable : request.authorizations.all Http.isSendable = true := by
      rw [asked]
      decide +kernel
    unfold Http.exchange
    rw [if_pos sendable]
    rfl
  obtain ⟨fileName, opened⟩ := openArchive_bundledWorld
  exact Service.submit_accepted addressed rfl opened given address_jobs (answered _) identified

namespace Service

/-- Jobs are cancelled with the credentials of the binding, so with those that they were submitted with unless the
configuration determined them. -/
theorem cancellations_use_binding {service : Service} {topology : Topology} {config : ConfigMap}
    {world after : World} {handle : Handle} (submitted : service.submit topology config world = (.ok handle, after)) :
    ∃ given, service.SubmitsWith given topology config world ∧
      (Determines config.Says given ∨
        (∀ own, ¬ Determines config.Says own) ∧ Determines service.binding.Says given) ∧
      ((∀ own, ¬ Determines config.Says own) → ∀ later, service.CancelsWith given handle later) ∧
      (∀ bound, Determines service.binding.Says bound → ∀ later, service.CancelsWith bound handle later) ∧
      ((∀ bound, ¬ Determines service.binding.Says bound) →
        ∀ later, service.cancel handle later = (.error (.credentials .nothingUsable), later)) := by
  obtain ⟨steps, staged, submits⟩ := service.submit_ruled world topology config
  rw [submitted] at staged submits
  obtain ⟨⟨base, addressed⟩, id, known⟩ := submits.handed
  have bare : ∀ own, ¬ Determines (ConfigMap.Says Dictionary.empty) own :=
    fun own told => nomatch ConfigMap.ofConfig_iff.2 told
  have cancels {bound : Credentials} (determined : Determines service.binding.Says bound) (later : World) :
      service.CancelsWith bound handle later :=
    cancelsWith known (credentials_iff.2 (.inr ⟨bare, determined⟩))
  rcases given : service.credentials config with _ | given
  · -- A submission without credentials gives no handle.
    obtain ⟨-, cause, failed, -⟩ := submit_anonymous topology world given
    rw [submitted] at failed
    cases failed
  · refine ⟨_, submitsWith given, credentials_iff.1 given, fun nothing => ?_, fun bound => cancels,
      fun unbound later => cancel_anonymous known addressed (credentials_eq_none_iff.2 ⟨bare, unbound⟩)⟩
    rcases credentials_iff.1 given with own | ⟨-, bound⟩
    · exact absurd own (nothing _)
    · exact cancels bound

theorem cancellations_use_binding_acceptingService :
    let service := acceptingService (Octets.ofText idAnswer) ⟨none, some "http://h", none, some "u", some "p"⟩
    (∃ after, service.submit wordyJob .empty bundledWorld = (.ok acceptedHandle, after)) ∧
    ∀ later, service.CancelsWith (.user "u" "p") acceptedHandle later := by
  intro service
  have submitted : service.submit wordyJob .empty bundledWorld =
      (.ok acceptedHandle, (service.submit wordyJob .empty bundledWorld).2) :=
    Prod.ext (acceptingService_submits jobIdOf_idAnswer rfl rfl) rfl
  obtain ⟨given, -, -, -, cancels, -⟩ := cancellations_use_binding submitted
  exact ⟨⟨_, submitted⟩, cancels _ (ServiceBinding.credentials_iff.1 rfl)⟩

/-- A job that was submitted with the user of the configuration is not cancelled with that user, nor at all. -/
theorem cancel_forgets_configuration :
    let service := acceptingService (Octets.ofText idAnswer) ⟨none, some "http://h", none, none, none⟩
    let config : ConfigMap := (Dictionary.empty.insert "username" (.string "u")).insert "password" (.string "p")
    (service.submit wordyJob config bundledWorld).1 = .ok acceptedHandle ∧
    service.SubmitsWith (.user "u" "p") wordyJob config bundledWorld ∧
    ∀ later, ¬ service.CancelsWith (.user "u" "p") acceptedHandle later ∧
      service.cancel acceptedHandle later = (.error (.credentials .nothingUsable), later) := by
  intro service config
  have given : service.credentials config = some (.user "u" "p") := by rfl
  refine ⟨acceptingService_submits jobIdOf_idAnswer rfl given, submitsWith given, fun later => ?_⟩
  have refused : service.cancel acceptedHandle later = (.error (.credentials .nothingUsable), later) :=
    cancel_anonymous (show acceptedHandle.jobId = some "7" from rfl)
      (show service.binding.base = .ok "http://h" by rfl) rfl
  refine ⟨?_, refused⟩
  rintro ⟨steps, -, -, serves⟩
  exact serves.usable (congrArg Prod.fst refused)

end Service

end ScenarioBench

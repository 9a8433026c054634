import ScenarioBench.Proofs.DryRunFidelity

/-! Verifying what jobs print.

Two commands look into the output of jobs: one runs checks, the other launches a composite that is expected to print
a marker. Main statement: where no output is captured they are refused before anything is done. On this machine
every check is run and reported, whatever those before it came to, and a command exits with 0 exactly when all that
it looked for was found.
-/

set_option autoImplicit false

namespace ScenarioBench.CommandLine

/-- Commands that look for output where none is captured. -/
inductive Unverifiable (settings : LauncherSettings) : Request → Prop where
  | checks {request : VerifyRequest} {target : LaunchTarget} : target.dryRun = false →
      target.context.getD .standalone ≠ .standalone → Unverifiable settings (.verify request target)
  | composite {request : CompositeRequest} {target : LaunchTarget} {marker : String} :
      request.expect = some marker →
      target.dryRun = true ∨ target.context.getD settings.context ≠ .standalone →
      Unverifiable settings (.launchComposite request target)

def served (surroundings : Surroundings) (config : Config) (request : Request) (world : World) : Outcome :=
  let (result, session) := carryOut surroundings config request ⟨world, ""⟩
  .ofResult result session

def Outcome.refused (world : World) (cause : CommandError) : Outcome :=
  { code := 1, stdout := "", stderr := cause.message ++ "\n", world := world }

def machine (surroundings : Surroundings) (settings : LauncherSettings) : Standalone where
  runner := surroundings.runner
  compiler := .ofProgram settings.compiler settings.output

abbrev CheckRun := Execution World LaunchError Unit CompositeCheck

/-- The submitters of checks that run on this machine; the instance is needed for what has to run before one. -/
structure Prepared (surroundings : Surroundings) (settings : LauncherSettings) (checks : List CompositeCheck)
    (session : Session) (tests jobs : Submitter World) : Prop where
  here : tests = (machine surroundings settings).submitter
  needed : (∃ check ∈ checks, check.prelaunch?.isSome) →
    submitterTo surroundings settings .distributed false session = (.ok jobs, session)
  needless : (∀ check ∈ checks, check.prelaunch? = none) → jobs = tests

/-- Every check was run once, in order, and reported; all of them passed exactly when the exit code is 0. -/
structure Verified (setup : CheckSetup) (tests jobs : Submitter World) (checks : List CompositeCheck) (world : World)
    (runs : List CheckRun) (outcome : Outcome) : Prop where
  chain : Chain (fun check => CompositeCheck.run check setup tests jobs) world runs outcome.world
  eachOnce : runs.map (·.subject) = checks
  reported : outcome.stdout = printedLines (runs.map fun run => verdictLine run.subject run.ending)
  silent : outcome.stderr = ""
  passed : outcome.code = 0 ↔ ∀ run ∈ runs, run.Succeeded

theorem checksOf_ne_nil (request : VerifyRequest) : checksOf request ≠ [] := by
  unfold checksOf
  split
  · exact List.cons_ne_nil _ _
  · next named => exact fun none => named (List.isEmpty_iff.2 none)

def Gives {α : Type} (holds : α → Prop) (action : Serving α) : Prop :=
  ∀ session value after, action session = (.ok value, after) → holds value

theorem Gives.pure {α : Type} {holds : α → Prop} {value : α} (given : holds value) :
    Gives holds (Pure.pure value) := by
  rintro session other after ⟨⟩
  exact given

theorem Gives.bind {α β : Type} {holds : β → Prop} {action : Serving α} {next : α → Serving β}
    (each : ∀ value, Gives holds (next value)) : Gives holds (action >>= next) := by
  intro session value after gave
  rw [Action.bind_apply] at gave
  split at gave
  · exact each _ _ _ _ gave
  · cases gave

section
variable {surroundings : Surroundings} {settings : LauncherSettings} {config : Config} {session : Session}
  {world : World} {submitter tests jobs : Submitter World}

@[simp] theorem code_ofResult_iff {result : Except CommandError Bool} :
    (Outcome.ofResult result session).code = 0 ↔ result = .ok true := by
  rcases result with cause | _ | _
  · exact iff_of_false Nat.one_ne_zero nofun
  · exact iff_of_false Nat.one_ne_zero nofun
  · exact iff_of_true rfl rfl

theorem served_of_error {request : Request} {cause : CommandError}
    (failed : carryOut surroundings config request ⟨world, ""⟩ = (.error cause, ⟨world, ""⟩)) :
    served surroundings config request world = .refused world cause := by
  unfold served
  rw [failed]
  rfl

theorem refused_of_idle {α β : Type} {action : Serving α} {next : α → Serving β} (idle : (action session).2 = session)
    (refused : ∀ value, action session = (.ok value, session) → ∃ cause, next value session = (.error cause, session)) :
    ∃ cause, (action >>= next) session = (.error cause, session) := by
  rcases performed : action session with ⟨cause | value, after⟩
  · rw [performed] at idle
    obtain rfl : after = session := idle
    exact ⟨cause, Action.bind_of_error performed next⟩
  · rw [performed] at idle
    obtain rfl : after = session := idle
    rw [Action.bind_of_ok performed]
    exact refused value performed

@[simp] theorem settled_idle {α : Type} (result : Except LaunchError α) :
    ((Serving.settled result : Serving α) session).2 = session :=
  rfl

@[simp] theorem usualParameters_idle (context : JobContext) (dryRun : Bool) :
    (usualParameters surroundings context dryRun session).2 = session := by
  unfold usualParameters
  split
  · exact settled_bind_pure _ ServiceBinding.userParameters session
  · rfl

theorem submitterTo_silent {context : JobContext} (elsewhere : context ≠ .standalone) :
    Gives (fun submitter => submitter.capturesOutput = false)
      (submitterTo surroundings settings context false) := by
  cases context with
  | distributed | service => exact .bind fun _ => .bind fun _ => .pure rfl
  | standalone => exact absurd rfl elsewhere

/-- Only a submitter that runs jobs on this machine captures their output. -/
theorem submitterTo_captures {context : JobContext} {dryRun : Bool} {after : Session}
    (made : submitterTo surroundings settings context dryRun session = (.ok submitter, after)) :
    submitter.capturesOutput = true ↔ context = .standalone ∧ dryRun = false := by
  cases dryRun with
  | true =>
    cases made
    exact iff_of_false Bool.false_ne_true nofun
  | false =>
    by_cases here : context = .standalone
    · subst here
      cases made
      exact iff_of_true rfl ⟨rfl, rfl⟩
    · have silent := submitterTo_silent here _ _ _ made
      exact iff_of_false (Bool.eq_false_iff.1 silent) fun ⟨there, _⟩ => here there

theorem requireOutput_refused (silent : submitter.capturesOutput = false) (job : String) (session : Session) :
    requireOutput submitter job session =
      (.error (.launch (.submit submitter.context (.unverifiable job))), session) := by
  unfold requireOutput
  rw [silent]
  rfl

@[simp] theorem submitterTo_sameSession (context : JobContext) (dryRun : Bool) :
    (submitterTo surroundings settings context dryRun session).2 = session := by
  cases dryRun with
  | true => rfl
  | false => exact submitterTo_idle surroundings settings context session

theorem verify_refused {request : VerifyRequest} {target : LaunchTarget} (makes : target.dryRun = false)
    (elsewhere : target.context.getD .standalone ≠ .standalone) :
    ∃ cause, verify surroundings settings request target session = (.error cause, session) := by
  unfold verify
  simp only [makes, Bool.false_eq_true, if_false]
  rw [← checksOf]
  refine refused_of_idle (submitterTo_idle surroundings settings _ session) fun submitter made => ?_
  have silent : submitter.capturesOutput = false :=
    Bool.eq_false_iff.2 fun captures => elsewhere ((submitterTo_captures made).1 captures).1
  -- There is always a check, and the first is enough to be refused.
  obtain ⟨check, rest, asked⟩ := List.exists_cons_of_ne_nil (checksOf_ne_nil request)
  rw [asked]
  exact ⟨_, Action.bind_of_error (Action.bind_of_error (requireOutput_refused silent _ session) _) _⟩

theorem launchComposite_refused {request : CompositeRequest} {target : LaunchTarget} {marker : String}
    (expects : request.expect = some marker)
    (elsewhere : target.dryRun = true ∨ target.context.getD settings.context ≠ .standalone) :
    ∃ cause, launchComposite surroundings settings request target session = (.error cause, session) := by
  unfold launchComposite
  -- Nothing is done while the job is named, its usual parameters are looked up and its submitter is made.
  refine refused_of_idle (settled_idle _) fun job _ => ?_
  refine refused_of_idle (usualParameters_idle _ _) fun usual _ => ?_
  refine refused_of_idle (submitterTo_sameSession _ _) fun submitter made => ?_
  have silent : submitter.capturesOutput = false := Bool.eq_false_iff.2 fun captures => by
    obtain ⟨here, makes⟩ := (submitterTo_captures made).1 captures
    rcases elsewhere with shown | elsewhere
    · exact Bool.false_ne_true (makes.symm.trans shown)
    · exact elsewhere here
  rw [expects]
  exact ⟨_, Action.bind_of_error (requireOutput_refused silent _ session) _⟩

theorem Unverifiable.refused {request : Request} (unverifiable : Unverifiable config.launcher request) :
    ∃ cause, served surroundings config request world = .refused world cause := by
  cases unverifiable with
  | checks makes elsewhere =>
    obtain ⟨cause, failed⟩ := verify_refused makes elsewhere
    exact ⟨cause, served_of_error failed⟩
  | composite expects elsewhere =>
    obtain ⟨cause, failed⟩ := launchComposite_refused expects elsewhere
    exact ⟨cause, served_of_error failed⟩

theorem checks_reported (setup : CheckSetup) (tests jobs : Submitter World) (checks : List CompositeCheck)
    (session : Session) : ∃ runs answers after,
      Chain (fun check => CompositeCheck.run check setup tests jobs) session.world runs after.world ∧
      runs.map (·.subject) = checks ∧ (answers.all id = true ↔ ∀ run ∈ runs, run.Succeeded) ∧
      after.printed = session.printed ++ printedLines (runs.map fun run => verdictLine run.subject run.ending) ∧
      checks.mapM (runCheck setup tests jobs) session = (.ok answers, after) := by
  induction checks generalizing session with
  | nil =>
    refine ⟨[], [], session, .nil, rfl, iff_of_true rfl (List.forall_mem_nil _), ?_, rfl⟩
    exact (String.append_empty).symm
  | cons check rest ih =>
    rcases performed : check.run setup tests jobs session.world with ⟨ending, between⟩
    have ran := runCheck_apply setup tests jobs check session performed
    -- The next check begins in the world that this one left, and its report goes after this one's.
    obtain ⟨runs, answers, after, chain, asked, all, printed, others⟩ := ih
      { world := between, printed := session.printed ++ printedLines [verdictLine check ending] }
    refine ⟨⟨check, session.world, ending, between⟩ :: runs, ending.isOk :: answers, after,
      .cons check performed chain, by rw [List.map_cons, asked], ?_, ?_, ?_⟩
    · rw [List.all_cons, Bool.and_eq_true, List.forall_mem_cons, all]
      refine and_congr_left' ?_
      cases ending with
      | error => exact iff_of_false Bool.false_ne_true Execution.not_succeeded_error
      | ok value => exact iff_of_true rfl ⟨value, rfl⟩
    · rw [printed, String.append_assoc, ← printedLines_append]
      rfl
    · rw [List.mapM_cons, Action.bind_of_ok ran, Action.bind_of_ok others]
      rfl

theorem prepared_or_refused (request : VerifyRequest) (session : Session) :
    (∃ tests jobs, Prepared surroundings settings (checksOf request) session tests jobs) ∨
    ∃ cause, (∃ check ∈ checksOf request, check.prelaunch?.isSome) ∧
      submitterTo surroundings settings .distributed false session = (.error cause, session) := by
  by_cases needed : ∃ check ∈ checksOf request, check.prelaunch?.isSome
  · obtain ⟨check, member, runs⟩ := needed
    rcases submitterTo_cases surroundings settings .distributed session with ⟨cause, failed⟩ | ⟨jobs, made⟩
    · exact .inr ⟨cause, ⟨check, member, runs⟩, failed⟩
    · refine .inl ⟨_, jobs, rfl, fun _ => made, fun needless => ?_⟩
      rw [needless check member] at runs
      cases runs
  · exact .inl ⟨_, _, rfl, fun runs => absurd runs needed, fun _ => rfl⟩

section
variable {request : VerifyRequest} {target : LaunchTarget}

theorem verify_here (makes : target.dryRun = false) (here : target.context.getD .standalone = .standalone) :
    verify surroundings settings request target session = (do
      let tests := (machine surroundings settings).submitter
      let jobs ← if (checksOf request).any fun check => check.prelaunch?.isSome then
          submitterTo surroundings settings .distributed false
        else pure tests
      return (← (checksOf request).mapM (runCheck (checkSetup settings request target) tests jobs)).all id :
        Serving Bool) session := by
  have made : submitterTo surroundings settings .standalone false session =
      (.ok (machine surroundings settings).submitter, session) := rfl
  unfold verify
  simp only [here, makes, Bool.false_eq_true, if_false]
  rw [← checksOf, Action.bind_of_ok made, Action.bind_of_ok (requireOutput_forM rfl _ session)]

theorem verify_prepared (makes : target.dryRun = false) (here : target.context.getD .standalone = .standalone)
    (prepared : Prepared surroundings settings (checksOf request) session tests jobs) :
    verify surroundings settings request target session =
      (do return (← (checksOf request).mapM
        (runCheck (checkSetup settings request target) tests jobs)).all id : Serving Bool) session := by
  obtain ⟨rfl, needed, needless⟩ := prepared
  rw [verify_here makes here]
  dsimp only
  split
  · next runs => rw [Action.bind_of_ok (needed (List.any_eq_true.1 runs))]
  · next runs =>
    have none : ∀ check ∈ checksOf request, check.prelaunch? = Option.none := fun check member =>
      Option.not_isSome_iff_eq_none.1 fun asks => runs (List.any_eq_true.2 ⟨check, member, asks⟩)
    obtain rfl := needless none
    rfl

theorem verify_unprepared {cause : CommandError} (makes : target.dryRun = false)
    (here : target.context.getD .standalone = .standalone)
    (needed : ∃ check ∈ checksOf request, check.prelaunch?.isSome)
    (failed : submitterTo surroundings settings .distributed false session = (.error cause, session)) :
    verify surroundings settings request target session = (.error cause, session) := by
  rw [verify_here makes here]
  dsimp only
  rw [if_pos (List.any_eq_true.2 needed)]
  exact Action.bind_of_error failed _

theorem verify_verified (makes : target.dryRun = false) (here : target.context.getD .standalone = .standalone)
    (prepared : Prepared surroundings config.launcher (checksOf request) ⟨world, ""⟩ tests jobs) :
    ∃ runs, Verified (checkSetup config.launcher request target) tests jobs (checksOf request) world runs
      (served surroundings config (.verify request target) world) := by
  obtain ⟨runs, answers, after, chain, asked, all, printed, ran⟩ := checks_reported
    (checkSetup config.launcher request target) tests jobs (checksOf request) ⟨world, ""⟩
  have carried : carryOut surroundings config (.verify request target) ⟨world, ""⟩ = (.ok (answers.all id), after) := by
    show verify surroundings config.launcher request target ⟨world, ""⟩ = _
    rw [verify_prepared makes here prepared, Action.bind_of_ok ran]
    rfl
  have left : served surroundings config (.verify request target) world = .ofResult (.ok (answers.all id)) after := by
    unfold served
    rw [carried]
  rw [left]
  refine ⟨runs, chain, asked, ?_, ?_, ?_⟩
  · exact printed.trans (String.empty_append)
  · cases answers.all id <;> rfl
  · rw [code_ofResult_iff, Except.ok.injEq, all]

end

section
variable {request : CompositeRequest} {target : LaunchTarget} {marker : String}

theorem launchComposite_here {job : Topology} (expects : request.expect = some marker) (makes : target.dryRun = false)
    (here : target.context.getD settings.context = .standalone)
    (made : compositeJob settings request target = .ok job) :
    launchComposite surroundings settings request target session = (do
      let handle ← Serving.within .launch
        ((machine surroundings settings).submit job (compositeConfig request).toMap)
      report false handle
      Serving.settled (handle.verify marker)
      Serving.say (handle.name ++ " pass")
      return true : Serving Bool) session := by
  obtain ⟨base, named, ⟨⟩⟩ := exists_of_bind_ok made
  have elsewhere : JobContext.standalone ≠ .service ∨ false = true := .inl nofun
  unfold launchComposite
  simp only [expects, makes, here, usualParameters_none surroundings elsewhere]
  rw [named]
  rfl

theorem report_ok (handle : Handle) (session : Session) : ∃ after, report false handle session = (.ok (), after) := by
  unfold report
  cases handle.jobId <;> exact ⟨_, rfl⟩

theorem expecting_iff (submission : Launching World Handle) :
    ((do
      let handle ← Serving.within .launch submission
      report false handle
      Serving.settled (handle.verify marker)
      Serving.say (handle.name ++ " pass")
      return true : Serving Bool) session).1 = .ok true ↔
    ∃ handle, (submission session.world).1 = .ok handle ∧ handle.verify marker = .ok () := by
  have submitted : Serving.within .launch submission session =
      ((submission session.world).1.mapError .launch, { session with world := (submission session.world).2 }) := rfl
  rw [Action.bind_apply, submitted]
  rcases (submission session.world).1 with cause | handle
  · exact iff_of_false nofun fun ⟨_, given, _⟩ => nomatch given
  · obtain ⟨after, told⟩ := report_ok handle { session with world := (submission session.world).2 }
    dsimp only [Except.mapError]
    rw [Action.bind_of_ok told]
    rcases verified : handle.verify marker with cause | ⟨⟨⟩⟩
    · refine iff_of_false nofun ?_
      rintro ⟨_, ⟨⟩, passed⟩
      cases verified.symm.trans passed
    · exact iff_of_true rfl ⟨handle, rfl, verified⟩

theorem launchComposite_expecting (expects : request.expect = some marker) (makes : target.dryRun = false)
    (here : target.context.getD settings.context = .standalone) :
    (launchComposite surroundings settings request target session).1 = .ok true ↔ ∃ job handle,
      compositeJob settings request target = .ok job ∧
      ((machine surroundings settings).submit job (compositeConfig request).toMap session.world).1 = .ok handle ∧
      handle.verify marker = .ok () := by
  rcases made : compositeJob settings request target with cause | job
  · refine iff_of_false (fun passed => ?_) fun ⟨_, _, given, _⟩ => nomatch given
    unfold launchComposite at passed
    rcases named : Topology.ofComposite (jobName request) request.kind with reason | base
    · rw [named] at passed
      cases passed
    · rw [compositeJob, named] at made
      cases made
  · rw [launchComposite_here expects makes here made, expecting_iff]
    constructor
    · rintro ⟨handle, submitted, verified⟩
      exact ⟨job, handle, rfl, submitted, verified⟩
    · rintro ⟨_, handle, ⟨⟩, submitted, verified⟩
      exact ⟨handle, submitted, verified⟩

end

end

/-- Output is verified where it is captured, and nothing is done elsewhere. -/
theorem verification_all_or_nothing (surroundings : Surroundings) (config : Config) (world : World) :
    (∀ arguments invocation, Invocation.ofArguments arguments = .ok invocation →
      Config.load world.tree invocation.config = .ok config →
      run surroundings world arguments = served surroundings config invocation.request world) ∧
    (∀ context dryRun submitter, submitterTo surroundings config.launcher context dryRun ⟨world, ""⟩ =
      (.ok submitter, ⟨world, ""⟩) → (submitter.capturesOutput = true ↔ context = .standalone ∧ dryRun = false)) ∧
    (∀ request, Unverifiable config.launcher request →
      ∃ cause, served surroundings config request world = .refused world cause) ∧
    (∀ check setup (tests jobs : Submitter World), tests.capturesOutput = false →
      CompositeCheck.run check setup tests jobs world =
        (.error (.submit tests.context (.checkNeedsOutput check.jobName Marker.pass)), world)) ∧
    (∀ request target, target.dryRun = false → target.context.getD .standalone = .standalone →
      let outcome := served surroundings config (.verify request target) world
      (∀ tests jobs, Prepared surroundings config.launcher (checksOf request) ⟨world, ""⟩ tests jobs →
        ∃ runs, Verified (checkSetup config.launcher request target) tests jobs (checksOf request) world runs
          outcome) ∧
      ((∃ tests jobs, Prepared surroundings config.launcher (checksOf request) ⟨world, ""⟩ tests jobs) ∨
        ∃ cause, outcome = .refused world cause)) ∧
    ∀ request target marker, request.expect = some marker → target.dryRun = false →
      target.context.getD config.launcher.context = .standalone →
      ((served surroundings config (.launchComposite request target) world).code = 0 ↔ ∃ job handle output,
        compositeJob config.launcher request target = .ok job ∧
        ((machine surroundings config.launcher).submit job (compositeConfig request).toMap world).1 = .ok handle ∧
        handle.output = some output ∧ output.exitCode = 0 ∧ marker.toList <:+: output.stdout.toList) := by
  refine ⟨fun _ _ => run_apply, fun _ _ _ => submitterTo_captures, fun _ => Unverifiable.refused, ?_, ?_, ?_⟩
  · intro check setup tests jobs silent
    have course := CompositeCheck.run_course check setup tests jobs world
    rwa [if_neg (Bool.eq_false_iff.1 silent)] at course
  · intro request target makes here
    refine ⟨fun _ _ => verify_verified makes here, ?_⟩
    refine (prepared_or_refused request ⟨world, ""⟩).imp_right ?_
    rintro ⟨cause, needed, failed⟩
    exact ⟨cause, served_of_error (verify_unprepared makes here needed failed)⟩
  · intro request target marker expects makes here
    show (Outcome.ofResult (launchComposite surroundings config.launcher request target ⟨world, ""⟩).1 _).code = 0 ↔ _
    rw [code_ofResult_iff, launchComposite_expecting expects makes here]
    simp only [Handle.verify_eq_ok_iff, exists_and_left]

def markingSurroundings : Surroundings where
  environment := .empty
  runner := fun _ tree _ => { outcome := .ok ⟨Marker.pass, "", 0⟩, tree := tree, cancels := false }
  network := Http.unreachable

def twiceMetrics : VerifyRequest :=
  { checks := [.metrics, .metrics], testToolkit := none, parameters := [] }

theorem verification_all_or_nothing_twiceMetrics :
    (∃ runs : List CheckRun, runs.map (·.subject) = [.metrics, .metrics] ∧ (∀ run ∈ runs, run.Succeeded) ∧
      (served markingSurroundings .standard (.verify twiceMetrics ⟨none, none, false⟩) (.fresh default)).stdout =
        printedLines (runs.map fun run => verdictLine run.subject run.ending)) ∧
    ∃ cause, served markingSurroundings .standard (.verify twiceMetrics ⟨some .distributed, none, false⟩)
      (.fresh default) = .refused (.fresh default) cause := by
  obtain ⟨-, -, refused, -, verified, -⟩ :=
    verification_all_or_nothing markingSurroundings .standard (.fresh default)
  obtain ⟨whole, -⟩ := verified twiceMetrics ⟨none, none, false⟩ rfl rfl
  obtain ⟨runs, verified⟩ := whole _ _ ⟨rfl, fun needed => absurd needed (by decide), fun _ => rfl⟩
  exact ⟨⟨runs, verified.eachOnce, verified.passed.1 (by rfl), verified.reported⟩,
    refused _ (.checks rfl (by decide))⟩

end ScenarioBench.CommandLine

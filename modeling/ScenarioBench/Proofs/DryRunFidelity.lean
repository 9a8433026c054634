import ScenarioBench.CommandLine.Program
import ScenarioBench.Proofs.GivenValues
import ScenarioBench.Proofs.Showing

/-! What is shown is what is submitted.

The same command, when it makes its submissions, does nothing to the world but to submit jobs and to cancel them.
Main statement: unless a submission fails, the jobs that it submits are those of its batches, in their order and to
their contexts, whatever checks and cancellations come to; and these are the batches that it prints when it only
shows them, so that the lines tell them apart from every other submission.
-/

set_option autoImplicit false

namespace ScenarioBench.CommandLine

inductive Dealing where
  | submit (submittal : Submittal)
  | cancel (context : JobContext) (handle : Handle)

abbrev DealingRun := Execution World LaunchError (Option Handle) Dealing

namespace Dealing

def submittal? : Dealing → Option Submittal
  | submit submittal => some submittal
  | cancel _ _ => none

def perform (submitters : JobContext → Submitter World) : Dealing → Launching World (Option Handle)
  | submit submittal => fun world =>
    let (ending, after) :=
      (submitters submittal.context).submit submittal.topology submittal.config world
    (ending.map some, after)
  | cancel context handle => fun world =>
    let (ending, after) := (submitters context).cancel handle world
    (ending.map fun _ => none, after)

end Dealing

def submittals (steps : List DealingRun) : List Submittal :=
  steps.filterMap (·.subject.submittal?)

/-- What was done to the world is to submit jobs of a plan and to cancel jobs; none is left out unless a submission
failed. -/
structure Fulfils (submitters : JobContext → Submitter World) (plan : List Submittal) (world : World)
    (steps : List DealingRun) (after : World) : Prop where
  chain : Chain (Dealing.perform submitters) world steps after
  among : (submittals steps).Sublist plan
  whole : (∀ step ∈ steps, step.subject.submittal?.isSome → step.Succeeded) → submittals steps = plan

namespace Fulfils

variable {submitters : JobContext → Submitter World} {plan more : List Submittal}
  {world between after : World} {steps others : List DealingRun} {ι : Type}

theorem nil : Fulfils submitters [] world [] world :=
  ⟨.nil, .slnil, fun _ => rfl⟩

theorem append (first : Fulfils submitters plan world steps between)
    (next : Fulfils submitters more between others after) :
    Fulfils submitters (plan ++ more) world (steps ++ others) after := by
  refine ⟨first.chain.append next.chain, ?_, fun succeeded => ?_⟩
  · rw [submittals, List.filterMap_append]
    exact first.among.append next.among
  · rw [submittals, List.filterMap_append, ← submittals, ← submittals,
      first.whole fun step member => succeeded step (List.mem_append_left _ member),
      next.whole fun step member => succeeded step (List.mem_append_right _ member)]

theorem of_followed {perform : ι → Launching World Handle} {subjects : List ι}
    {executions : List (Execution World LaunchError Handle ι)} (toSubmittal : ι → Submittal)
    (chain : Chain perform world executions after)
    (followed : Followed Execution.Succeeded (·.subject) subjects executions)
    (same : ∀ subject ∈ subjects, perform subject =
      (submitters (toSubmittal subject).context).submit (toSubmittal subject).topology
        (toSubmittal subject).config) :
    Fulfils submitters (subjects.map toSubmittal) world
      (executions.map (Execution.map (.submit ∘ toSubmittal) some)) after := by
  have told : submittals (executions.map (Execution.map (.submit ∘ toSubmittal) some)) =
      (executions.map (·.subject)).map toSubmittal := by
    rw [submittals, List.filterMap_map, List.map_map]
    exact congrFun List.filterMap_eq_map executions
  refine ⟨chain.map _ _ fun execution member state => ?_, ?_, fun succeeded => ?_⟩
  · rw [same _ (followed.subject_mem member)]
    rfl
  · rw [told]
    exact (followed.inOrder.sublist).map toSubmittal
  · rw [told, followed.whole fun execution member => Execution.succeeded_map_iff.1
      (succeeded _ (List.mem_map_of_mem member) rfl)]

theorem of_cancellations (submitters : JobContext → Submitter World) {perform : ι → Launching World Unit}
    {executions : List (Execution World LaunchError Unit ι)} (context : ι → JobContext)
    (handle : ι → Handle) (chain : Chain perform world executions after)
    (same : ∀ execution ∈ executions, perform execution.subject =
      (submitters (context execution.subject)).cancel (handle execution.subject)) :
    Fulfils submitters [] world
      (executions.map (Execution.map (fun subject => .cancel (context subject) (handle subject))
        fun _ => none)) after := by
  have told : submittals (executions.map (Execution.map
      (fun subject => .cancel (context subject) (handle subject)) fun _ => none)) = [] := by
    rw [submittals, List.filterMap_map]
    exact List.filterMap_eq_nil_iff.2 fun _ _ => rfl
  refine ⟨chain.map _ _ fun execution member state => ?_, told ▸ .slnil, fun _ => told⟩
  rw [same _ member]
  rfl

end Fulfils

def place (context : JobContext) : Role → JobContext
  | .tests => context
  | .jobs => .distributed

def checkSubmittal (setup : CheckSetup) (context : JobContext) (job : Role × Topology) : Submittal where
  context := place context job.1
  topology := job.2
  config := setup.config.toMap

theorem before_ne_nil_iff {setup : CheckSetup} {check : CompositeCheck} {before : List Topology}
    (earlier : setup.before check = .ok before) : before ≠ [] ↔ check.prelaunch?.isSome := by
  cases check <;> cases earlier <;> simp [CompositeCheck.prelaunch?]

section
variable {submitters : JobContext → Submitter World} {context : JobContext}
  {tests jobs : Submitter World}

theorem check_fulfils (setup : CheckSetup) (check : CompositeCheck) (captures : tests.capturesOutput)
    (testsMade : tests = submitters context)
    (jobsMade : check.prelaunch?.isSome → jobs = submitters .distributed) (world : World) :
    ∃ batch steps, checkBatch setup context check = .ok batch ∧
      Fulfils submitters batch.submittals world steps (check.run setup tests jobs world).2 := by
  obtain ⟨before, test, earlier, tested, topologies⟩ := CompositeCheck.topologies_eq_ok setup check
  obtain ⟨before', test', submitted, between, outcome, topologies', chain, followed, verified, -⟩ :=
    CompositeCheck.submitAndVerify_chain setup tests jobs check world
  obtain ⟨rfl, same⟩ := List.append_inj' (Except.ok.inj (topologies.symm.trans topologies')) rfl
  obtain rfl : test = test' := by simpa using same
  -- The submitter for the jobs that run before is only known where there are such jobs.
  have known : ∀ job ∈ before.map (Prod.mk Role.jobs) ++ [(.tests, test)],
      job.1.submitter tests jobs = submitters (place context job.1) := by
    rintro ⟨_ | _, topology⟩ member
    · exact testsMade
    · have among : topology ∈ before := by simpa using member
      exact jobsMade ((before_ne_nil_iff earlier).1 (List.ne_nil_of_mem among))
  -- The jobs of the check in their order, and then the cancellations of those that were submitted.
  have submissions := Fulfils.of_followed (checkSubmittal setup context) chain followed
    fun job member => by rw [CompositeCheck.submit, known job member]; rfl
  obtain ⟨cancelled, after, cancellations, backwards, cleared⟩ := Chain.firstError
    (CompositeCheck.cancel tests jobs) (submitted.filterMap Submission.started?).reverse between
  have clearing := Fulfils.of_cancellations submitters (fun job => place context job.1)
    (·.2) cancellations fun execution member => by
      have started : execution.subject ∈ (submitted.filterMap Submission.started?).reverse := by
        rw [← backwards]
        exact List.mem_map_of_mem member
      obtain ⟨submission, among, left⟩ := List.mem_filterMap.1 (List.mem_reverse.1 started)
      rw [CompositeCheck.cancel, ← Submission.role_of_started? left,
        known submission.subject (followed.subject_mem among)]
  have ran : (check.run setup tests jobs world).2 = after := by
    unfold CompositeCheck.run
    simp only [captures, if_true, verified, CompositeCheck.cancelAll_kept, cleared]
  have laid :
      (before.map (Prod.mk Role.jobs) ++ [(Role.tests, test)]).map (checkSubmittal setup context) ++ [] =
      Submittal.all .distributed setup.config before ++ Submittal.all context setup.config [test] := by
    simp [Submittal.all, checkSubmittal, place, Function.comp_def]
  have whole := submissions.append clearing
  rw [laid] at whole
  exact ⟨_, _, checkBatch_eq context earlier tested, ran ▸ whole⟩

end

def SameWorld (before after : Session) : Prop :=
  after.world = before.world

instance : Std.Refl SameWorld :=
  ⟨fun _ => rfl⟩

instance : Trans SameWorld SameWorld SameWorld :=
  ⟨fun first second => Eq.trans second first⟩

theorem say_sameWorld (line : String) : Action.Follows (Serving.say line) SameWorld :=
  fun _ => rfl

theorem report_sameWorld (handle : Handle) : Action.Follows (report false handle) SameWorld := by
  unfold report
  cases handle.jobId <;> exact say_sameWorld _

theorem world_within_bind {ε α β : Type} {convert : ε → CommandError} {act : Act ε α}
    {next : α → Serving β} (quiet : ∀ value, Action.Follows (next value) SameWorld) (session : Session) :
    ((Serving.within convert act >>= next) session).2.world = (act session.world).2 := by
  rw [Action.bind_apply]
  unfold Serving.within
  rcases act session.world with ⟨cause | value, after⟩
  · rfl
  · exact quiet value _

@[simp] theorem settled_bind_pure {α β : Type} (result : Except LaunchError α) (convert : α → β)
    (session : Session) :
    ((Serving.settled result >>= fun value => pure (convert value) : Serving β) session).2 = session := by
  rw [Action.bind_apply]
  cases result <;> rfl

@[simp] theorem submitterTo_idle (surroundings : Surroundings) (settings : LauncherSettings)
    (context : JobContext) (session : Session) :
    (submitterTo surroundings settings context false session).2 = session := by
  cases context with
  | distributed => exact settled_bind_pure _ Streamtool.submitter session
  | service =>
    exact settled_bind_pure _ (fun service : Service => { service with verifyPeer := false }.submitter) session
  | standalone => rfl

/-- How a command that makes its submissions goes: either a submitter that it needs cannot be made, and it does
nothing at all, or what it does to the world fulfils what was asked. -/
def Carried (surroundings : Surroundings) (settings : LauncherSettings) (session : Session)
    (asked : List Submittal) (carried : Except CommandError Bool × Session) : Prop :=
  (∃ submittal ∈ asked, ∃ cause,
    submitterTo surroundings settings submittal.context false session = (.error cause, session) ∧
    carried = (.error cause, session)) ∨
  ∃ submitters steps,
    (∀ submittal ∈ asked, submitterTo surroundings settings submittal.context false session =
      (.ok (submitters submittal.context), session)) ∧
    Fulfils submitters asked session.world steps carried.2.world

section
variable {surroundings : Surroundings} {settings : LauncherSettings} {session : Session}

theorem submitterTo_cases (surroundings : Surroundings) (settings : LauncherSettings)
    (context : JobContext) (session : Session) :
    (∃ cause, submitterTo surroundings settings context false session = (.error cause, session)) ∨
      ∃ submitter, submitterTo surroundings settings context false session = (.ok submitter, session) := by
  have idle := submitterTo_idle surroundings settings context session
  rcases made : submitterTo surroundings settings context false session with ⟨cause | submitter, after⟩
  · rw [made] at idle
    exact .inl ⟨cause, by rw [← idle]⟩
  · rw [made] at idle
    exact .inr ⟨submitter, by rw [← idle]⟩

theorem carried_of_submitter {context : JobContext} {config : JobConfig} {jobs : List Topology}
    (nonempty : jobs ≠ []) {next : Submitter World → Serving Bool}
    (submits : ∀ submitter : Submitter World, ∃ executions,
      Chain (fun job => submitter.submit job config.toMap) session.world executions
        (next submitter session).2.world ∧
      Followed Execution.Succeeded (·.subject) jobs executions) :
    Carried surroundings settings session (Submittal.all context config jobs)
      ((submitterTo surroundings settings context false >>= next) session) := by
  have placed : ∀ submittal ∈ Submittal.all context config jobs, submittal.context = context := by
    intro submittal member
    obtain ⟨job, -, rfl⟩ := List.mem_map.1 member
    rfl
  rcases submitterTo_cases surroundings settings context session with ⟨cause, failed⟩ | ⟨submitter, made⟩
  · obtain ⟨job, rest, rfl⟩ := List.exists_cons_of_ne_nil nonempty
    exact .inl ⟨_, List.mem_cons_self, cause, failed, Action.bind_of_error failed next⟩
  · rw [Action.bind_of_ok made]
    obtain ⟨executions, chain, followed⟩ := submits submitter
    refine .inr ⟨fun _ => submitter, _, fun submittal member => ?_,
      .of_followed (fun job => { context := context, topology := job, config := config.toMap }) chain followed
        fun _ _ => rfl⟩
    rw [placed submittal member]
    exact made

theorem launch_carried (sample : Sample) (target : LaunchTarget) {plan : List Batch}
    (laid : batches settings (.launch sample target) = .ok plan) (session : Session) :
    Carried surroundings settings session (plan.flatMap (·.submittals))
      (launch surroundings settings sample { target with dryRun := false } session) := by
  obtain ⟨jobs, planned, nonempty, -⟩ := ofSample_eq_ok sample (target.toolkit.getD settings.toolkit)
  rw [batches, planned] at laid
  obtain rfl := Except.ok.inj laid
  rw [List.flatMap_singleton]
  unfold launch
  rw [planned]
  refine carried_of_submitter nonempty fun submitter => ?_
  obtain ⟨executions, last, chain, followed, left⟩ :=
    Chain.mapM (fun job => submitter.submit job sample.config.toMap) jobs session.world
  refine ⟨executions, ?_, followed⟩
  rw [world_within_bind (fun handles => .bind (.forM report_sameWorld handles) fun _ => .pure true)]
  exact left ▸ chain

theorem launchComposite_carried (request : CompositeRequest) (target : LaunchTarget)
    (showable : Showable settings (.launchComposite request target)) {plan : List Batch}
    (laid : batches settings (.launchComposite request target) = .ok plan) (session : Session) :
    Carried surroundings settings session (plan.flatMap (·.submittals))
      (launchComposite surroundings settings request { target with dryRun := false } session) := by
  obtain ⟨named, unexpecting, elsewhere⟩ := showable
  obtain ⟨base, made, planned⟩ := compositeJob_eq_ok settings target request named
  rw [batches, planned] at laid
  obtain rfl := Except.ok.inj laid
  rw [List.flatMap_singleton]
  unfold launchComposite
  simp only [unexpecting, usualParameters_none surroundings (.inl elsewhere), made, Option.isSome_none,
    Bool.false_eq_true, if_false]
  refine carried_of_submitter (List.cons_ne_nil _ _) fun submitter => ?_
  obtain ⟨executions, chain, followed⟩ := Chain.single
    (fun job => submitter.submit job (compositeConfig request).toMap) _ session.world
  refine ⟨executions, ?_, followed⟩
  rw [world_within_bind (fun handle => .bind (report_sameWorld handle) fun _ => .pure true)]
  exact chain

def verdictLine (check : CompositeCheck) : Except LaunchError Unit → String
  | .ok () => check.jobName ++ " pass"
  | .error cause => check.jobName ++ " FAILED\n" ++ cause.message

theorem runCheck_apply (setup : CheckSetup) (tests jobs : Submitter World) (check : CompositeCheck)
    (session : Session) {ending : Except LaunchError Unit} {after : World}
    (performed : check.run setup tests jobs session.world = (ending, after)) :
    runCheck setup tests jobs check session = (.ok ending.isOk,
      { world := after, printed := session.printed ++ printedLines [verdictLine check ending] }) := by
  have attempted : Serving.within CommandError.launch (Action.attempt (check.run setup tests jobs)) session =
      (.ok ending, { session with world := after }) := by
    unfold Serving.within
    rw [Action.attempt_apply, performed]
    rfl
  unfold runCheck
  rw [Action.bind_of_ok attempted]
  rcases ending with cause | ⟨⟨⟩⟩ <;> exact Action.bind_of_ok (Prints.say _ _) _

theorem checks_fulfil {submitters : JobContext → Submitter World} (setup : CheckSetup)
    {context : JobContext} {tests jobs : Submitter World} (captures : tests.capturesOutput)
    (testsMade : tests = submitters context) (checks : List CompositeCheck)
    (jobsMade : ∀ check ∈ checks, check.prelaunch?.isSome → jobs = submitters .distributed)
    (session : Session) :
    ∃ plan steps answers after, checks.mapM (checkBatch setup context) = .ok plan ∧
      checks.mapM (runCheck setup tests jobs) session = (.ok answers, after) ∧
      Fulfils submitters (plan.flatMap (·.submittals)) session.world steps after.world := by
  induction checks generalizing session with
  | nil => exact ⟨[], [], [], session, rfl, rfl, .nil⟩
  | cons check rest ih =>
    -- The next check begins in the world that this one left, whatever it came to.
    obtain ⟨batch, first, batched, fulfils⟩ := check_fulfils setup check captures testsMade
      (jobsMade check List.mem_cons_self) session.world
    rcases performed : check.run setup tests jobs session.world with ⟨ending, between⟩
    rw [performed] at fulfils
    have ran := runCheck_apply setup tests jobs check session performed
    obtain ⟨plan, steps, answers, after, laid, others, next⟩ :=
      ih (fun other member => jobsMade other (List.mem_cons_of_mem _ member))
        { world := between, printed := session.printed ++ printedLines [verdictLine check ending] }
    refine ⟨batch :: plan, first ++ steps, ending.isOk :: answers, after, mapM_cons_of_ok batched laid, ?_,
      fulfils.append next⟩
    rw [List.mapM_cons, Action.bind_of_ok ran, Action.bind_of_ok others]
    rfl

theorem context_of_checks {setup : CheckSetup} {context : JobContext} {checks : List CompositeCheck}
    {plan : List Batch} (laid : checks.mapM (checkBatch setup context) = .ok plan) :
    (∀ submittal ∈ plan.flatMap (·.submittals), submittal.context = context ∨
      submittal.context = .distributed ∧ ∃ check ∈ checks, check.prelaunch?.isSome) ∧
    ((∃ check ∈ checks, check.prelaunch?.isSome) →
      ∃ submittal ∈ plan.flatMap (·.submittals), submittal.context = .distributed) := by
  induction checks generalizing plan with
  | nil =>
    cases laid
    exact ⟨List.forall_mem_nil _, fun ⟨_, member, _⟩ => absurd member List.not_mem_nil⟩
  | cons check rest ih =>
    obtain ⟨before, test, earlier, tested, -⟩ := CompositeCheck.topologies_eq_ok setup check
    obtain ⟨batch, others, batched, told, rfl⟩ := exists_of_mapM_cons_ok laid
    rw [checkBatch_eq context earlier tested] at batched
    cases batched
    obtain ⟨placed, reached⟩ := ih told
    simp only [List.flatMap_cons, Submittal.all, List.map_singleton, List.mem_append, List.mem_map,
      List.mem_singleton]
    constructor
    · rintro submittal ((⟨job, member, rfl⟩ | rfl) | later)
      · exact .inr ⟨rfl, check, List.mem_cons_self,
          (before_ne_nil_iff earlier).1 (List.ne_nil_of_mem member)⟩
      · exact .inl rfl
      · refine (placed submittal later).imp_right fun ⟨there, other, member, runs⟩ => ?_
        exact ⟨there, other, List.mem_cons_of_mem _ member, runs⟩
    · rintro ⟨other, member, runs⟩
      rcases List.mem_cons.1 member with rfl | member
      · obtain ⟨job, more, rfl⟩ := List.exists_cons_of_ne_nil ((before_ne_nil_iff earlier).2 runs)
        exact ⟨_, .inl (.inl ⟨job, List.mem_cons_self, rfl⟩), rfl⟩
      · obtain ⟨submittal, later, there⟩ := reached ⟨other, member, runs⟩
        exact ⟨submittal, .inr later, there⟩

theorem checks_carried (submitters : JobContext → Submitter World) {setup : CheckSetup}
    {context : JobContext} {tests jobs : Submitter World} {checks : List CompositeCheck}
    {plan : List Batch} (captures : tests.capturesOutput) (testsMade : tests = submitters context)
    (jobsMade : ∀ check ∈ checks, check.prelaunch?.isSome → jobs = submitters .distributed)
    (laid : checks.mapM (checkBatch setup context) = .ok plan)
    (made : ∀ submittal ∈ plan.flatMap (·.submittals),
      submitterTo surroundings settings submittal.context false session =
        (.ok (submitters submittal.context), session)) :
    Carried surroundings settings session (plan.flatMap (·.submittals))
      ((checks.mapM (runCheck setup tests jobs) >>= fun answers => pure (answers.all id)) session) := by
  obtain ⟨same, steps, answers, after, again, ran, fulfils⟩ :=
    checks_fulfil setup captures testsMade checks jobsMade session
  obtain rfl := Except.ok.inj (laid.symm.trans again)
  rw [Action.bind_of_ok ran]
  exact .inr ⟨submitters, steps, made, fulfils⟩

theorem requireOutput_forM {submitter : Submitter World} (captures : submitter.capturesOutput)
    (checks : List CompositeCheck) (session : Session) :
    (checks.forM fun check => requireOutput submitter check.jobName) session = (.ok (), session) := by
  induction checks with
  | nil => rfl
  | cons check rest ih =>
    have passed : requireOutput submitter check.jobName session = (.ok (), session) := by
      unfold requireOutput
      rw [captures]
      rfl
    exact (Action.bind_of_ok passed _).trans ih

theorem verify_carried (request : VerifyRequest) (target : LaunchTarget)
    (here : target.context.getD .standalone = .standalone) {plan : List Batch}
    (laid : batches settings (.verify request target) = .ok plan) (session : Session) :
    Carried surroundings settings session (plan.flatMap (·.submittals))
      (verify surroundings settings request { target with dryRun := false } session) := by
  rw [batches, here] at laid
  obtain ⟨placed, reached⟩ := context_of_checks laid
  let machine : Standalone :=
    { runner := surroundings.runner, compiler := .ofProgram settings.compiler settings.output }
  have made : submitterTo surroundings settings .standalone false session = (.ok machine.submitter, session) :=
    rfl
  unfold verify
  simp only [here, Bool.false_eq_true, if_false]
  -- Jobs on this machine capture output, so that no check is refused.
  rw [← checksOf, Action.bind_of_ok made, Action.bind_of_ok (requireOutput_forM rfl _ session)]
  -- The instance is needed exactly when something runs before one of the checks.
  split
  · next needed =>
    have runs := List.any_eq_true.1 needed
    rcases submitterTo_cases surroundings settings .distributed session with
      ⟨cause, failed⟩ | ⟨jobs, jobsMade⟩
    · obtain ⟨submittal, member, there⟩ := reached runs
      exact .inl ⟨submittal, member, cause, there ▸ failed, Action.bind_of_error failed _⟩
    · rw [Action.bind_of_ok jobsMade]
      refine checks_carried (fun context => if context = .distributed then jobs else machine.submitter)
        rfl rfl (fun _ _ _ => rfl) laid fun submittal member => ?_
      rcases placed submittal member with there | ⟨there, -⟩
      · rw [there]
        exact made
      · rw [there]
        exact jobsMade
  · next needless =>
    have unneeded : ¬ ∃ check ∈ checksOf request, check.prelaunch?.isSome :=
      fun runs => needless (List.any_eq_true.2 runs)
    refine checks_carried (fun _ => machine.submitter) rfl rfl
      (fun check member runs => absurd ⟨check, member, runs⟩ unneeded) laid fun submittal member => ?_
    rcases placed submittal member with there | ⟨-, runs⟩
    · rw [there]
      exact made
    · exact absurd runs unneeded

end

theorem checkLevel_eq_ok {grammar : Grammar} {progress checked : Progress}
    (passed : checkLevel grammar progress = .ok checked) :
    ∀ pair ∈ grammar.conflicts, ¬ (checked.has pair.1 ∧ checked.has pair.2) := by
  unfold checkLevel at passed
  split at passed
  · cases passed
  · next free =>
    split at passed <;> cases passed
    rintro ⟨first, second⟩ member ⟨one, other⟩
    refine free (List.any_eq_true.2 ⟨(first, second), member, ?_⟩)
    exact Bool.and_eq_true_iff.2 ⟨one, other⟩

theorem Given.has_of_text? {given : Given} {name text : String} (told : given.text? name = some text) :
    given.has name := by
  have listed : text ∈ given.texts name := List.mem_of_head? told
  obtain ⟨value, member, -⟩ := List.mem_filterMap.1 listed
  obtain ⟨entry, among, inside⟩ := List.mem_flatMap.1 member
  refine List.any_eq_true.2 ⟨entry, among, ?_⟩
  split at inside
  · assumption
  · cases inside

theorem read_conflicts {top : Grammar} {level : String → Grammar} {arguments : List Octets}
    {outer inner : Given} {command : String}
    (taken : read top level arguments = .ok (outer, command, inner)) :
    ∀ pair ∈ (level command).conflicts, ¬ (inner.has pair.1 ∧ inner.has pair.2) := by
  cases inLevels_of_read taken with
  | intro _ _ _ _ passed => exact checkLevel_eq_ok passed

theorem expect_of_shown {arguments : List Octets} {invocation : Invocation} {request : CompositeRequest}
    {target : LaunchTarget} (taken : Invocation.ofArguments arguments = .ok invocation)
    (asked : invocation.request = .launchComposite request target) (shown : target.dryRun = true) :
    request.expect = none := by
  obtain ⟨⟨outer, command, inner⟩, given, taken⟩ := exists_of_bind_ok taken
  dsimp only at taken
  split at taken
  · next request' same =>
    cases taken
    dsimp only at asked
    subst asked
    have excluded := read_conflicts given
    unfold Given.request? at same
    split at same
    case h_4 =>
      obtain ⟨_, _, other⟩ := Option.map_eq_some_iff.1 same
      cases other
    all_goals cases same
    cases told : inner.text? "expect" with
    | none => exact told
    | some text =>
      exact absurd ⟨Given.has_of_text? told, shown⟩ (excluded ("expect", "dry-run") (by decide))
  · cases taken

theorem showable_faithful (config : Config) (request : Request)
    (showable : Showable config.launcher request)
    (textual : ∀ path ∈ toolkitPaths config.launcher request, path.toText?.isSome) :
    ∃ plan lines, batches config.launcher request = .ok plan ∧ plan.mapM Batch.lines = .ok lines ∧
      (∀ surroundings, Prints (carryOut surroundings config (showing true request)) true lines.flatten) ∧
      ∀ surroundings session, Carried surroundings config.launcher session (plan.flatMap (·.submittals))
        (carryOut surroundings config (showing false request) session) := by
  cases request with
  | launch sample target =>
    obtain ⟨plan, lines, laid, told, printed⟩ :=
      launch_shown config.launcher target sample (textual _ List.mem_cons_self)
    exact ⟨plan, lines, laid, told, printed, fun _ => launch_carried sample target laid⟩
  | launchComposite composite target =>
    obtain ⟨plan, lines, laid, told, printed⟩ :=
      launchComposite_shown config.launcher target composite showable textual
    exact ⟨plan, lines, laid, told, printed, fun _ => launchComposite_carried composite target showable laid⟩
  | verify checks target =>
    obtain ⟨plan, lines, laid, told, printed⟩ := verify_shown config.launcher target checks textual
    exact ⟨plan, lines, laid, told, printed, fun _ => verify_carried checks target showable laid⟩
  | run | list | checkEnvironment => exact showable.elim

theorem run_apply {surroundings : Surroundings} {world : World} {arguments : List Octets}
    {invocation : Invocation} {config : Config} (taken : Invocation.ofArguments arguments = .ok invocation)
    (loaded : Config.load world.tree invocation.config = .ok config) :
    run surroundings world arguments =
      .ofResult (carryOut surroundings config invocation.request ⟨world, ""⟩).1
        (carryOut surroundings config invocation.request ⟨world, ""⟩).2 := by
  have told : serve surroundings invocation ⟨world, ""⟩ =
      carryOut surroundings config invocation.request ⟨world, ""⟩ := by
    unfold serve
    rw [Action.bind_of_ok (show Action.look _ = (.ok _, _) from rfl)]
    dsimp only
    rw [loaded, Action.bind_of_ok (show Action.settled (Except.mapError _ _) _ = (.ok config, _) from rfl)]
  unfold run
  rw [taken]
  simp only [Action.perform, told]

theorem run_of_prints {surroundings : Surroundings} {world : World} {arguments : List Octets}
    {invocation : Invocation} {config : Config} {lines : List String}
    (taken : Invocation.ofArguments arguments = .ok invocation)
    (loaded : Config.load world.tree invocation.config = .ok config)
    (prints : Prints (carryOut surroundings config invocation.request) true lines) :
    run surroundings world arguments =
      { code := 0, stdout := printedLines lines, stderr := "", world := world } := by
  rw [run_apply taken loaded, prints, String.empty_append]
  rfl

/-- Every submission is told by a line: no other submission is shown by the same text. -/
def Tells (lines : List String) (submittals : List Submittal) : Prop :=
  ∀ submittal ∈ submittals, ∃ text ∈ lines, submittal.render = .ok text ∧
    ∀ other : Submittal, other.config.Legible → other.render = .ok text → other = submittal

/-- Whatever it finds around it, a command that shows its submissions prints the documents of its batches, from which
the submissions are known, and does nothing else; when it makes them, it submits the same jobs. -/
theorem dry_runs_show_submissions :
    (∀ config request, Showable config.launcher request →
      (∀ path ∈ toolkitPaths config.launcher request, path.toText?.isSome) →
      ∃ plan lines, batches config.launcher request = .ok plan ∧ plan.mapM Batch.lines = .ok lines ∧
        Tells lines.flatten (plan.flatMap (·.submittals)) ∧
        (∀ surroundings, Prints (carryOut surroundings config (showing true request)) true lines.flatten) ∧
        (∀ surroundings session, Carried surroundings config.launcher session
          (plan.flatMap (·.submittals)) (carryOut surroundings config (showing false request) session)) ∧
        ∀ surroundings world arguments invocation,
          Invocation.ofArguments arguments = .ok invocation →
          Config.load world.tree invocation.config = .ok config →
          invocation.request = showing true request →
          run surroundings world arguments =
            { code := 0, stdout := printedLines lines.flatten, stderr := "", world := world }) ∧
    ∀ arguments invocation request target, Invocation.ofArguments arguments = .ok invocation →
      invocation.request = .launchComposite request target → target.dryRun = true →
      request.expect = none := by
  refine ⟨fun config request showable textual => ?_, fun _ _ _ _ => expect_of_shown⟩
  obtain ⟨plan, lines, laid, told, printed, carried⟩ := showable_faithful config request showable textual
  have tells : Tells lines.flatten (plan.flatMap (·.submittals)) := by
    intro submittal listed
    obtain ⟨text, among, rendered⟩ := exists_line told submittal listed
    exact ⟨text, among, rendered, fun other legible same =>
      Submittal.render_injective legible (legible_batches laid submittal listed) same rendered⟩
  refine ⟨plan, lines, laid, told, tells, printed, carried, ?_⟩
  intro surroundings world arguments invocation taken loaded same
  exact run_of_prints taken loaded (same ▸ printed surroundings)

def repeatedChecks : Request :=
  .verify { checks := [.jobStatus, .metrics, .jobStatus], testToolkit := none, parameters := [("user", "a=b")] }
    { context := none, toolkit := none, dryRun := true }

theorem dry_runs_show_submissions_repeatedChecks :
    Showable LauncherSettings.standard repeatedChecks ∧
    (∀ path ∈ toolkitPaths LauncherSettings.standard repeatedChecks, path.toText?.isSome) ∧
    ∃ (plan : List Batch) (lines : List (List String)),
      batches LauncherSettings.standard repeatedChecks = .ok plan ∧
      (plan.flatMap (·.submittals)).map (·.context) =
        [.distributed, .standalone, .standalone, .distributed, .standalone] ∧
      ∀ surroundings, Prints (carryOut surroundings .standard (showing true repeatedChecks)) true
        lines.flatten := by
  have showable : Showable Config.standard.launcher repeatedChecks := rfl
  have textual : ∀ path ∈ toolkitPaths Config.standard.launcher repeatedChecks, path.toText?.isSome := by
    decide
  obtain ⟨plan, lines, laid, -, -, printed, -⟩ :=
    dry_runs_show_submissions.1 .standard repeatedChecks showable textual
  have contexts : (batches LauncherSettings.standard repeatedChecks).map
      (fun plan => (plan.flatMap (·.submittals)).map (·.context)) =
      .ok [.distributed, .standalone, .standalone, .distributed, .standalone] := rfl
  rw [show batches LauncherSettings.standard repeatedChecks = .ok plan from laid] at contexts
  exact ⟨showable, textual, plan, lines, laid, Except.ok.inj contexts, printed⟩

end ScenarioBench.CommandLine

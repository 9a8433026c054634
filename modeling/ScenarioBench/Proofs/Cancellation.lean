import ScenarioBench.Proofs.Execution
import ScenarioBench.Launch.Check

/-! What a check submits and cancels.

A check uses two submitters, one for the job that runs before and one for the test composite. Its
submissions form a chain, and its cancellations another that starts where the first one ended: they
are the submissions that left a handle, read backwards. This holds for submitters of any behaviour,
because nothing is known of the state that they change.
-/

set_option autoImplicit false

namespace ScenarioBench

inductive Role where
  | tests
  | jobs
  deriving DecidableEq, Repr

variable {σ : Type}

def Role.submitter (tests jobs : Submitter σ) : Role → Submitter σ
  | .tests => tests
  | .jobs => jobs

abbrev Submission (σ : Type) := Execution σ LaunchError Handle (Role × Topology)

abbrev Cancellation (σ : Type) := Execution σ LaunchError Unit (Role × Handle)

/-- The handle that a submission left, with the role of the submitter that created it. -/
def Submission.started? (submission : Submission σ) : Option (Role × Handle) :=
  match submission.ending with
  | .ok handle => some (submission.subject.1, handle)
  | .error _ => none

theorem Submission.role_of_started? {submission : Submission σ} {job : Role × Handle}
    (started : submission.started? = some job) : submission.subject.1 = job.1 := by
  unfold Submission.started? at started
  split at started <;> cases started
  rfl

namespace CompositeCheck

def submit (setup : CheckSetup) (tests jobs : Submitter σ) (job : Role × Topology) :
    Launching σ Handle :=
  (job.1.submitter tests jobs).submit job.2 setup.config.toMap

def cancel (tests jobs : Submitter σ) (job : Role × Handle) : Launching σ Unit :=
  (job.1.submitter tests jobs).cancel job.2

/-- What a check comes to that is to submit the jobs of a plan. -/
structure Course (setup : CheckSetup) (tests jobs : Submitter σ) (plan : List (Role × Topology))
    (state : σ) (submitted : List (Submission σ)) (between : σ) (cancelled : List (Cancellation σ))
    (result : Except LaunchError Unit) (after : σ) : Prop where
  submissions : Chain (submit setup tests jobs) state submitted between
  followed : Followed Execution.Succeeded (·.subject) plan submitted
  cancellations : Chain (cancel tests jobs) between cancelled after
  backwards : cancelled.map (·.subject) = (submitted.filterMap Submission.started?).reverse
  submitError : ∀ cause, Execution.firstError? submitted = some cause → result = .error cause
  verdict : Execution.firstError? submitted = none → ∃ handle,
    (submitted.filterMap Submission.started?).getLast? = some (.tests, handle) ∧
    result = match handle.verify Marker.pass with
      | .error cause => .error cause
      | .ok () => Execution.outcome cancelled
  passed : result = .ok () →
    (∀ submission ∈ submitted, submission.Succeeded) ∧
    (∀ cancellation ∈ cancelled, cancellation.Succeeded) ∧
    ∃ handle output, (submitted.filterMap Submission.started?).getLast? = some (.tests, handle) ∧
      handle.output = some output ∧ output.exitCode = 0 ∧
      Marker.pass.toList <:+: output.stdout.toList

theorem topologies_eq_ok (setup : CheckSetup) (check : CompositeCheck) :
    ∃ before test, setup.before check = .ok before ∧ setup.test check = .ok test ∧
      setup.topologies check = .ok (before ++ [test]) := by
  cases check <;> exact ⟨_, _, rfl, rfl, rfl⟩

variable (setup : CheckSetup) (tests jobs : Submitter σ)

def kept (submitted : List (Submission σ)) : List (Started σ) :=
  (submitted.filterMap Submission.started?).map fun job =>
    { handle := job.2, submitter := job.1.submitter tests jobs }

@[simp] theorem kept_append (submitted more : List (Submission σ)) :
    kept tests jobs (submitted ++ more) = kept tests jobs submitted ++ kept tests jobs more := by
  simp only [kept, List.filterMap_append, List.map_append]

theorem submitAll_chain (role : Role) (topologies : List Topology) (state : σ) :
    ∃ submitted last, Chain (submit setup tests jobs) state submitted last ∧
      Followed Execution.Succeeded (·.subject) (topologies.map (Prod.mk role)) submitted ∧
      Started.submitAll (role.submitter tests jobs) setup.config.toMap topologies state =
        ((kept tests jobs submitted, Execution.outcome submitted), last) := by
  induction topologies generalizing state with
  | nil => exact ⟨[], state, .nil, .nil, rfl⟩
  | cons topology rest ih =>
    rcases answered : (role.submitter tests jobs).submit topology setup.config.toMap state with
      ⟨cause | handle, between⟩
    · refine ⟨[⟨(role, topology), state, .error cause, between⟩], between,
        .cons _ answered .nil, .cut rfl nofun, ?_⟩
      simp only [Started.submitAll, answered]
      rfl
    · obtain ⟨submitted, last, chain, followed, others⟩ := ih between
      refine ⟨⟨(role, topology), state, .ok handle, between⟩ :: submitted, last,
        .cons _ answered chain, .cons rfl ⟨handle, rfl⟩ followed, ?_⟩
      simp only [Started.submitAll, answered, others]
      rfl

theorem cancelAll_kept (submitted : List (Submission σ)) :
    Started.cancelAll (kept tests jobs submitted) = Action.firstError
      ((submitted.filterMap Submission.started?).reverse.map (cancel tests jobs)) := by
  unfold Started.cancelAll kept
  rw [← List.map_reverse, List.map_map]
  rfl

/-- How a check went before anything is cancelled: the first refusal, or else the verdict on what the
test composite printed. -/
structure Judged (submitted : List (Submission σ)) (outcome : Except LaunchError Unit) : Prop where
  submitError : ∀ cause, Execution.firstError? submitted = some cause → outcome = .error cause
  verdict : Execution.firstError? submitted = none → ∃ handle,
    (submitted.filterMap Submission.started?).getLast? = some (.tests, handle) ∧
    outcome = handle.verify Marker.pass

theorem Judged.refused {submitted : List (Submission σ)} {cause : LaunchError}
    (failure : Execution.firstError? submitted = some cause) : Judged submitted (.error cause) := by
  constructor
  · intro other found
    exact congrArg Except.error (Option.some.inj (failure.symm.trans found))
  · intro none
    rw [failure] at none
    cases none

theorem Judged.accepted {submitted : List (Submission σ)} {last : Submission σ} {handle : Handle}
    (succeeded : Execution.firstError? submitted = none) (tested : last.subject.1 = .tests)
    (answered : last.ending = .ok handle) :
    Judged (submitted ++ [last]) (handle.verify Marker.pass) := by
  have started : last.started? = some (.tests, handle) := by
    rw [Submission.started?, answered, tested]
  constructor
  · intro cause found
    rw [Execution.firstError?_append, succeeded, Option.none_or] at found
    simp [Execution.firstError?, Execution.error?, answered] at found
  · intro _
    refine ⟨handle, ?_, rfl⟩
    rw [List.filterMap_append, List.filterMap_cons_some started]
    exact List.getLast?_concat

theorem submitAndVerify_chain (check : CompositeCheck) (state : σ) :
    ∃ before test submitted between outcome,
      setup.topologies check = .ok (before ++ [test]) ∧
      Chain (submit setup tests jobs) state submitted between ∧
      Followed Execution.Succeeded (·.subject)
        (before.map (Prod.mk .jobs) ++ [(.tests, test)]) submitted ∧
      check.submitAndVerify setup tests jobs state =
        ((kept tests jobs submitted, outcome), between) ∧
      Judged submitted outcome := by
  obtain ⟨before, test, earlier, tested, topologies⟩ := topologies_eq_ok setup check
  obtain ⟨first, between, chain, followed, all⟩ := submitAll_chain setup tests jobs .jobs before state
  simp only [Role.submitter] at all
  refine ⟨before, test, ?_⟩
  rcases failure : Execution.firstError? first with _ | cause
  · have succeeded := (Execution.firstError?_eq_none_iff first).1 failure
    simp only [Execution.outcome, failure] at all
    rcases answered : submit setup tests jobs (.tests, test) between with ⟨cause | handle, last⟩
    · -- The test composite was refused: it left no handle, but the jobs before it did.
      have refused : tests.submit test setup.config.toMap between = (.error cause, last) := answered
      refine ⟨first ++ [⟨(.tests, test), between, .error cause, last⟩], last, .error cause, topologies,
        chain.append (.cons _ answered .nil), followed.append succeeded (.cut rfl nofun), ?_, ?_⟩
      · simp only [submitAndVerify, earlier, tested, all, refused, kept_append]
        exact congrArg (fun started => ((started, _), last)) (List.append_nil _).symm
      · refine .refused ?_
        rw [Execution.firstError?_append, failure]
        rfl
    · have accepted : tests.submit test setup.config.toMap between = (.ok handle, last) := answered
      refine ⟨first ++ [⟨(.tests, test), between, .ok handle, last⟩], last,
        handle.verify Marker.pass, topologies, chain.append (.cons _ answered .nil),
        followed.append succeeded (.cons rfl ⟨handle, rfl⟩ .nil), ?_, .accepted failure rfl rfl⟩
      simp only [submitAndVerify, earlier, tested, all, accepted, kept_append]
      rfl
  · -- A job that runs before was refused, so that the test composite is not submitted.
    obtain ⟨stopped, member, fails⟩ := Execution.exists_of_firstError? failure
    refine ⟨first, between, .error cause, topologies, chain, followed.append_left member fails _, ?_,
      .refused failure⟩
    simp only [submitAndVerify, earlier, tested, all, Execution.outcome, failure]

/-- A check either refuses a submitter that captures no output, and does nothing at all, or it
cancels exactly what it started. -/
theorem run_course (check : CompositeCheck) (setup : CheckSetup) (tests jobs : Submitter σ)
    (state : σ) :
    if tests.capturesOutput then
      ∃ before test submitted between cancelled,
        setup.topologies check = .ok (before ++ [test]) ∧
        Course setup tests jobs (before.map (Prod.mk .jobs) ++ [(.tests, test)]) state submitted
          between cancelled (check.run setup tests jobs state).1 (check.run setup tests jobs state).2
    else check.run setup tests jobs state =
      (.error (.submit tests.context (.checkNeedsOutput check.jobName Marker.pass)), state) := by
  unfold CompositeCheck.run
  split
  · obtain ⟨before, test, submitted, between, outcome, topologies, submissions, followed, verified,
      judged⟩ := submitAndVerify_chain setup tests jobs check state
    obtain ⟨cancelled, after, cancellations, backwards, cleared⟩ := Chain.firstError
      (cancel tests jobs) (submitted.filterMap Submission.started?).reverse between
    rw [← cancelAll_kept] at cleared
    refine ⟨before, test, submitted, between, cancelled, topologies, ?_⟩
    simp only [verified, cleared]
    rcases failure : Execution.firstError? submitted with _ | cause
    · obtain ⟨handle, last, rfl⟩ := judged.verdict failure
      refine
        { submissions := submissions
          followed := followed
          cancellations := cancellations
          backwards := backwards
          submitError := fun cause found => nomatch failure.symm.trans found
          verdict := fun _ => ⟨handle, last, ?_⟩
          passed := ?_ }
      · rcases handle.verify Marker.pass with cause | value <;> rfl
      · intro passed
        rcases verified : handle.verify Marker.pass with cause | value
        · rw [verified] at passed
          cases passed
        · rw [verified] at passed
          obtain ⟨output, printed, clean, marked⟩ := Handle.verify_eq_ok_iff.1 verified
          exact ⟨(Execution.firstError?_eq_none_iff submitted).1 failure,
            (Execution.outcome_eq_ok_iff cancelled).1 passed,
            handle, output, last, printed, clean, marked⟩
    · obtain rfl := judged.submitError cause failure
      exact
        { submissions := submissions
          followed := followed
          cancellations := cancellations
          backwards := backwards
          submitError := fun other found => congrArg Except.error (Option.some.inj (failure.symm.trans found))
          verdict := fun none => nomatch failure.symm.trans none
          passed := nofun }
  · rfl

end CompositeCheck

end ScenarioBench

import ScenarioBench.Bench.Wait
import ScenarioBench.Proofs.Execution
import ScenarioBench.Scenario.Scripted

/-! Waits under every schedule.

A schedule says what each look of a wait shows and when it is made. Between two looks the clock runs on for at
most the time that was asked for; a wait may wake early, and even at once, any number of times. Main statement:
the first look that is cancelled, shows the file or is made at the deadline ends the wait and gives its outcome,
in this order of rank, and no look comes later than the deadline. A wait whose deadline the clock cannot tell
does not time out, and waits of a run that was cancelled end at their first look.
-/

set_option autoImplicit false

namespace ScenarioBench

namespace Waiter

inductive Built : Waiter → Prop where
  | standard : Built (.standard defaultTimeoutSeconds defaultPollSeconds)
  | make (timeout poll : Nat) : Built (.make timeout poll)
  | withTimeout {waiter : Waiter} (timeout : Nat) : Built waiter → Built (waiter.withTimeout timeout)
  | withPoll {waiter : Waiter} (poll : Nat) : Built waiter → Built (waiter.withPoll poll)

theorem Built.shortestPoll_le {waiter : Waiter} (built : Built waiter) :
    shortestPoll ≤ waiter.poll := by
  induction built with
  | standard => decide
  | make timeout poll => exact Nat.le_max_right _ _
  | withTimeout timeout _ ih => exact ih
  | withPoll poll _ _ => exact Nat.le_max_right _ _

variable {waiter : Waiter} {start : Nat} {looks : Nat → Look}

theorem deadline?_eq_some_iff {deadline : Nat} :
    waiter.deadline? start = some deadline ↔
      deadline = start + waiter.timeout ∧ start + waiter.timeout < endOfTime := by
  unfold deadline?
  split
  · rename_i told
    simp only [Option.some.injEq, told, and_true]
    exact eq_comm
  · rename_i untold
    simp [untold]

def Decisive (waiter : Waiter) (start : Nat) (look : Look) : Prop :=
  look.cancelled = true ∨ look.present = true ∨
    (start + waiter.timeout < endOfTime ∧ start + waiter.timeout ≤ look.instant)

/-- What a look comes to that ends a wait: a cancellation goes before the file, and the file before the
deadline. -/
def ranked (look : Look) : WaitOutcome :=
  if look.cancelled then .cancelled else if look.present then .appeared else .timedOut

theorem verdict_eq_some_iff {look : Look} {outcome : WaitOutcome} :
    verdict (waiter.deadline? start) look = some outcome ↔
      waiter.Decisive start look ∧ outcome = ranked look := by
  unfold verdict Decisive ranked
  by_cases cancelled : look.cancelled = true
  · simp only [cancelled, if_true, true_or, true_and, Option.some.injEq]
    exact eq_comm
  by_cases present : look.present = true
  · simp only [cancelled, present, Bool.false_eq_true, if_true, if_false, true_or, or_true, true_and,
      Option.some.injEq]
    exact eq_comm
  -- Nothing but the clock is left to decide.
  simp only [cancelled, present, Bool.false_eq_true, if_false, false_or]
  by_cases told : start + waiter.timeout < endOfTime
  · rw [deadline?_eq_some_iff.2 ⟨rfl, told⟩]
    by_cases reached : start + waiter.timeout ≤ look.instant
    · simp only [reached, told, and_self, if_true, true_and, Option.some.injEq]
      exact eq_comm
    · simp [reached]
  · simp [deadline?, told]

theorem verdict_eq_none_iff {look : Look} :
    verdict (waiter.deadline? start) look = none ↔ ¬ waiter.Decisive start look := by
  rw [Option.eq_none_iff_forall_ne_some]
  constructor
  · intro undecided decisive
    exact undecided (ranked look) (verdict_eq_some_iff.2 ⟨decisive, rfl⟩)
  · intro indecisive outcome decided
    exact indecisive (verdict_eq_some_iff.1 decided).1

theorem slice_pos (built : waiter.Built) {look : Look} (indecisive : ¬ waiter.Decisive start look) :
    0 < waiter.slice (waiter.deadline? start) look := by
  have positive : 0 < waiter.poll := Nat.lt_of_lt_of_le (by decide) built.shortestPoll_le
  unfold slice
  rcases known : waiter.deadline? start with _ | deadline
  · exact positive
  · obtain ⟨rfl, told⟩ := deadline?_eq_some_iff.1 known
    have left : look.instant < start + waiter.timeout :=
      Nat.lt_of_not_le fun reached => indecisive (.inr (.inr ⟨told, reached⟩))
    exact Nat.lt_min.2 ⟨Nat.sub_pos_of_lt left, positive⟩

theorem slice_le_poll (waiter : Waiter) (deadline : Option Nat) (look : Look) :
    waiter.slice deadline look ≤ waiter.poll := by
  unfold slice
  split
  · exact Nat.min_le_right _ _
  · exact Nat.le_refl _

/-- What the looks of a wait may show if it goes on for long enough. The first is made at the start, and the
clock runs only while the wait is blocked; file and token may change in any way. -/
structure Schedule (waiter : Waiter) (start : Nat) (looks : Nat → Look) : Prop where
  begins : (looks 0).instant = start
  blocks : ∀ turn, ¬ waiter.Decisive start (looks turn) →
    (looks turn).instant ≤ (looks (turn + 1)).instant ∧
    (looks (turn + 1)).instant ≤
      (looks turn).instant + waiter.slice (waiter.deadline? start) (looks turn)

/-- A wait goes on up to a look, which gives its outcome. -/
structure EndsAt (waiter : Waiter) (start : Nat) (looks : Nat → Look) (turn : Nat)
    (outcome : WaitOutcome) : Prop where
  undecided : ∀ earlier < turn, verdict (waiter.deadline? start) (looks earlier) = none
  decided : verdict (waiter.deadline? start) (looks turn) = some outcome

theorem endsAt_iff {turn : Nat} {outcome : WaitOutcome} :
    waiter.EndsAt start looks turn outcome ↔
      (∀ earlier < turn, ¬ waiter.Decisive start (looks earlier)) ∧
        waiter.Decisive start (looks turn) ∧ outcome = ranked (looks turn) := by
  constructor
  · intro ends
    exact ⟨fun earlier before => verdict_eq_none_iff.1 (ends.undecided earlier before),
      verdict_eq_some_iff.1 ends.decided⟩
  · rintro ⟨indecisive, decisive⟩
    exact ⟨fun earlier before => verdict_eq_none_iff.2 (indecisive earlier before),
      verdict_eq_some_iff.2 decisive⟩

theorem EndsAt.unique {turn other : Nat} {outcome result : WaitOutcome}
    (ends : waiter.EndsAt start looks turn outcome) (again : waiter.EndsAt start looks other result) :
    other = turn ∧ result = outcome := by
  have same : other = turn := by
    rcases Nat.lt_trichotomy other turn with before | same | after
    · cases again.decided.symm.trans (ends.undecided other before)
    · exact same
    · cases ends.decided.symm.trans (again.undecided turn after)
  subst same
  exact ⟨rfl, Option.some.inj (again.decided.symm.trans ends.decided)⟩

theorem outcome?_range (turns : Nat) (outcome : WaitOutcome) :
    waiter.outcome? start ((List.range turns).map looks) = some outcome ↔
      ∃ turn < turns, waiter.EndsAt start looks turn outcome := by
  induction turns generalizing outcome with
  | zero => simp [outcome?]
  | succ turns ih =>
    simp only [outcome?] at ih ⊢
    rw [List.range_succ, List.map_append, List.findSome?_append]
    rcases earlier : ((List.range turns).map looks).findSome? (verdict (waiter.deadline? start))
      with _ | other
    · -- Nothing ended it before, so that the last look is what counts.
      have undecided : ∀ turn < turns, verdict (waiter.deadline? start) (looks turn) = none := by
        simpa using earlier
      simp only [List.map_cons, List.map_nil, List.findSome?_singleton, Option.none_or]
      constructor
      · intro last
        exact ⟨turns, Nat.lt_succ_self turns, undecided, last⟩
      · rintro ⟨turn, before, ends⟩
        rcases Nat.lt_or_eq_of_le (Nat.le_of_lt_succ before) with past | rfl
        · cases ends.decided.symm.trans (undecided turn past)
        · exact ends.decided
    · obtain ⟨turn, before, ends⟩ := (ih other).1 earlier
      rw [Option.some_or]
      constructor
      · rintro ⟨⟩
        exact ⟨turn, Nat.lt_succ_of_lt before, ends⟩
      · rintro ⟨again, -, result⟩
        rw [(ends.unique result).2]

def Runs (waiter : Waiter) (start : Nat) (looks : Nat → Look) : Prop :=
  ∀ turn, ∃ later, turn ≤ later ∧
    (waiter.Decisive start (looks later) ∨ (looks later).instant ≠ (looks (later + 1)).instant)

namespace Schedule

theorem instant_le (schedule : waiter.Schedule start looks)
    (told : start + waiter.timeout < endOfTime) {turn : Nat}
    (indecisive : ∀ earlier < turn, ¬ waiter.Decisive start (looks earlier)) :
    (looks turn).instant ≤ start + waiter.timeout := by
  -- By induction on the looks: a block is asked to last until the deadline at most.
  induction turn with
  | zero =>
    rw [schedule.begins]
    exact Nat.le_add_right _ _
  | succ turn ih =>
    have before := ih fun earlier less => indecisive earlier (Nat.lt_succ_of_lt less)
    have blocked := (schedule.blocks turn (indecisive turn (Nat.lt_succ_self turn))).2
    have asked : waiter.slice (waiter.deadline? start) (looks turn) ≤
        start + waiter.timeout - (looks turn).instant := by
      rw [deadline?_eq_some_iff.2 ⟨rfl, told⟩]
      exact Nat.min_le_left _ _
    omega

theorem exists_instant_ge (schedule : waiter.Schedule start looks) (runs : waiter.Runs start looks)
    (never : ∀ turn, ¬ waiter.Decisive start (looks turn)) (elapsed : Nat) :
    ∃ turn, start + elapsed ≤ (looks turn).instant := by
  have onwards : ∀ turn steps, (looks turn).instant ≤ (looks (turn + steps)).instant := by
    intro turn steps
    induction steps with
    | zero => exact Nat.le_refl _
    | succ steps ih => exact Nat.le_trans ih (schedule.blocks (turn + steps) (never _)).1
  induction elapsed with
  | zero => exact ⟨0, Nat.le_of_eq schedule.begins.symm⟩
  | succ elapsed ih =>
    obtain ⟨turn, reached⟩ := ih
    -- Some block takes time at last, and the clock never goes back before it.
    obtain ⟨later, notBefore, decisive | moved⟩ := runs turn
    · exact absurd decisive (never later)
    obtain ⟨steps, rfl⟩ := Nat.exists_eq_add_of_le notBefore
    have forward := onwards turn steps
    have further := (schedule.blocks (turn + steps) (never _)).1
    exact ⟨turn + steps + 1, by omega⟩

theorem exists_endsAt (schedule : waiter.Schedule start looks) (runs : waiter.Runs start looks)
    (told : start + waiter.timeout < endOfTime) :
    ∃ turn outcome, waiter.EndsAt start looks turn outcome := by
  -- A look that is decisive has a first one before it, so that an endless wait has no decisive look at all.
  refine Classical.byContradiction fun endless => ?_
  have never : ∀ turn, ¬ waiter.Decisive start (looks turn) := by
    intro turn
    induction turn using Nat.strongRecOn with
    | ind turn ih =>
      intro decisive
      exact endless ⟨turn, _, endsAt_iff.2 ⟨ih, decisive, rfl⟩⟩
  obtain ⟨turn, reached⟩ := schedule.exists_instant_ge runs never waiter.timeout
  exact never turn (.inr (.inr ⟨told, reached⟩))

end Schedule

theorem Decisive.outcomeStill {look : Look} (decisive : waiter.Decisive start look) :
    waiter.outcomeStill look.cancelled look.present = some (ranked look) := by
  rw [outcomeStill_eq, ranked]
  rcases decisive with cancelled | present | ⟨told, -⟩
  · simp [cancelled]
  · by_cases cancelled : look.cancelled = true <;> simp [cancelled, present]
  · have limited : waiter.Limited := Nat.lt_of_le_of_lt (Nat.le_add_left _ _) told
    simp only [limited, if_true]
    split
    · rfl
    · split <;> rfl

structure Course (waiter : Waiter) (start : Nat) (looks : Nat → Look) : Prop where
  ends_iff : ∀ turn outcome, waiter.EndsAt start looks turn outcome ↔
    (∀ earlier < turn, ¬ waiter.Decisive start (looks earlier)) ∧
      waiter.Decisive start (looks turn) ∧ outcome = ranked (looks turn)
  outcome_iff : ∀ turns outcome,
    waiter.outcome? start ((List.range turns).map looks) = some outcome ↔
      ∃ turn < turns, waiter.EndsAt start looks turn outcome
  paced : ∀ turn, ¬ waiter.Decisive start (looks turn) →
    0 < waiter.slice (waiter.deadline? start) (looks turn) ∧
    waiter.slice (waiter.deadline? start) (looks turn) ≤ waiter.poll ∧
    (looks (turn + 1)).instant ≤ (looks turn).instant + waiter.poll
  timely : start + waiter.timeout < endOfTime → ∀ turn,
    (∀ earlier < turn, ¬ waiter.Decisive start (looks earlier)) →
    (looks turn).instant ≤ start + waiter.timeout
  ends : start + waiter.timeout < endOfTime → waiter.Runs start looks →
    ∃ turn outcome, waiter.EndsAt start looks turn outcome ∧
      (looks turn).instant ≤ start + waiter.timeout + waiter.poll
  timedOut : ∀ turn, waiter.EndsAt start looks turn .timedOut →
    start + waiter.timeout < endOfTime ∧ (looks turn).instant = start + waiter.timeout ∧
      (looks turn).present = false ∧ (looks turn).cancelled = false
  /-- A wait whose deadline cannot be told never times out. -/
  unlimited : endOfTime ≤ start + waiter.timeout → ∀ turn, ¬ waiter.EndsAt start looks turn .timedOut
  cancelled : (looks 0).cancelled = true → waiter.EndsAt start looks 0 .cancelled
  still : ∀ cancelled present,
    (∀ turn, (looks turn).cancelled = cancelled ∧ (looks turn).present = present) →
    ∀ turn outcome, waiter.EndsAt start looks turn outcome →
      waiter.outcomeStill cancelled present = some outcome

theorem ranked_eq_timedOut_iff {look : Look} :
    ranked look = .timedOut ↔ look.present = false ∧ look.cancelled = false := by
  unfold ranked
  by_cases cancelled : look.cancelled = true
  · simp [cancelled]
  · by_cases present : look.present = true <;> simp [cancelled, present]

theorem Schedule.timedOut (schedule : waiter.Schedule start looks) {turn : Nat}
    (ends : waiter.EndsAt start looks turn .timedOut) :
    start + waiter.timeout < endOfTime ∧ (looks turn).instant = start + waiter.timeout ∧
      (looks turn).present = false ∧ (looks turn).cancelled = false := by
  obtain ⟨indecisive, decisive, outcome⟩ := endsAt_iff.1 ends
  obtain ⟨absent, uncancelled⟩ := ranked_eq_timedOut_iff.1 outcome.symm
  obtain ⟨told, reached⟩ : start + waiter.timeout < endOfTime ∧
      start + waiter.timeout ≤ (looks turn).instant := by
    simpa [Decisive, absent, uncancelled] using decisive
  exact ⟨told, Nat.le_antisymm (schedule.instant_le told indecisive) reached, absent, uncancelled⟩

theorem Schedule.course (schedule : waiter.Schedule start looks) (built : waiter.Built) :
    waiter.Course start looks := by
  constructor
  case ends_iff => exact fun _ _ => endsAt_iff
  case outcome_iff => exact outcome?_range
  case paced =>
    intro turn indecisive
    have asked := slice_le_poll waiter (waiter.deadline? start) (looks turn)
    refine ⟨slice_pos built indecisive, asked, ?_⟩
    exact Nat.le_trans (schedule.blocks turn indecisive).2 (Nat.add_le_add_left asked _)
  case timely => exact fun told turn => schedule.instant_le told
  case ends =>
    intro told runs
    obtain ⟨turn, outcome, ends⟩ := schedule.exists_endsAt runs told
    refine ⟨turn, outcome, ends, Nat.le_trans ?_ (Nat.le_add_right _ _)⟩
    exact schedule.instant_le told (endsAt_iff.1 ends).1
  case timedOut => exact fun turn => schedule.timedOut
  case unlimited =>
    intro untold turn ends
    exact absurd (schedule.timedOut ends).1 (Nat.not_lt.2 untold)
  case cancelled =>
    intro begun
    refine endsAt_iff.2 ⟨fun earlier before => absurd before (Nat.not_lt_zero earlier), .inl begun, ?_⟩
    rw [ranked, if_pos begun]
  case still =>
    rintro _ _ shows turn outcome ends
    obtain ⟨-, decisive, rfl⟩ := endsAt_iff.1 ends
    rw [← (shows turn).1, ← (shows turn).2, decisive.outcomeStill]

end Waiter

namespace World

def StaysCancelled (before after : World) : Prop :=
  before.cancelled = true → after.cancelled = true

instance : Std.Refl StaysCancelled :=
  ⟨fun _ => id⟩

instance : Trans StaysCancelled StaysCancelled StaysCancelled :=
  ⟨fun first second cancelled => second (first cancelled)⟩

end World

theorem CommandRunner.steady_staysCancelled (runner : CommandRunner) :
    runner.Steady World.StaysCancelled where
  tree _ _ := id
  cancel _ _ := rfl
  command world command cancelled := by simp [World.answered, cancelled]

def performIn (job : Context × Step) : Act HarnessError StepValue :=
  job.2.perform job.1

theorem performIn_waitFor (context : Context) (name : String) {world : World}
    (cancelled : world.cancelled = true) :
    performIn (context, .waitFor name) world = (.ok (.waited (some .cancelled)), world) := by
  have waited : context.waitFor name world = (.ok (some .cancelled), world) := by
    rw [context.waitFor_apply, cancelled, Waiter.outcomeStill_eq, if_pos rfl]
  exact Action.bind_of_ok waited _

/-- What comes of the waits of a run once it was cancelled: whatever steps are made, none takes the
cancellation back, and each wait among them ends as cancelled. -/
def CancelsWaits (executions : List (Execution World HarnessError StepValue (Context × Step))) : Prop :=
  ∀ execution ∈ executions, execution.before.cancelled = true ∧
    ∀ name, execution.subject.2 = .waitFor name →
      execution.ending = .ok (.waited (some .cancelled)) ∧ execution.after = execution.before

theorem Chain.cancelsWaits {world after : World}
    {executions : List (Execution World HarnessError StepValue (Context × Step))}
    (chain : Chain performIn world executions after) (cancelled : world.cancelled = true) :
    CancelsWaits executions := by
  have kept : ∀ (job : Context × Step) (state : World), state.cancelled = true →
      (performIn job state).2.cancelled = true :=
    fun job => job.2.perform_follows job.1 job.1.runner.steady_staysCancelled
  intro execution member
  have before := chain.holds_before kept cancelled execution member
  refine ⟨before, fun name waits => ?_⟩
  have performed := chain.performed execution member
  rcases execution with ⟨⟨context, step⟩, begun, ending, left⟩
  obtain rfl : step = .waitFor name := waits
  rw [performIn_waitFor context name before] at performed
  exact ⟨(Prod.ext_iff.1 performed).1.symm, (Prod.ext_iff.1 performed).2.symm⟩

/-- What comes of the waits among steps: a wait leaves the world as it is, and it ends exactly where there is something
to end it. -/
def SettlesWaits (executions : List (Execution World HarnessError StepValue (Context × Step))) : Prop :=
  ∀ execution ∈ executions, ∀ name, execution.subject.2 = .waitFor name →
    execution.after = execution.before ∧
    ((∃ outcome, execution.ending = .ok (.waited (some outcome))) ↔
      execution.subject.1.WaitEnds name execution.before)

theorem Chain.settlesWaits {world after : World}
    {executions : List (Execution World HarnessError StepValue (Context × Step))}
    (chain : Chain performIn world executions after) : SettlesWaits executions := by
  intro execution member name waits
  have performed := chain.performed execution member
  rcases execution with ⟨⟨context, step⟩, begun, ending, left⟩
  obtain rfl : step = .waitFor name := waits
  have waited : performIn (context, .waitFor name) begun =
      (.ok (.waited (context.waiter.outcomeStill begun.cancelled (begun.tree.pathExists (context.path name)))),
        begun) :=
    Action.bind_of_ok (context.waitFor_apply name begun) _
  obtain ⟨rfl, rfl⟩ := Prod.mk.inj (waited.symm.trans performed)
  refine ⟨rfl, Iff.trans ?_ (context.waitFor_ends_iff name begun)⟩
  simp

/-- A wait follows its schedule, whatever the file, the token and the clock do. In a run a cancellation ends every wait
that comes after it, and a wait that nothing ends is told as such. -/
theorem waits_follow_schedules (waiter : Waiter) (built : waiter.Built) :
    (∀ start looks, waiter.Schedule start looks → waiter.Course start looks) ∧
    (∀ world executions after, world.cancelled = true → Chain performIn world executions after →
      CancelsWaits executions) ∧
    ∀ world executions after, Chain performIn world executions after → SettlesWaits executions :=
  ⟨fun _ _ schedule => schedule.course built, fun _ _ _ cancelled chain => chain.cancelsWaits cancelled,
    fun _ _ _ chain => chain.settlesWaits⟩

def briefWaiter : Waiter :=
  .make (300 * Waiter.nanosecondsPerMillisecond) (20 * Waiter.nanosecondsPerMillisecond)

def lateFile (turn : Nat) : Look where
  instant := 5 + [0, 0, 20, 25].getD (min turn 3) 0 * Waiter.nanosecondsPerMillisecond
  cancelled := false
  present := decide (3 ≤ turn)

theorem lateFile_schedule : briefWaiter.Schedule 5 lateFile := by
  constructor
  case begins => rfl
  case blocks =>
    intro turn indecisive
    have early : turn < 3 := Nat.lt_of_not_le fun late =>
      indecisive (.inr (.inl (decide_eq_true late)))
    obtain rfl | rfl | rfl : turn = 0 ∨ turn = 1 ∨ turn = 2 := by omega
    all_goals decide

def cancelledWorld : World :=
  { World.fresh ⟨[([Octets.ofText "done_1"], .file [] false)], [], by decide, by decide, FileTree.named_nil⟩ with
    cancelled := true }

def briefContext : Context where
  workdir := .ofText "/"
  environment := .empty
  runner := fun _ tree _ => ⟨.ok ⟨"", "", 0⟩, tree, false⟩
  make := "make"
  waiter := briefWaiter
  logArchives := Marker.logArchives

theorem waits_follow_schedules_lateFile :
    (briefWaiter.Built ∧ briefWaiter.Schedule 5 lateFile ∧ briefWaiter.Course 5 lateFile ∧
      briefWaiter.EndsAt 5 lateFile 3 .appeared) ∧
    cancelledWorld.cancelled = true ∧
      ∃ ending after, Chain performIn cancelledWorld
        [⟨(briefContext, .waitFor "done_1"), cancelledWorld, ending, after⟩] after ∧
      ending = .ok (.waited (some .cancelled)) ∧ after = cancelledWorld := by
  have built : briefWaiter.Built := .make _ _
  have course := (waits_follow_schedules briefWaiter built).1 5 lateFile lateFile_schedule
  have chain : Chain performIn cancelledWorld [⟨(briefContext, .waitFor "done_1"), cancelledWorld,
      (performIn (briefContext, .waitFor "done_1") cancelledWorld).1,
      (performIn (briefContext, .waitFor "done_1") cancelledWorld).2⟩]
      (performIn (briefContext, .waitFor "done_1") cancelledWorld).2 :=
    .cons _ rfl .nil
  have waits := (waits_follow_schedules briefWaiter built).2.1 cancelledWorld _ _ rfl chain
  refine ⟨⟨built, lateFile_schedule, course, ?_⟩, rfl, _, _, chain, ?_⟩
  · refine (course.ends_iff 3 .appeared).2 ⟨fun earlier before => ?_, .inr (.inl rfl), rfl⟩
    obtain rfl | rfl | rfl : earlier = 0 ∨ earlier = 1 ∨ earlier = 2 := by omega
    all_goals (rintro (shown | shown | shown) <;> revert shown <;> decide)
  · exact (waits _ List.mem_cons_self).2 "done_1" rfl

end ScenarioBench

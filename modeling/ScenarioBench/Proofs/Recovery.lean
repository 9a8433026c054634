import ScenarioBench.Proofs.Execution

/-! Plans with a cleanup.

A plan is followed up to the first execution that fails, and what was begun is cleaned up afterwards. Which
cleanup that is may depend on where the plan stopped, and which error counts is a matter of rank. An action
that recovers a plan is told by the executions of the plan and those of the cleanup, in one chain.
-/

set_option autoImplicit false

namespace ScenarioBench

variable {σ ε ι : Type}

namespace Execution

variable {execution : Execution σ ε Unit ι} {rest : List (Execution σ ε Unit ι)}

def failed? (executions : List (Execution σ ε Unit ι)) : Option ι :=
  executions.findSome? fun execution => execution.error?.map fun _ => execution.subject

@[simp] theorem firstError?_cons_of_succeeded (succeeded : execution.Succeeded) :
    firstError? (execution :: rest) = firstError? rest := by
  rw [firstError?, List.findSome?_cons, (error?_eq_none_iff execution).2 succeeded]
  rfl

@[simp] theorem failed?_cons_of_succeeded (succeeded : execution.Succeeded) :
    failed? (execution :: rest) = failed? rest := by
  rw [failed?, List.findSome?_cons, (error?_eq_none_iff execution).2 succeeded]
  rfl

@[simp] theorem failed?_eq_none_iff (executions : List (Execution σ ε Unit ι)) :
    failed? executions = none ↔ ∀ execution ∈ executions, execution.Succeeded := by
  simp only [failed?, List.findSome?_eq_none_iff, Option.map_eq_none_iff, error?_eq_none_iff]

theorem failed?_append_singleton {before : List (Execution σ ε Unit ι)}
    (passed : ∀ earlier ∈ before, earlier.Succeeded) (fails : ¬ execution.Succeeded) :
    failed? (before ++ [execution]) = some execution.subject := by
  obtain ⟨cause, error⟩ :=
    Option.ne_none_iff_exists'.1 (mt (error?_eq_none_iff execution).1 fails)
  rw [failed?, List.findSome?_append, ← failed?, (failed?_eq_none_iff before).2 passed, Option.none_or,
    List.findSome?_singleton, error, Option.map_some]

theorem mem_of_mem_append_failing {before : List (Execution σ ε Unit ι)}
    {failing : Execution σ ε Unit ι} (member : execution ∈ before ++ [failing])
    (fails : ¬ failing.Succeeded) (succeeded : execution.Succeeded) : execution ∈ before := by
  rcases List.mem_append.1 member with earlier | last
  · exact earlier
  · rw [List.mem_singleton.1 last] at succeeded
    exact absurd succeeded fails

@[simp] def endingOf : Option ε → Except ε Unit
  | none => .ok ()
  | some cause => .error cause

theorem outcome_eq_endingOf (executions : List (Execution σ ε Unit ι)) :
    outcome executions = endingOf (firstError? executions) := by
  unfold outcome
  cases firstError? executions <;> rfl

end Execution

/-- A plan is followed and cleaned up after, depending on the subject that stopped it. -/
structure Recovery (perform : ι → Action σ ε Unit) (plan : List ι) (cleanup : Option ι → List ι)
    (state : σ) (run : List (Execution σ ε Unit ι)) (between : σ)
    (cleared : List (Execution σ ε Unit ι)) (after : σ) : Prop where
  ran : Chain perform state run between
  followed : Followed Execution.Succeeded (·.subject) plan run
  clearing : Chain perform between cleared after
  whole : cleared.map (·.subject) = cleanup (Execution.failed? run)

section
variable {plan : List ι} {run : List (Execution σ ε Unit ι)} {task : ι}

theorem Followed.split_of_failed? (followed : Followed Execution.Succeeded (·.subject) plan run)
    (failed : Execution.failed? run = some task) :
    ∃ before failing, run = before ++ [failing] ∧ failing.subject = task ∧ ¬ failing.Succeeded ∧
      ∀ execution ∈ before, execution.Succeeded := by
  obtain ⟨failing, member, ended⟩ := List.exists_of_findSome?_eq_some failed
  obtain ⟨cause, error, rfl⟩ := Option.map_eq_some_iff.1 ended
  have fails : ¬ failing.Succeeded := by
    rw [← Execution.error?_eq_none_iff, error]
    exact Option.some_ne_none cause
  obtain ⟨before, rfl, succeeded⟩ := followed.stopped failing member fails
  exact ⟨before, failing, rfl, rfl, fails, succeeded⟩

theorem Followed.related_of_failed? {relation : ι → ι → Prop} {execution : Execution σ ε Unit ι}
    (followed : Followed Execution.Succeeded (·.subject) plan run) (ordered : plan.Pairwise relation)
    (member : execution ∈ run) (succeeded : execution.Succeeded)
    (failed : Execution.failed? run = some task) : relation execution.subject task := by
  obtain ⟨before, failing, rfl, rfl, fails, -⟩ := followed.split_of_failed? failed
  have earlier := Execution.mem_of_mem_append_failing member fails succeeded
  have done := ordered.sublist followed.inOrder.sublist
  rw [List.map_append, List.pairwise_append] at done
  exact done.2.2 _ (List.mem_map_of_mem earlier) _ (List.mem_map_of_mem (List.mem_singleton_self _))

end

/-- A task is performed, and when it fails, others are performed after it; how those end is not told. -/
def Guards (perform : ι → Action σ ε Unit) (task : ι) (tasks : List ι) (guarded : Action σ ε Unit) :
    Prop :=
  ∀ state, guarded state = match (perform task state).1 with
    | .ok () => (.ok (), (perform task state).2)
    | .error cause =>
      (.error cause, (Action.firstError (tasks.map perform) (perform task state).2).2)

/-- An action follows a plan and cleans up after it; `rank` chooses between the error of the plan and that
of the cleanup. -/
def Recovers (perform : ι → Action σ ε Unit) (plan : List ι) (cleanup : Option ι → List ι)
    (rank : Option ε → Option ε → Option ε) (action : Action σ ε Unit) : Prop :=
  ∀ state, ∃ run between cleared after,
    Recovery perform plan cleanup state run between cleared after ∧
    action state =
      (Execution.endingOf (rank (Execution.firstError? run) (Execution.firstError? cleared)), after)

namespace Recovers

variable {perform : ι → Action σ ε Unit} {plan tasks : List ι} {cleanup : Option ι → List ι}
  {rank : Option ε → Option ε → Option ε} {task : ι} {action guarded : Action σ ε Unit}

theorem finish (unfailing : ∀ error, rank none error = error) :
    Recovers perform [] cleanup rank (Action.firstError ((cleanup none).map perform)) := by
  intro state
  obtain ⟨cleared, after, clearing, whole, ended⟩ := Chain.firstError perform (cleanup none) state
  refine ⟨[], state, cleared, after, ⟨.nil, .nil, clearing, whole⟩, ?_⟩
  rw [ended, Execution.outcome_eq_endingOf]
  exact congrArg (fun error => (Execution.endingOf error, after)) (unfailing _).symm

theorem guard
    (told : ∀ cause (cleared : List (Execution σ ε Unit ι)),
      cleared.map (·.subject) = cleanup (some task) →
      rank (some cause) (Execution.firstError? cleared) = some cause)
    (guards : Guards perform task (cleanup (some task)) guarded)
    (rest : Recovers perform plan cleanup rank action) :
    Recovers perform (task :: plan) cleanup rank (guarded >>= fun _ => action) := by
  intro state
  have met := guards state
  rcases performed : perform task state with ⟨cause | value, between⟩
  · -- The plan stops here, and the cleanup begins in the state that the failure left.
    obtain ⟨cleared, after, clearing, whole, ended⟩ :=
      Chain.firstError perform (cleanup (some task)) between
    simp only [performed, ended] at met
    refine ⟨_, between, cleared, after,
      ⟨.cons task performed .nil, .cut rfl Execution.not_succeeded_error, clearing, whole⟩, ?_⟩
    rw [Action.bind_of_error met]
    exact congrArg (fun error => (Execution.endingOf error, after)) (told cause cleared whole).symm
  · simp only [performed] at met
    obtain ⟨run, middle, cleared, after, recovery, ended⟩ := rest between
    have succeeded : (⟨task, state, .ok value, between⟩ : Execution σ ε Unit ι).Succeeded :=
      ⟨value, rfl⟩
    refine ⟨_, middle, cleared, after, ⟨.cons task performed recovery.ran,
      .cons rfl succeeded recovery.followed, recovery.clearing, ?_⟩, ?_⟩
    · rw [recovery.whole, Execution.failed?_cons_of_succeeded succeeded]
    · rw [Action.bind_of_ok met, ended, Execution.firstError?_cons_of_succeeded succeeded]

theorem cons (bare : cleanup (some task) = []) (told : ∀ cause, rank (some cause) none = some cause)
    (rest : Recovers perform plan cleanup rank action) :
    Recovers perform (task :: plan) cleanup rank (perform task >>= fun _ => action) := by
  refine guard (fun cause cleared whole => ?_) (fun state => ?_) rest
  · rw [bare, List.map_eq_nil_iff] at whole
    rw [whole]
    exact told cause
  · rw [bare]
    rcases perform task state with ⟨cause | value, after⟩ <;> rfl

theorem always (perform : ι → Action σ ε Unit) (plan tasks : List ι) :
    Recovers perform plan (fun _ => tasks) .or (do
      let run ← Action.attempt (plan.forM perform)
      let cleared ← Action.attempt (Action.firstError (tasks.map perform))
      Action.settled run
      Action.settled cleared) := by
  intro state
  obtain ⟨run, between, ran, followed, runEnd⟩ := Chain.forM perform plan state
  obtain ⟨cleared, after, clearing, whole, clearedEnd⟩ := Chain.firstError perform tasks between
  refine ⟨run, between, cleared, after, ⟨ran, followed, clearing, whole⟩, ?_⟩
  simp only [Action.bind_apply, Action.attempt_apply, runEnd, clearedEnd, Execution.outcome_eq_endingOf]
  -- Both were attempted, so that only the choice between their errors is left.
  rcases Execution.firstError? run with _ | cause <;>
    rcases Execution.firstError? cleared with _ | other <;> rfl

end Recovers

end ScenarioBench

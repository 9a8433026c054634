import ScenarioBench.Bench.Action

/-! Executions in a row.

What is executed begins in a state, ends with a value or an error, and leaves another state. Executions
form a chain when each begins in the state that the one before it left, so a chain accounts for
everything that happened between its two ends. A plan is followed up to the first entry after which
nothing goes on; what an action does with a list of subjects is told as a chain that follows a plan.
-/

set_option autoImplicit false

namespace ScenarioBench

section
variable {ι β : Type}

/-- A plan is followed in order, up to the first entry after which nothing goes on. -/
structure Followed (goesOn : β → Prop) (subject : β → ι) (plan : List ι) (done : List β) : Prop where
  inOrder : done.map subject <+: plan
  whole : (∀ entry ∈ done, goesOn entry) → done.map subject = plan
  stopped : ∀ entry ∈ done, ¬ goesOn entry →
    ∃ before, done = before ++ [entry] ∧ ∀ earlier ∈ before, goesOn earlier

namespace Followed

variable {goesOn : β → Prop} {subject : β → ι} {plan : List ι} {done : List β} {entry : β}
  {first : ι}

theorem nil : Followed goesOn subject [] [] :=
  ⟨List.prefix_refl _, fun _ => rfl, fun _ member => nomatch member⟩

theorem cut (planned : subject entry = first) (stops : ¬ goesOn entry) :
    Followed goesOn subject (first :: plan) [entry] := by
  subst planned
  refine ⟨?_, fun all => ?_, fun other member _ => ?_⟩
  · exact List.cons_prefix_cons.2 ⟨rfl, List.nil_prefix⟩
  · exact absurd (all entry List.mem_cons_self) stops
  · exact ⟨[], by rw [List.mem_singleton.1 member]; rfl, fun _ none => nomatch none⟩

theorem cons (planned : subject entry = first) (goes : goesOn entry)
    (followed : Followed goesOn subject plan done) :
    Followed goesOn subject (first :: plan) (entry :: done) := by
  subst planned
  refine ⟨?_, fun all => ?_, fun other member stops => ?_⟩
  · exact List.cons_prefix_cons.2 ⟨rfl, followed.inOrder⟩
  · rw [List.map_cons, followed.whole fun later among => all later (List.mem_cons_of_mem _ among)]
  · -- The entry that stops is a later one, because something goes on after this one.
    rcases List.mem_cons.1 member with rfl | among
    · exact absurd goes stops
    · obtain ⟨before, rfl, passed⟩ := followed.stopped other among stops
      refine ⟨entry :: before, rfl, fun earlier known => ?_⟩
      rcases List.mem_cons.1 known with rfl | known
      · exact goes
      · exact passed earlier known

theorem subject_mem (followed : Followed goesOn subject plan done) (member : entry ∈ done) :
    subject entry ∈ plan :=
  followed.inOrder.subset (List.mem_map_of_mem member)

theorem mem_dropLast {other : β} (followed : Followed goesOn subject plan done) (member : entry ∈ done)
    (stops : ¬ goesOn entry) (among : other ∈ done) (goes : goesOn other) :
    subject other ∈ plan.dropLast := by
  obtain ⟨before, rfl, -⟩ := followed.stopped entry member stops
  have earlier : other ∈ before := by
    rcases List.mem_append.1 among with earlier | last
    · exact earlier
    · rw [List.mem_singleton.1 last] at goes
      exact absurd goes stops
  -- What was done is a prefix of the plan and does not end with the earlier entries alone.
  obtain ⟨rest, rfl⟩ := followed.inOrder
  rw [List.map_append, List.append_assoc, List.dropLast_append_of_ne_nil (by simp)]
  exact List.mem_append_left _ (List.mem_map_of_mem earlier)

theorem append_left (followed : Followed goesOn subject plan done) (member : entry ∈ done)
    (stops : ¬ goesOn entry) (more : List ι) : Followed goesOn subject (plan ++ more) done :=
  ⟨followed.inOrder.trans (List.prefix_append plan more),
    fun all => absurd (all entry member) stops, followed.stopped⟩

theorem append {more : List ι} {others : List β} (followed : Followed goesOn subject plan done)
    (goes : ∀ entry ∈ done, goesOn entry) (next : Followed goesOn subject more others) :
    Followed goesOn subject (plan ++ more) (done ++ others) := by
  have ended := followed.whole goes
  refine ⟨?_, fun all => ?_, fun entry member stops => ?_⟩
  · rw [List.map_append, ended]
    exact (List.prefix_append_right_inj plan).2 next.inOrder
  · rw [List.map_append, ended, next.whole fun later among => all later (List.mem_append_right _ among)]
  · rcases List.mem_append.1 member with among | among
    · exact absurd (goes entry among) stops
    · obtain ⟨before, rfl, passed⟩ := next.stopped entry among stops
      refine ⟨done ++ before, (List.append_assoc _ _ _).symm, fun earlier known => ?_⟩
      exact (List.mem_append.1 known).elim (goes earlier) (passed earlier)

end Followed

end

variable {σ ε α ι : Type}

structure Execution (σ ε α ι : Type) where
  subject : ι
  before : σ
  ending : Except ε α
  after : σ

namespace Execution

def Succeeded (execution : Execution σ ε α ι) : Prop :=
  ∃ value, execution.ending = .ok value

theorem not_succeeded_error {subject : ι} {before after : σ} {cause : ε} :
    ¬ (⟨subject, before, .error cause, after⟩ : Execution σ ε α ι).Succeeded := by
  rintro ⟨value, ended⟩
  cases ended

def map {κ β : Type} (rename : ι → κ) (value : α → β) (execution : Execution σ ε α ι) :
    Execution σ ε β κ :=
  { subject := rename execution.subject, before := execution.before
    ending := execution.ending.map value, after := execution.after }

theorem succeeded_map_iff {κ β : Type} {rename : ι → κ} {value : α → β}
    {execution : Execution σ ε α ι} : (execution.map rename value).Succeeded ↔ execution.Succeeded := by
  obtain ⟨subject, before, cause | given, after⟩ := execution
  · exact iff_of_false not_succeeded_error not_succeeded_error
  · exact iff_of_true ⟨_, rfl⟩ ⟨_, rfl⟩

def error? (execution : Execution σ ε α ι) : Option ε :=
  match execution.ending with
  | .ok _ => none
  | .error cause => some cause

@[simp] theorem error?_eq_none_iff (execution : Execution σ ε α ι) :
    execution.error? = none ↔ execution.Succeeded := by
  unfold error? Succeeded
  split <;> simp_all

def firstError? (executions : List (Execution σ ε α ι)) : Option ε :=
  executions.findSome? error?

@[simp] theorem firstError?_eq_none_iff (executions : List (Execution σ ε α ι)) :
    firstError? executions = none ↔ ∀ execution ∈ executions, execution.Succeeded := by
  simp only [firstError?, List.findSome?_eq_none_iff, error?_eq_none_iff]

theorem exists_of_firstError? {executions : List (Execution σ ε α ι)} {cause : ε}
    (failed : firstError? executions = some cause) :
    ∃ execution ∈ executions, ¬ execution.Succeeded := by
  obtain ⟨execution, member, ended⟩ := List.exists_of_findSome?_eq_some failed
  refine ⟨execution, member, fun succeeded => ?_⟩
  rw [(error?_eq_none_iff execution).2 succeeded] at ended
  cases ended

@[simp] theorem firstError?_append (executions more : List (Execution σ ε α ι)) :
    firstError? (executions ++ more) = (firstError? executions).or (firstError? more) :=
  List.findSome?_append

def outcome (executions : List (Execution σ ε α ι)) : Except ε Unit :=
  match firstError? executions with
  | none => .ok ()
  | some cause => .error cause

@[simp] theorem outcome_eq_ok_iff (executions : List (Execution σ ε α ι)) :
    outcome executions = .ok () ↔ ∀ execution ∈ executions, execution.Succeeded := by
  rw [← firstError?_eq_none_iff]
  unfold outcome
  split <;> simp_all

end Execution

/-- Executions that lead from a state to another. -/
inductive Chain (perform : ι → Action σ ε α) : σ → List (Execution σ ε α ι) → σ → Prop where
  | nil {state : σ} : Chain perform state [] state
  | cons {state between last : σ} (subject : ι) {ending : Except ε α}
      {rest : List (Execution σ ε α ι)} : perform subject state = (ending, between) →
      Chain perform between rest last →
      Chain perform state (⟨subject, state, ending, between⟩ :: rest) last

theorem Chain.append {perform : ι → Action σ ε α} {state between last : σ}
    {executions more : List (Execution σ ε α ι)} (chain : Chain perform state executions between)
    (next : Chain perform between more last) : Chain perform state (executions ++ more) last := by
  induction chain with
  | nil => exact next
  | cons subject performed _ ih => exact .cons subject performed (ih next)

theorem Chain.uncons {perform : ι → Action σ ε α} {state last : σ} {execution : Execution σ ε α ι}
    {rest : List (Execution σ ε α ι)} (chain : Chain perform state (execution :: rest) last) :
    execution.before = state ∧
      perform execution.subject state = (execution.ending, execution.after) ∧
      Chain perform execution.after rest last := by
  cases chain with
  | cons subject performed others => exact ⟨rfl, performed, others⟩

theorem Chain.split {perform : ι → Action σ ε α} {state last : σ}
    {executions more : List (Execution σ ε α ι)} (chain : Chain perform state (executions ++ more) last) :
    ∃ between, Chain perform state executions between ∧ Chain perform between more last := by
  induction executions generalizing state with
  | nil => exact ⟨state, .nil, chain⟩
  | cons execution rest ih =>
    cases chain with
    | cons subject performed others =>
      obtain ⟨between, front, back⟩ := ih others
      exact ⟨between, .cons subject performed front, back⟩

/-- What holds after a chain and did not hold before it was brought about by one of the executions. -/
theorem Chain.exists_brings_about {perform : ι → Action σ ε α} {state last : σ}
    {executions : List (Execution σ ε α ι)} (chain : Chain perform state executions last)
    (holds : σ → Prop) (before : ¬ holds state) (after : holds last) :
    ∃ execution ∈ executions, ¬ holds execution.before ∧ holds execution.after := by
  induction chain with
  | nil => exact absurd after before
  | @cons state between _ _ _ _ _ _ ih =>
    by_cases already : holds between
    · exact ⟨_, List.mem_cons_self, before, already⟩
    · obtain ⟨execution, member, broughtAbout⟩ := ih already after
      exact ⟨execution, List.mem_cons_of_mem _ member, broughtAbout⟩

theorem Chain.holds_before {perform : ι → Action σ ε α} {state last : σ}
    {executions : List (Execution σ ε α ι)} (chain : Chain perform state executions last)
    {holds : σ → Prop} (kept : ∀ subject state, holds state → holds (perform subject state).2)
    (begins : holds state) : ∀ execution ∈ executions, holds execution.before := by
  induction chain with
  | nil => exact fun _ none => nomatch none
  | @cons state _ _ subject _ _ performed _ ih =>
    have still := kept subject state begins
    rw [performed] at still
    intro execution member
    rcases List.mem_cons.1 member with rfl | member
    · exact begins
    · exact ih still execution member

theorem Chain.performed {perform : ι → Action σ ε α} {state last : σ}
    {executions : List (Execution σ ε α ι)} (chain : Chain perform state executions last) :
    ∀ execution ∈ executions,
      perform execution.subject execution.before = (execution.ending, execution.after) := by
  induction chain with
  | nil => exact fun _ none => nomatch none
  | cons subject performed _ ih =>
    intro execution member
    rcases List.mem_cons.1 member with rfl | member
    · exact performed
    · exact ih execution member

theorem Chain.follows {perform : ι → Action σ ε α} {relation : σ → σ → Prop} [Std.Refl relation]
    [Trans relation relation relation] {state last : σ} {executions : List (Execution σ ε α ι)}
    (chain : Chain perform state executions last)
    (each : ∀ execution ∈ executions, (perform execution.subject).Follows relation) :
    relation state last := by
  induction chain with
  | nil => exact Std.Refl.refl _
  | @cons state _ _ subject _ _ performed _ ih =>
    have first := each _ List.mem_cons_self state
    rw [performed] at first
    exact Trans.trans first (ih fun later member => each later (List.mem_cons_of_mem _ member))

theorem Chain.single (perform : ι → Action σ ε α) (subject : ι) (state : σ) :
    ∃ executions, Chain perform state executions (perform subject state).2 ∧
      Followed Execution.Succeeded (·.subject) [subject] executions := by
  rcases performed : perform subject state with ⟨cause | value, after⟩
  · exact ⟨_, .cons subject performed .nil, .cut rfl Execution.not_succeeded_error⟩
  · exact ⟨_, .cons subject performed .nil, .cons rfl ⟨value, rfl⟩ .nil⟩

theorem Chain.forM (perform : ι → Action σ ε Unit) (subjects : List ι) (state : σ) :
    ∃ executions last, Chain perform state executions last ∧
      Followed Execution.Succeeded (·.subject) subjects executions ∧
      subjects.forM perform state = (Execution.outcome executions, last) := by
  induction subjects generalizing state with
  | nil => exact ⟨[], state, .nil, .nil, rfl⟩
  | cons subject rest ih =>
    rcases performed : perform subject state with ⟨cause | value, between⟩
    · exact ⟨_, between, .cons subject performed .nil, .cut rfl Execution.not_succeeded_error,
        Action.bind_of_error performed _⟩
    · obtain ⟨executions, last, chain, followed, others⟩ := ih between
      exact ⟨_, last, .cons subject performed chain, .cons rfl ⟨value, rfl⟩ followed,
        (Action.bind_of_ok performed _).trans others⟩

theorem Chain.mapM (perform : ι → Action σ ε α) (subjects : List ι) (state : σ) :
    ∃ executions last, Chain perform state executions last ∧
      Followed Execution.Succeeded (·.subject) subjects executions ∧
      (subjects.mapM perform state).2 = last := by
  induction subjects generalizing state with
  | nil => exact ⟨[], state, .nil, .nil, rfl⟩
  | cons subject rest ih =>
    rw [List.mapM_cons]
    rcases performed : perform subject state with ⟨cause | value, between⟩
    · rw [Action.bind_of_error performed]
      exact ⟨_, between, .cons subject performed .nil, .cut rfl Execution.not_succeeded_error, rfl⟩
    · obtain ⟨executions, last, chain, followed, others⟩ := ih between
      refine ⟨_, last, .cons subject performed chain, .cons rfl ⟨value, rfl⟩ followed, ?_⟩
      rw [Action.bind_of_ok performed, Action.bind_apply, ← others]
      rcases rest.mapM perform between with ⟨cause | values, after⟩ <;> rfl

theorem Chain.map {κ β : Type} {perform : ι → Action σ ε α} {other : κ → Action σ ε β}
    (rename : ι → κ) (value : α → β) {state last : σ} {executions : List (Execution σ ε α ι)}
    (chain : Chain perform state executions last)
    (same : ∀ execution ∈ executions, ∀ state, other (rename execution.subject) state =
      ((perform execution.subject state).1.map value, (perform execution.subject state).2)) :
    Chain other state (executions.map (Execution.map rename value)) last := by
  induction chain with
  | nil => exact .nil
  | @cons state _ _ subject _ _ performed _ ih =>
    refine .cons _ ?_ (ih fun execution member => same execution (List.mem_cons_of_mem _ member))
    have first := same _ List.mem_cons_self state
    rwa [performed] at first

/-- A cleanup executes each of its actions, whatever the others do. -/
theorem Chain.firstError (perform : ι → Action σ ε Unit) (subjects : List ι) (state : σ) :
    ∃ executions last, Chain perform state executions last ∧
      executions.map (·.subject) = subjects ∧
      Action.firstError (subjects.map perform) state = (Execution.outcome executions, last) := by
  induction subjects generalizing state with
  | nil => exact ⟨[], state, .nil, rfl, rfl⟩
  | cons subject rest ih =>
    -- However the first action ended, the rest is performed in the state that it left.
    rcases performed : perform subject state with ⟨ending, between⟩
    obtain ⟨executions, last, chain, subjects, others⟩ := ih between
    refine ⟨_, last, .cons subject performed chain, by rw [List.map_cons, subjects], ?_⟩
    simp only [List.map_cons, Action.firstError, performed, others]
    cases ending <;> rfl

end ScenarioBench

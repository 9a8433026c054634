/-! Actions on a state.

An action changes a state and ends with a value or an error. Whatever it did before an error stays
done. An action follows a relation when every performance leads along it; for a reflexive and transitive
relation this is a matter of the actions that it is made of.
-/

set_option autoImplicit false

namespace ScenarioBench

abbrev Action (σ ε α : Type) := ExceptT ε (StateM σ) α

namespace Action

variable {σ ε α : Type}

def perform (action : Action σ ε α) (state : σ) : Except ε α × σ :=
  action state

def settled (result : Except ε α) : Action σ ε α := fun state =>
  (result, state)

def look : Action σ ε σ := fun state =>
  (.ok state, state)

def attempt (action : Action σ ε α) : Action σ ε (Except ε α) := fun state =>
  let (result, after) := action state
  (.ok result, after)

def mapError {δ : Type} (convert : ε → δ) (action : Action σ ε α) : Action σ δ α := fun state =>
  let (result, after) := action state
  (result.mapError convert, after)

/-- Perform every action, whatever the others do; the first error is the result. -/
def firstError : List (Action σ ε Unit) → Action σ ε Unit
  | [] => settled (.ok ())
  | action :: rest => fun state =>
    let (result, between) := action state
    let (others, after) := firstError rest between
    (match result with
      | .ok () => others
      | .error cause => .error cause, after)

section
variable {β : Type}

@[simp] theorem pure_apply (value : α) (state : σ) :
    (pure value : Action σ ε α) state = (.ok value, state) :=
  rfl

@[simp] theorem throw_apply (cause : ε) (state : σ) :
    (throw cause : Action σ ε α) state = (.error cause, state) :=
  rfl

@[simp] theorem attempt_apply (action : Action σ ε α) (state : σ) :
    attempt action state = (.ok (action state).1, (action state).2) :=
  rfl

theorem bind_apply (action : Action σ ε α) (next : α → Action σ ε β) (state : σ) :
    (action >>= next) state = match action state with
      | (.ok value, after) => next value after
      | (.error cause, after) => (.error cause, after) := by
  show ExceptT.bindCont next (action state).1 (action state).2 = _
  rcases action state with ⟨cause | value, after⟩ <;> rfl

theorem bind_of_ok {action : Action σ ε α} {state after : σ} {value : α}
    (performed : action state = (.ok value, after)) (next : α → Action σ ε β) :
    (action >>= next) state = next value after := by
  rw [bind_apply, performed]

theorem bind_of_error {action : Action σ ε α} {state after : σ} {cause : ε}
    (performed : action state = (.error cause, after)) (next : α → Action σ ε β) :
    (action >>= next) state = (.error cause, after) := by
  rw [bind_apply, performed]

theorem mapError_bind {δ : Type} (convert : ε → δ) (action : Action σ ε α) (next : α → Action σ ε β) :
    mapError convert (action >>= next) =
      mapError convert action >>= fun value => mapError convert (next value) := by
  funext state
  rw [bind_apply]
  show (((action >>= next) state).1.mapError convert, ((action >>= next) state).2) = _
  rw [bind_apply]
  unfold mapError
  rcases action state with ⟨cause | value, after⟩ <;> rfl

@[simp] theorem firstError_singleton (action : Action σ ε Unit) : firstError [action] = action := by
  funext state
  show ((match (action state).1 with
    | .ok () => .ok ()
    | .error cause => .error cause), (action state).2) = action state
  rcases action state with ⟨cause | value, after⟩ <;> rfl

theorem firstError_append (actions more : List (Action σ ε Unit)) :
    firstError (actions ++ [firstError more]) = firstError (actions ++ more) := by
  induction actions with
  | nil => exact firstError_singleton _
  | cons action rest ih => simp only [List.cons_append, firstError, ih]

end

/-- Every performance leads from a state to one that it is related to. -/
def Follows (action : Action σ ε α) (relation : σ → σ → Prop) : Prop :=
  ∀ state, relation state (action state).2

namespace Follows
variable {β : Type} {relation : σ → σ → Prop}

theorem mono {weaker : σ → σ → Prop} {action : Action σ ε α} (follows : action.Follows relation)
    (implied : ∀ before after, relation before after → weaker before after) :
    action.Follows weaker :=
  fun state => implied _ _ (follows state)

theorem settled [Std.Refl relation] (result : Except ε α) :
    (settled result : Action σ ε α).Follows relation :=
  fun state => Std.Refl.refl state

theorem pure [Std.Refl relation] (value : α) : (pure value : Action σ ε α).Follows relation :=
  settled (.ok value)

theorem throw [Std.Refl relation] (cause : ε) : (throw cause : Action σ ε α).Follows relation :=
  settled (.error cause)

theorem look [Std.Refl relation] : (look : Action σ ε σ).Follows relation :=
  fun state => Std.Refl.refl state

theorem attempt {action : Action σ ε α} (follows : action.Follows relation) :
    action.attempt.Follows relation :=
  follows

theorem bind [Trans relation relation relation] {action : Action σ ε α}
    {next : α → Action σ ε β} (first : action.Follows relation)
    (rest : ∀ value, (next value).Follows relation) : (action >>= next).Follows relation := by
  intro state
  have start := first state
  rw [bind_apply]
  revert start
  rcases action state with ⟨cause | value, after⟩ <;> intro start
  · exact start
  · exact Trans.trans start (rest value after)

theorem forM [Std.Refl relation] [Trans relation relation relation] {ι : Type}
    {perform : ι → Action σ ε Unit} (each : ∀ subject, (perform subject).Follows relation)
    (subjects : List ι) : Action.Follows (subjects.forM perform) relation := by
  induction subjects with
  | nil => exact .pure ()
  | cons subject rest ih => exact .bind (each subject) fun _ => ih

theorem firstError_nil [Std.Refl relation] :
    (firstError [] : Action σ ε Unit).Follows relation :=
  settled (.ok ())

theorem firstError_cons [Trans relation relation relation] {action : Action σ ε Unit}
    {rest : List (Action σ ε Unit)} (first : action.Follows relation)
    (others : (firstError rest).Follows relation) :
    (firstError (action :: rest)).Follows relation :=
  fun state => Trans.trans (first state) (others (action state).2)

end Follows

end Action

end ScenarioBench

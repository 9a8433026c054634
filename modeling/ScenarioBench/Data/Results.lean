/-! Results of computations that may fail. -/

set_option autoImplicit false

namespace ScenarioBench

variable {ε δ α β : Type} {result : Except ε α}

theorem error_of_map {convert : α → β} {cause : ε} (failed : result.map convert = .error cause) :
    result = .error cause := by
  cases result <;> cases failed
  rfl

theorem exists_of_map_ok {convert : α → β} {value : β} (gave : result.map convert = .ok value) :
    ∃ between, result = .ok between ∧ convert between = value := by
  cases result <;> cases gave
  exact ⟨_, rfl, rfl⟩

theorem error_of_mapError {convert : ε → δ} {cause : δ} (failed : result.mapError convert = .error cause) :
    ∃ reason, result = .error reason ∧ convert reason = cause := by
  cases result <;> cases failed
  exact ⟨_, rfl, rfl⟩

theorem ok_of_mapError {convert : ε → δ} {value : α} (gave : result.mapError convert = .ok value) :
    result = .ok value := by
  cases result <;> cases gave
  rfl

theorem ok_of_toOption {value : α} (gave : result.toOption = some value) : result = .ok value := by
  cases result <;> cases gave
  rfl

@[simp] theorem ok_bind (value : α) (next : α → Except ε β) :
    (Except.ok value >>= next : Except ε β) = next value :=
  rfl

@[simp] theorem error_bind (cause : ε) (next : α → Except ε β) :
    (Except.error cause >>= next : Except ε β) = .error cause :=
  rfl

theorem exists_of_bind_ok {next : α → Except ε β} {value : β} (whole : (result >>= next) = .ok value) :
    ∃ between, result = .ok between ∧ next between = .ok value := by
  cases result with
  | error => cases whole
  | ok between => exact ⟨between, rfl, whole⟩

theorem mapM_cons_of_ok {convert : α → Except ε β} {first : α} {rest : List α} {result : β} {results : List β}
    (head : convert first = .ok result) (tail : rest.mapM convert = .ok results) :
    (first :: rest).mapM convert = .ok (result :: results) := by
  rw [List.mapM_cons, head, tail]
  rfl

theorem mapM_append_of_ok {convert : α → Except ε β} {first rest : List α} {results more : List β}
    (head : first.mapM convert = .ok results) (tail : rest.mapM convert = .ok more) :
    (first ++ rest).mapM convert = .ok (results ++ more) := by
  rw [List.mapM_append, head, tail]
  rfl

section
variable {convert : α → Except ε β} {values others : List α} {results : List β}

theorem exists_of_mapM_cons_ok {value : α} (gave : (value :: values).mapM convert = .ok results) :
    ∃ result more, convert value = .ok result ∧ values.mapM convert = .ok more ∧ results = result :: more := by
  rw [List.mapM_cons] at gave
  obtain ⟨result, head, gave⟩ := exists_of_bind_ok gave
  obtain ⟨more, tail, ⟨⟩⟩ := exists_of_bind_ok gave
  exact ⟨result, more, head, tail, rfl⟩

theorem exists_of_mapM_ok (gave : values.mapM convert = .ok results) :
    ∀ value ∈ values, ∃ result ∈ results, convert value = .ok result := by
  induction values generalizing results with
  | nil => exact List.forall_mem_nil _
  | cons value values ih =>
    obtain ⟨result, more, head, tail, rfl⟩ := exists_of_mapM_cons_ok gave
    refine List.forall_mem_cons.2 ⟨⟨result, List.mem_cons_self, head⟩, fun other listed => ?_⟩
    obtain ⟨result, member, converted⟩ := ih tail other listed
    exact ⟨result, List.mem_cons_of_mem _ member, converted⟩

theorem exists_of_mem_mapM (gave : values.mapM convert = .ok results) :
    ∀ result ∈ results, ∃ value ∈ values, convert value = .ok result := by
  induction values generalizing results with
  | nil =>
    cases gave
    exact List.forall_mem_nil _
  | cons value values ih =>
    obtain ⟨result, more, head, tail, rfl⟩ := exists_of_mapM_cons_ok gave
    refine List.forall_mem_cons.2 ⟨⟨value, List.mem_cons_self, head⟩, fun other listed => ?_⟩
    obtain ⟨value, member, converted⟩ := ih tail other listed
    exact ⟨value, List.mem_cons_of_mem _ member, converted⟩

/-- Where a conversion gives different results to different values, so it does to lists of them. -/
theorem mapM_injective
    (injective : ∀ value other result, convert value = .ok result → convert other = .ok result → value = other)
    (told : values.mapM convert = .ok results) (same : others.mapM convert = .ok results) : values = others := by
  induction values generalizing others results with
  | nil =>
    cases told
    cases others with
    | nil => rfl
    | cons other others =>
      obtain ⟨_, _, -, -, ⟨⟩⟩ := exists_of_mapM_cons_ok same
  | cons value values ih =>
    obtain ⟨result, more, head, tail, rfl⟩ := exists_of_mapM_cons_ok told
    cases others with
    | nil => cases same
    | cons other others =>
      obtain ⟨_, _, here, there, ⟨⟩⟩ := exists_of_mapM_cons_ok same
      rw [injective _ _ _ head here, ih tail there]

end

end ScenarioBench

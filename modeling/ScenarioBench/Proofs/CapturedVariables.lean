import ScenarioBench.Bench.Environment
import Mathlib.Data.List.Induction

/-! What a captured environment holds.

Raw pairs are taken in one after the other. A pair sets a variable if its name and its value are both text; any other
pair leaves everything as it was. Main statement: a variable has the value of the last pair that sets it, and what is
required but not set is told completely and in the order of the request.
-/

set_option autoImplicit false

namespace ScenarioBench.Environment

variable {pairs : List (Octets × Octets)} {name value : String}

def Given (pairs : List (Octets × Octets)) (name : String) : Prop :=
  ∃ value : String, (Octets.ofText name, Octets.ofText value) ∈ pairs

/-- The last pair that sets the variable gives it this value. What comes behind may have the name, but then no text
for a value. -/
def LastGiven (pairs : List (Octets × Octets)) (name value : String) : Prop :=
  ∃ before after, pairs = before ++ (Octets.ofText name, Octets.ofText value) :: after ∧ ¬ Given after name

instance (pairs : List (Octets × Octets)) (name : String) : Decidable (Given pairs name) :=
  decidable_of_iff (∃ pair ∈ pairs, pair.1 = Octets.ofText name ∧ pair.2.toText?.isSome = true) <| by
    constructor
    · rintro ⟨⟨first, second⟩, member, rfl, text⟩
      obtain ⟨value, read⟩ := Option.isSome_iff_exists.1 text
      exact ⟨value, Octets.ofText_of_toText? read ▸ member⟩
    · rintro ⟨value, member⟩
      exact ⟨_, member, rfl, Option.isSome_of_eq_some (Octets.toText?_ofText value)⟩

@[simp] theorem readPair?_eq_some_iff {pair : Octets × Octets} :
    readPair? pair = some (name, value) ↔ pair = (Octets.ofText name, Octets.ofText value) := by
  obtain ⟨first, second⟩ := pair
  constructor
  · intro read
    obtain ⟨name', nameRead, rest⟩ := Option.bind_eq_some_iff.1 read
    obtain ⟨value', valueRead, same⟩ := Option.bind_eq_some_iff.1 rest
    cases same
    rw [Octets.ofText_of_toText? nameRead, Octets.ofText_of_toText? valueRead]
  · intro same
    cases same
    simp [readPair?]

@[simp] theorem get?_set (environment : Environment) (name value other : String) :
    (environment.set name value).get? other = if other = name then some value else environment.get? other := by
  rw [get?, set, List.lookup_cons]
  by_cases same : other = name
  · rw [if_pos same, same, beq_self_eq_true]
  · rw [if_neg same, beq_false_of_ne same]
    rfl

/-! ### One more pair -/

theorem ofRawPairs_append_singleton (pairs : List (Octets × Octets)) (pair : Octets × Octets) :
    ofRawPairs (pairs ++ [pair]) = match readPair? pair with
      | some (name, value) => (ofRawPairs pairs).set name value
      | none => ofRawPairs pairs := by
  rw [ofRawPairs, List.filterMap_append, ofPairs, setMany, List.foldl_append]
  rcases read : readPair? pair with _ | ⟨name, value⟩
  · rw [List.filterMap_cons_none read]
    rfl
  · rw [List.filterMap_cons_some read]
    rfl

theorem given_append_singleton {pair : Octets × Octets} :
    Given (pairs ++ [pair]) name ↔ Given pairs name ∨ ∃ value, pair = (Octets.ofText name, Octets.ofText value) := by
  simp only [Given, List.mem_append, List.mem_singleton, exists_or, eq_comm]

theorem lastGiven_append_singleton {pair : Octets × Octets} :
    LastGiven (pairs ++ [pair]) name value ↔ pair = (Octets.ofText name, Octets.ofText value) ∨
      (∀ other, pair ≠ (Octets.ofText name, Octets.ofText other)) ∧ LastGiven pairs name value := by
  constructor
  · rintro ⟨before, after, whole, untouched⟩
    rcases List.eq_nil_or_concat after with rfl | ⟨front, last, rfl⟩
    · exact .inl (List.singleton_inj.1 (List.append_inj' whole rfl).2)
    · -- The last pair stands behind the one that sets the variable, and does not set it.
      have split : pairs ++ [pair] = (before ++ (Octets.ofText name, Octets.ofText value) :: front) ++ [last] := by
        simpa using whole
      obtain ⟨rfl, same⟩ := List.append_inj' split rfl
      cases same
      rw [List.concat_eq_append, given_append_singleton, not_or, not_exists] at untouched
      exact .inr ⟨untouched.2, before, front, rfl, untouched.1⟩
  · rintro (rfl | ⟨silent, before, after, rfl, untouched⟩)
    · exact ⟨pairs, [], rfl, fun ⟨_, member⟩ => List.not_mem_nil member⟩
    · refine ⟨before, after ++ [pair], by simp, ?_⟩
      rw [given_append_singleton, not_or, not_exists]
      exact ⟨untouched, silent⟩

/-! ### All pairs -/

theorem get?_ofRawPairs_eq_some_iff : (ofRawPairs pairs).get? name = some value ↔ LastGiven pairs name value := by
  induction pairs using List.reverseRecOn with
  | nil =>
    refine ⟨nofun, ?_⟩
    rintro ⟨before, after, whole, -⟩
    exact absurd whole.symm (List.append_ne_nil_of_right_ne_nil before (List.cons_ne_nil _ _))
  | append_singleton pairs pair ih =>
    rw [ofRawPairs_append_singleton, lastGiven_append_singleton]
    rcases read : readPair? pair with _ | ⟨other, held⟩
    · -- A pair that is not text sets nothing.
      have unread : ∀ name other, pair ≠ (Octets.ofText name, Octets.ofText other) := by
        intro name other same
        rw [readPair?_eq_some_iff.2 same] at read
        cases read
      simp [unread, ih]
    · obtain rfl := readPair?_eq_some_iff.1 read
      rw [get?_set]
      by_cases same : name = other
      · subst same
        have only : ∀ value, (Octets.ofText name, Octets.ofText held) = (Octets.ofText name, Octets.ofText value) ↔
            held = value := fun value =>
          ⟨fun equal => Octets.ofText_injective (Prod.mk.inj equal).2, fun equal => equal ▸ rfl⟩
        simp [only]
      · have apart : ∀ value, (Octets.ofText other, Octets.ofText held) ≠ (Octets.ofText name, Octets.ofText value) :=
          fun value equal => same (Octets.ofText_injective (Prod.mk.inj equal).1).symm
        simp [same, apart, ih]

theorem exists_lastGiven_iff : (∃ value, LastGiven pairs name value) ↔ Given pairs name := by
  induction pairs using List.reverseRecOn with
  | nil => simp [LastGiven, Given]
  | append_singleton pairs pair ih =>
    -- Either the last pair sets the variable, which is enough for both, or it changes neither.
    simp only [lastGiven_append_singleton, given_append_singleton, exists_or, exists_and_left, ih]
    by_cases sets : ∃ value, pair = (Octets.ofText name, Octets.ofText value) <;> simp_all

theorem get?_ofRawPairs_eq_none_iff : (ofRawPairs pairs).get? name = none ↔ ¬ Given pairs name := by
  rw [← exists_lastGiven_iff, Option.eq_none_iff_forall_ne_some, not_exists]
  exact forall_congr' fun value => not_congr get?_ofRawPairs_eq_some_iff

theorem missing_ofRawPairs (pairs : List (Octets × Octets)) (names : List String) :
    (ofRawPairs pairs).missing names = names.filter (¬ Given pairs ·) := by
  refine List.filter_congr fun name _ => Bool.eq_iff_iff.2 ?_
  rw [Option.isNone_iff_eq_none, get?_ofRawPairs_eq_none_iff, decide_eq_true_iff]

/-- A variable has the value of the last pair that sets it, and none if no pair does. Requiring variables succeeds if
all of them are set, and otherwise complains about those that are not, as often and in the order that they are
required; of the second domain's variables it is told how many these are. -/
theorem captured_variables (pairs : List (Octets × Octets)) :
    (∀ name value, (ofRawPairs pairs).get? name = some value ↔ LastGiven pairs name value) ∧
    (∀ name, (ofRawPairs pairs).get? name = none ↔ ¬ Given pairs name) ∧
    (∀ names, (ofRawPairs pairs).requireAll names =
      if ∀ name ∈ names, Given pairs name then .ok ()
      else .error (.missingVariables (names.filter (¬ Given pairs ·)))) ∧
    (ofRawPairs pairs).missingSecondDomain =
      ([Variable.testDomain, Variable.testInstance].filter (¬ Given pairs ·)).length := by
  refine ⟨fun _ _ => get?_ofRawPairs_eq_some_iff, fun _ => get?_ofRawPairs_eq_none_iff, fun names => ?_, ?_⟩
  · have nothing : (names.filter (¬ Given pairs ·)).isEmpty = true ↔ ∀ name ∈ names, Given pairs name := by simp
    rw [requireAll, missing_ofRawPairs]
    exact if_congr nothing rfl rfl
  · rw [missingSecondDomain, missing_ofRawPairs]
    rfl

/-- A value that is no text neither replaces the one before it nor removes it. -/
example : (ofRawPairs [(Octets.ofText "JMX_USER", Octets.ofText "admin"),
    (Octets.ofText "JMX_USER", [0x70, 0xFF])]).get? "JMX_USER" = some "admin" := by
  cbv

end ScenarioBench.Environment

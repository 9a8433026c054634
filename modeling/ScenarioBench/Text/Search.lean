/-! Searching in texts: occurrence, splitting at the first or last occurrence, replacement.

Every operation has a form on lists of characters, about which the facts are stated, and a form on
texts.
-/

set_option autoImplicit false

namespace ScenarioBench.Text

def splitFirst (needle : List Char) : List Char → Option (List Char × List Char)
  | [] => if needle.isEmpty then some ([], []) else none
  | head :: rest =>
    if needle.isPrefixOf (head :: rest) then some ([], (head :: rest).drop needle.length)
    else (splitFirst needle rest).map fun (before, after) => (head :: before, after)

def splitLast (needle : List Char) : List Char → Option (List Char × List Char)
  | [] => if needle.isEmpty then some ([], []) else none
  | head :: rest =>
    -- An occurrence further on goes before one that begins here.
    match splitLast needle rest with
    | some (before, after) => some (head :: before, after)
    | none =>
      if needle.isPrefixOf (head :: rest) then some ([], (head :: rest).drop needle.length) else none

def occursIn (needle characters : List Char) : Bool :=
  (splitFirst needle characters).isSome

theorem splitFirst_eq_some {needle characters before after : List Char}
    (h : splitFirst needle characters = some (before, after)) :
    characters = before ++ needle ++ after := by
  induction characters generalizing before after with
  | nil =>
    simp only [splitFirst] at h
    split at h
    · rename_i empty
      cases h
      simp [List.isEmpty_iff.1 empty]
    · cases h
  | cons head rest ih =>
    simp only [splitFirst] at h
    split at h
    · rename_i found
      cases h
      obtain ⟨tail, equation⟩ := List.isPrefixOf_iff_prefix.1 found
      simp [← equation]
    · obtain ⟨⟨before', after'⟩, found, equation⟩ := Option.map_eq_some_iff.1 h
      cases equation
      simp [ih found]

theorem splitFirst_singleton_iff {mark : Char} {characters before after : List Char} :
    splitFirst [mark] characters = some (before, after) ↔
      characters = before ++ mark :: after ∧ mark ∉ before := by
  induction characters generalizing before after with
  | nil => simp [splitFirst]
  | cons head rest ih =>
    by_cases found : head = mark
    · subst found
      cases before with
      | nil => simp [splitFirst]
      | cons first others =>
        refine iff_of_false (by simp [splitFirst]) ?_
        rintro ⟨split, absent⟩
        exact absent ((List.cons.inj split).1 ▸ List.mem_cons_self)
    · have missed : ([mark].isPrefixOf (head :: rest)) = false := by
        simp [List.isPrefixOf, beq_false_of_ne (Ne.symm found)]
      cases before with
      | nil => simp [splitFirst, missed, found]
      | cons first others =>
        simp only [splitFirst, missed, Bool.false_eq_true, if_false, Option.map_eq_some_iff,
          Prod.exists, ih, Prod.mk.injEq, List.cons.injEq, List.cons_append, List.mem_cons, not_or]
        constructor
        · rintro ⟨_, _, ⟨rfl, absent⟩, ⟨rfl, rfl⟩, rfl⟩
          exact ⟨⟨rfl, rfl⟩, Ne.symm found, absent⟩
        · rintro ⟨⟨rfl, rfl⟩, -, absent⟩
          exact ⟨_, _, ⟨rfl, absent⟩, ⟨rfl, rfl⟩, rfl⟩

theorem splitLast_eq_some {needle characters before after : List Char}
    (h : splitLast needle characters = some (before, after)) :
    characters = before ++ needle ++ after := by
  induction characters generalizing before after with
  | nil =>
    simp only [splitLast] at h
    split at h
    · rename_i empty
      cases h
      simp [List.isEmpty_iff.1 empty]
    · cases h
  | cons head rest ih =>
    simp only [splitLast] at h
    split at h
    · rename_i before' after' found
      cases h
      simp [ih found]
    · split at h
      · rename_i found
        cases h
        obtain ⟨tail, equation⟩ := List.isPrefixOf_iff_prefix.1 found
        simp [← equation]
      · cases h

/-- A text falls into what comes before, makes up and comes after the last occurrence of a needle. -/
structure LastOccurrence (needle characters before after : List Char) : Prop where
  whole : characters = before ++ needle ++ after
  last : ∀ earlier later, characters = earlier ++ needle ++ later → earlier.length ≤ before.length

section
variable {needle characters before after : List Char}

theorem LastOccurrence.unique {before' after' : List Char} (occurs : LastOccurrence needle characters before after)
    (occurs' : LastOccurrence needle characters before' after') : before = before' ∧ after = after' := by
  have sameLength : before.length = before'.length :=
    Nat.le_antisymm (occurs'.last _ _ occurs.whole) (occurs.last _ _ occurs'.whole)
  have same := occurs.whole.symm.trans occurs'.whole
  rw [List.append_assoc, List.append_assoc] at same
  obtain ⟨rfl, behind⟩ := List.append_inj same sameLength
  exact ⟨rfl, List.append_cancel_left behind⟩

theorem not_infix_of_splitLast (none : splitLast needle characters = none) : ¬ needle <:+: characters := by
  induction characters with
  | nil =>
    rintro found
    rw [List.infix_nil.1 found, splitLast] at none
    cases none
  | cons head rest ih =>
    rw [splitLast] at none
    split at none
    · cases none
    · rename_i nowhere
      split at none
      · cases none
      · rename_i notHere
        rw [List.infix_cons_iff, ← List.isPrefixOf_iff_prefix]
        exact not_or.2 ⟨notHere, ih nowhere⟩

theorem splitLast_lastOccurrence (split : splitLast needle characters = some (before, after)) :
    LastOccurrence needle characters before after := by
  refine ⟨splitLast_eq_some split, ?_⟩
  induction characters generalizing before after with
  | nil =>
    intro earlier later whole
    rw [(List.append_eq_nil_iff.1 (List.append_eq_nil_iff.1 whole.symm).1).1]
    exact Nat.zero_le _
  | cons head rest ih =>
    rw [splitLast] at split
    rintro (_ | ⟨first, earlier⟩) later whole
    · exact Nat.zero_le _
    · -- An occurrence behind the first character is one in the rest.
      obtain ⟨rfl, inRest⟩ := List.cons.inj whole
      split at split
      · rename_i found
        cases split
        exact Nat.succ_le_succ (ih found earlier later inRest)
      · rename_i nowhere
        exact absurd ⟨earlier, later, inRest.symm⟩ (not_infix_of_splitLast nowhere)

theorem splitLast_eq_some_iff : splitLast needle characters = some (before, after) ↔
    LastOccurrence needle characters before after := by
  refine ⟨splitLast_lastOccurrence, fun occurs => ?_⟩
  rcases split : splitLast needle characters with _ | ⟨before', after'⟩
  · exact absurd ⟨before, after, occurs.whole.symm⟩ (not_infix_of_splitLast split)
  · obtain ⟨rfl, rfl⟩ := occurs.unique (splitLast_lastOccurrence split)
    rfl

end

theorem occursIn_iff {needle characters : List Char} :
    occursIn needle characters = true ↔ needle <:+: characters := by
  unfold occursIn
  constructor
  · intro found
    obtain ⟨⟨before, after⟩, split⟩ := Option.isSome_iff_exists.1 found
    exact ⟨before, after, (splitFirst_eq_some split).symm⟩
  · intro infixes
    induction characters with
    | nil => simp [splitFirst, List.infix_nil.1 infixes]
    | cons head rest ih =>
      simp only [splitFirst]
      split
      · rfl
      · rename_i notHere
        rw [List.isPrefixOf_iff_prefix] at notHere
        rw [Option.isSome_map]
        exact ih ((List.infix_cons_iff.1 infixes).resolve_left notHere)

/-- Replace the occurrences of `first :: more`, read from the left and without overlap. -/
def replaceRun (first : Char) (more replacement : List Char) : List Char → List Char
  | [] => []
  | head :: rest =>
    if head = first ∧ more.isPrefixOf rest then
      replacement ++ replaceRun first more replacement (rest.drop more.length)
    else head :: replaceRun first more replacement rest
termination_by characters => characters.length
decreasing_by all_goals (simp only [List.length_cons, List.length_drop]; omega)

def contains (text needle : String) : Bool :=
  occursIn needle.toList text.toList

theorem contains_iff {text needle : String} :
    contains text needle = true ↔ needle.toList <:+: text.toList :=
  occursIn_iff

def splitAtFirst (separator text : String) : Option (String × String) :=
  (splitFirst separator.toList text.toList).map fun (before, after) =>
    (String.ofList before, String.ofList after)

theorem exists_splitAtFirst {separator text : String} (occurs : separator.toList <:+: text.toList) :
    ∃ before after, splitAtFirst separator text = some (before, after) ∧ text = before ++ separator ++ after := by
  obtain ⟨⟨before, after⟩, split⟩ := Option.isSome_iff_exists.1 (occursIn_iff.2 occurs)
  refine ⟨.ofList before, .ofList after, by rw [splitAtFirst, split]; rfl, String.toList_inj.1 ?_⟩
  simp [splitFirst_eq_some split]

theorem splitAtFirst_equals_iff {text name value : String} :
    splitAtFirst "=" text = some (name, value) ↔
      text = name ++ "=" ++ value ∧ '=' ∉ name.toList := by
  have mark : "=".toList = ['='] := rfl
  simp only [splitAtFirst, mark, Option.map_eq_some_iff, Prod.exists, splitFirst_singleton_iff,
    Prod.mk.injEq]
  constructor
  · rintro ⟨before, after, ⟨whole, absent⟩, rfl, rfl⟩
    refine ⟨String.toList_inj.1 ?_, by simpa using absent⟩
    simp [whole]
  · rintro ⟨rfl, absent⟩
    exact ⟨name.toList, value.toList, ⟨by simp, absent⟩, by simp, by simp⟩

def padRight (width : Nat) (text : String) : String :=
  text ++ String.ofList (List.replicate (width - text.length) ' ')

end ScenarioBench.Text

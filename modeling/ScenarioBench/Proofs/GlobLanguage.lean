import ScenarioBench.Glob

/-! The language of a wildcard pattern.

A comparison never forgets a way to success: whatever is left to compare, from where it stands or from the
point that it may return to, would do for the whole. So a name that is accepted is in the language of its
pattern.
-/

set_option autoImplicit false

namespace ScenarioBench.Glob

/-- A whole name is in the language of a pattern. -/
inductive Matches : List Char → List Char → Prop where
  | nil : Matches [] []
  | none {pattern name : List Char} : Matches pattern name → Matches ('*' :: pattern) name
  | more {pattern name : List Char} {character : Char} : Matches ('*' :: pattern) name →
      Matches ('*' :: pattern) (character :: name)
  | any {pattern name : List Char} {character : Char} : Matches pattern name →
      Matches ('?' :: pattern) (character :: name)
  | itself {pattern name : List Char} {character : Char} : character ≠ '*' → character ≠ '?' →
      Matches pattern name → Matches (character :: pattern) (character :: name)

theorem matches_nil_of_all {pattern : List Char} (stars : pattern.all (· = '*') = true) :
    Matches pattern [] := by
  induction pattern with
  | nil => exact .nil
  | cons symbol rest ih =>
    obtain ⟨star, others⟩ := Bool.and_eq_true_iff.1 stars
    rw [of_decide_eq_true star]
    exact .none (ih others)

/-- What is left to compare, from here or from the point to return to, would do for the whole. -/
structure Cursor.Sound (pattern name : List Char) (cursor : Cursor) : Prop where
  here : Matches (pattern.drop cursor.symbol) (name.drop cursor.character) → Matches pattern name
  back : ∀ star taken, cursor.back = some (star, taken) → pattern[star]? = some '*' ∧
    (Matches (pattern.drop star) (name.drop taken) → Matches pattern name)

def Progress.Sound (pattern name : List Char) : Progress → Prop
  | running cursor => cursor.Sound pattern name
  | finished answer => answer = true → Matches pattern name

variable {pattern name : List Char} {cursor : Cursor}

theorem matches_of_longer {star taken : Nat} (found : pattern[star]? = some '*')
    (shorter : Matches (pattern.drop star) (name.drop (taken + 1))) :
    Matches (pattern.drop star) (name.drop taken) := by
  obtain ⟨inside, symbol⟩ := List.getElem?_eq_some_iff.1 found
  by_cases more : taken < name.length
  · rw [List.drop_eq_getElem_cons inside, symbol] at shorter ⊢
    rw [List.drop_eq_getElem_cons more]
    exact .more shorter
  · have ended : name.drop taken = [] := List.drop_eq_nil_of_le (by omega)
    have endedToo : name.drop (taken + 1) = [] := List.drop_eq_nil_of_le (by omega)
    rwa [ended, ← endedToo]

theorem retreat_sound (sound : cursor.Sound pattern name) :
    (retreat cursor.back).Sound pattern name := by
  rcases back : cursor.back with _ | ⟨star, taken⟩
  · exact nofun
  · obtain ⟨found, whole⟩ := sound.back star taken back
    obtain ⟨inside, symbol⟩ := List.getElem?_eq_some_iff.1 found
    constructor
    · intro rest
      apply whole
      apply matches_of_longer found
      -- Once it took its character, the star may be left behind.
      rw [List.drop_eq_getElem_cons inside, symbol]
      exact .none rest
    · rintro _ _ ⟨⟩
      exact ⟨found, fun rest => whole (matches_of_longer found rest)⟩

theorem step_sound (sound : cursor.Sound pattern name) :
    (step pattern name cursor).Sound pattern name := by
  unfold step
  split
  · -- Nothing is left of the name, so only stars may be left of the pattern.
    rename_i ended
    intro stars
    apply sound.here
    rw [List.drop_eq_nil_of_le (List.getElem?_eq_none_iff.1 ended)]
    exact matches_nil_of_all stars
  · rename_i character there
    obtain ⟨inside, same⟩ := List.getElem?_eq_some_iff.1 there
    split
    · -- The star takes nothing for now, and what may be returned to is the star itself.
      rename_i star
      obtain ⟨below, symbol⟩ := List.getElem?_eq_some_iff.1 star
      constructor
      · intro rest
        apply sound.here
        rw [List.drop_eq_getElem_cons below, symbol]
        exact .none rest
      · rintro _ _ ⟨⟩
        exact ⟨star, sound.here⟩
    · rename_i symbol notStar found
      obtain ⟨below, known⟩ := List.getElem?_eq_some_iff.1 found
      split
      · rename_i fits
        refine ⟨fun rest => sound.here ?_, sound.back⟩
        rw [List.drop_eq_getElem_cons below, known, List.drop_eq_getElem_cons inside, same]
        by_cases single : symbol = '?'
        · rw [single]
          exact .any rest
        · obtain rfl := fits.resolve_left single
          exact .itself notStar single rest
      · exact retreat_sound sound
    · exact retreat_sound sound

theorem run_sound {fuel : Nat} (sound : cursor.Sound pattern name)
    (accepted : run pattern name fuel cursor = some true) : Matches pattern name := by
  induction fuel generalizing cursor with
  | zero => cases accepted
  | succ fuel ih =>
    have next := step_sound sound
    rw [run] at accepted
    split at accepted
    · rename_i answer finished
      rw [finished] at next
      exact next (Option.some.inj accepted)
    · rename_i goesOn
      rw [goesOn] at next
      exact ih next accepted

theorem matches_of_accepts {pattern name : String} (accepted : accepts pattern name = true) :
    Matches pattern.toList name.toList := by
  have start : Cursor.Sound pattern.toList name.toList start := ⟨id, nofun⟩
  rw [accepts, fits] at accepted
  rcases ended : run pattern.toList name.toList (bound pattern.toList name.toList) Glob.start
    with _ | answer
  · rw [ended] at accepted
    cases accepted
  · rw [ended] at accepted
    exact run_sound start (ended.trans (congrArg some accepted))

end ScenarioBench.Glob

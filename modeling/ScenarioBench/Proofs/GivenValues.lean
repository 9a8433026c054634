import ScenarioBench.CommandLine.Invocation
import ScenarioBench.Data.Results

/-! The values that command lines give.

A value is looked at when its argument is noted, which may be long after it was given. Main statement: whatever is
taken from a command line has passed the check of its argument, on either level.
-/

set_option autoImplicit false

namespace ScenarioBench.CommandLine

def Known (grammar : Grammar) (argument : Argument) : Prop :=
  argument ∈ grammar.options ∨ argument ∈ grammar.positionals

inductive Acceptable (grammar : Grammar) : String × List Octets → Prop where
  | intro {argument : Argument} {values : List Octets} : Known grammar argument →
      (∀ kind repeats, argument.effect = .value kind repeats → ∀ value ∈ values, kind.complaint? value = none) →
      Acceptable grammar (argument.name, values)

structure Sound (grammar : Grammar) (progress : Progress) : Prop where
  found : ∀ entry ∈ progress.found, Acceptable grammar entry
  pending : ∀ given ∈ progress.pending, Known grammar given.1
  places : ∀ argument ∈ progress.places, Known grammar argument

section
variable {grammar : Grammar} {progress next : Progress} {argument : Argument} {values : List Octets} {value : Octets}

theorem Known.ofLetter? {letter : UInt8} (named : grammar.ofLetter? letter = some argument) : Known grammar argument :=
  .inl (List.mem_of_find?_eq_some named)

theorem Known.ofWord? {word : Octets} (named : grammar.ofWord? word = some argument) : Known grammar argument :=
  .inl (List.mem_of_find?_eq_some named)

theorem Sound.start (grammar : Grammar) : Sound grammar (.start grammar) :=
  ⟨nofun, nofun, fun _ member => .inr member⟩

theorem note_eq_ok (noted : progress.note argument values = .ok next) :
    next = { progress with found := progress.found ++ [(argument.name, values)] } ∧
      ∀ kind repeats, argument.effect = .value kind repeats → ∀ value ∈ values, kind.complaint? value = none := by
  unfold Progress.note at noted
  cases effect : argument.effect with
  | help | version =>
    rw [effect] at noted
    cases noted
  | flag =>
    rw [effect] at noted
    dsimp only at noted
    split at noted <;> cases noted
    exact ⟨rfl, nofun⟩
  | value kind repeats =>
    rw [effect] at noted
    dsimp only at noted
    split at noted
    · cases noted
    · split at noted
      · cases noted
      · split at noted <;> cases noted
        next accepted =>
        refine ⟨rfl, ?_⟩
        rintro _ _ ⟨⟩ value member
        exact List.findSome?_eq_none_iff.1 accepted value member

theorem Sound.note (sound : Sound grammar progress) (known : Known grammar argument)
    (noted : progress.note argument values = .ok next) : Sound grammar next := by
  obtain ⟨rfl, accepted⟩ := note_eq_ok noted
  refine ⟨?_, sound.pending, sound.places⟩
  intro entry member
  rcases List.mem_append.1 member with before | new
  · exact sound.found entry before
  · obtain rfl := List.mem_singleton.1 new
    exact .intro known accepted

theorem Sound.settle (sound : Sound grammar progress) (settled : progress.settle = .ok next) : Sound grammar next := by
  unfold Progress.settle at settled
  split at settled
  · cases settled
    exact sound
  · next argument values pending =>
    have known := sound.pending (argument, values) pending
    have cleared : Sound grammar { progress with pending := none } :=
      ⟨sound.found, by rintro _ ⟨⟩, sound.places⟩
    exact cleared.note known settled

theorem Sound.take (sound : Sound grammar progress) (known : Known grammar argument)
    (taken : progress.take argument values = .ok next) : Sound grammar next := by
  obtain ⟨settled, before, taken⟩ := exists_of_bind_ok taken
  obtain ⟨noted, after, taken⟩ := exists_of_bind_ok taken
  cases taken
  have sound := (sound.settle before).note known after
  exact ⟨sound.found, sound.pending, sound.places⟩

theorem Sound.await (sound : Sound grammar progress) (known : Known grammar argument)
    (waits : progress.await argument = .ok next) : Sound grammar next := by
  obtain ⟨settled, before, waits⟩ := exists_of_bind_ok waits
  cases waits
  have sound := sound.settle before
  refine ⟨sound.found, ?_, sound.places⟩
  rintro _ ⟨⟩
  exact known

theorem Sound.give (sound : Sound grammar progress) (value : Octets) : Sound grammar (progress.give value) := by
  refine ⟨sound.found, ?_, sound.places⟩
  intro given member
  obtain ⟨held, pending, rfl⟩ := Option.map_eq_some_iff.1 member
  exact sound.pending held pending

theorem Sound.takeLetters {letters : Octets} (sound : Sound grammar progress)
    (taken : progress.takeLetters grammar letters = .ok next) : Sound grammar next := by
  induction letters generalizing progress with
  | nil =>
    cases taken
    exact sound
  | cons letter rest ih =>
    rw [Progress.takeLetters.eq_def] at taken
    dsimp only at taken
    split at taken
    · cases taken
    · next argument named =>
      have known := Known.ofLetter? named
      split at taken
      · split at taken
        · exact sound.await known taken
        · exact sound.take known taken
      · obtain ⟨between, flagged, taken⟩ := exists_of_bind_ok taken
        exact ih (sound.take known flagged) taken

theorem Sound.takeWord {octets : Octets} (sound : Sound grammar progress)
    (taken : progress.takeWord grammar octets = .ok next) : Sound grammar next := by
  unfold Progress.takeWord at taken
  dsimp only at taken
  split at taken
  · cases taken
  · next argument named =>
    have known := Known.ofWord? named
    split at taken
    · exact sound.await known taken
    · exact sound.take known taken
    · exact sound.take known taken
    · cases taken

theorem Sound.place (sound : Sound grammar progress) (placed : progress.place grammar value = .ok next) :
    Sound grammar next := by
  unfold Progress.place at placed
  split at placed
  · next argument others places =>
    have known : Known grammar argument := sound.places argument (places ▸ List.mem_cons_self)
    have left : ∀ other ∈ (if argument.repeats then argument :: others else others), Known grammar other := by
      intro other member
      refine sound.places other (places ▸ ?_)
      split at member
      · exact member
      · exact List.mem_cons_of_mem _ member
    -- Whether the value comes to those before it or starts anew, it is given in the same way.
    have given : ∀ before, Sound grammar before → Sound grammar { before.give value with
        places := if argument.repeats then argument :: others else others } := by
      intro before soundBefore
      have sound := soundBefore.give value
      exact ⟨sound.found, sound.pending, left⟩
    dsimp only at placed
    split at placed
    · cases placed
      exact given progress sound
    · obtain ⟨settled, finished, placed⟩ := exists_of_bind_ok placed
      cases placed
      have sound := sound.settle finished
      refine given _ ⟨sound.found, ?_, sound.places⟩
      rintro _ ⟨⟩
      exact known
  · split at placed <;> cases placed

theorem Sound.readLevel {arguments : List Octets} {command : Option (String × List Octets)}
    (sound : Sound grammar progress) (read : readLevel grammar progress arguments = .ok (next, command)) :
    Sound grammar next := by
  induction arguments generalizing progress with
  | nil =>
    cases read
    exact sound
  | cons argument rest ih =>
    rw [CommandLine.readLevel.eq_def] at read
    dsimp only at read
    split at read
    -- A command ends the level; what is no command is taken by one of the steps.
    · split at read <;> cases read
      exact sound
    · split at read
      · obtain ⟨between, placed, read⟩ := exists_of_bind_ok read
        exact ih (sound.place placed) read
      split at read
      · have trailing : Sound grammar { progress with trailing := true } :=
          ⟨sound.found, sound.pending, sound.places⟩
        exact ih trailing read
      split at read
      · obtain ⟨between, taken, read⟩ := exists_of_bind_ok read
        exact ih (sound.takeWord taken) read
      split at read
      · obtain ⟨between, taken, read⟩ := exists_of_bind_ok read
        exact ih (sound.takeLetters taken) read
      split at read
      · exact ih (sound.give argument) read
      · obtain ⟨between, placed, read⟩ := exists_of_bind_ok read
        exact ih (sound.place placed) read

theorem checkLevel_same (passed : checkLevel grammar progress = .ok next) : next = progress := by
  unfold checkLevel at passed
  split at passed
  · cases passed
  · split at passed <;> cases passed
    rfl

end

/-- What a command line gives on its two levels, of which only that of the command is checked as a whole. -/
inductive InLevels (top : Grammar) (level : String → Grammar) (arguments : List Octets) :
    Given → String → Given → Prop where
  | intro {progress outside found settled checked : Progress} {command : String} {rest : List Octets}
      {behind : Option (String × List Octets)} :
      readLevel top (.start top) arguments = .ok (progress, some (command, rest)) → progress.settle = .ok outside →
      readLevel (level command) (.start (level command)) rest = .ok (found, behind) → found.settle = .ok settled →
      checkLevel (level command) settled = .ok checked →
      InLevels top level arguments outside.found command checked.found

section
variable {top : Grammar} {level : String → Grammar} {arguments : List Octets} {outer inner : Given} {command : String}

theorem inLevels_of_read (taken : read top level arguments = .ok (outer, command, inner)) :
    InLevels top level arguments outer command inner := by
  obtain ⟨⟨progress, named⟩, first, taken⟩ := exists_of_bind_ok taken
  rcases named with _ | ⟨name, rest⟩
  · obtain ⟨_, -, taken⟩ := exists_of_bind_ok taken
    cases taken
  · obtain ⟨⟨found, behind⟩, second, taken⟩ := exists_of_bind_ok taken
    obtain ⟨settled, settles, taken⟩ := exists_of_bind_ok taken
    obtain ⟨checked, passed, taken⟩ := exists_of_bind_ok taken
    obtain ⟨outside, ends, taken⟩ := exists_of_bind_ok taken
    cases taken
    exact .intro first ends second settles passed

/-- Whatever is taken from a command line has passed the check of its argument. -/
theorem read_acceptable (taken : read top level arguments = .ok (outer, command, inner)) :
    (∀ entry ∈ outer, Acceptable top entry) ∧ ∀ entry ∈ inner, Acceptable (level command) entry := by
  cases inLevels_of_read taken with
  | intro first ends second settles passed =>
    have outerSound := ((Sound.start top).readLevel first).settle ends
    have innerSound := ((Sound.start (level command)).readLevel second).settle settles
    refine ⟨outerSound.found, ?_⟩
    rw [checkLevel_same passed]
    exact innerSound.found

end

end ScenarioBench.CommandLine

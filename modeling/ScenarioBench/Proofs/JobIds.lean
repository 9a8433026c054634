import ScenarioBench.Launch.JobId
import ScenarioBench.Text.Search

/-! Ids of jobs in what the instance tool printed.

A scan goes through a line character by character and keeps the digits since the last character that is none. Main
statement: the id is the last run of digits on the first line that mentions an ID, with every digit of the run; there
is none where no line mentions an ID or the first one that does has no digit, whatever comes after it.
-/

set_option autoImplicit false

namespace ScenarioBench.JobId

/-- A run of digits with no digit directly before it and none at all after it. -/
structure LastRun (line before run after : List Char) : Prop where
  whole : line = before ++ run ++ after
  nonempty : run ≠ []
  digits : ∀ character ∈ run, character.isDigit = true
  ended : ∀ character, before.getLast? = some character → character.isDigit = false
  plain : ∀ character ∈ after, character.isDigit = false

inductive Tells (line : List Char) : Option (List Char) → Prop where
  | run {before run after : List Char} : LastRun line before run after → Tells line (some run)
  | none : (∀ character ∈ line, character.isDigit = false) → Tells line none

section
variable {line : List Char}

theorem between_eq_nil {α : Type} {passes : α → Bool} {front between back : List α}
    (inside : ∀ item ∈ between ++ back, passes item = true)
    (outside : ∀ item, (front ++ between).getLast? = some item → passes item = false) : between = [] := by
  rcases List.eq_nil_or_concat between with empty | ⟨start, item, rfl⟩
  · exact empty
  · have passed : passes item = true := inside item (by simp)
    have failed : passes item = false := outside item (by simp)
    rw [failed] at passed
    cases passed

theorem split_unique {α : Type} {passes : α → Bool} {front back front' back' : List α}
    (same : front ++ back = front' ++ back') (inside : ∀ item ∈ back, passes item = true)
    (inside' : ∀ item ∈ back', passes item = true)
    (outside : ∀ item, front.getLast? = some item → passes item = false)
    (outside' : ∀ item, front'.getLast? = some item → passes item = false) : front = front' ∧ back = back' := by
  rcases List.append_eq_append_iff.1 same with ⟨between, rfl, rfl⟩ | ⟨between, rfl, rfl⟩
  · obtain rfl := between_eq_nil inside outside'
    simp
  · obtain rfl := between_eq_nil inside' outside
    simp

theorem LastRun.exists_digit {before run after : List Char} (last : LastRun line before run after) :
    ∃ character ∈ line, character.isDigit = true := by
  obtain ⟨digit, rest, rfl⟩ := List.exists_cons_of_ne_nil last.nonempty
  refine ⟨digit, ?_, last.digits digit List.mem_cons_self⟩
  rw [last.whole]
  simp

theorem LastRun.unique {before run after before' run' after' : List Char} (last : LastRun line before run after)
    (last' : LastRun line before' run' after') : run = run' := by
  -- The end of a run is a digit, so that what comes after the last digit is told by the line.
  have digitAtEnd : ∀ {before run after : List Char}, LastRun line before run after →
      ∀ character, (before ++ run).getLast? = some character → (!character.isDigit) = false := by
    intro before run after last character atEnd
    have inRun : run.getLast? = some character := by
      rwa [List.getLast?_append, Option.or_of_isSome] at atEnd
      simpa using last.nonempty
    have digit := last.digits character (List.mem_of_getLast? inRun)
    rw [digit]
    rfl
  have noDigit : ∀ {before run after : List Char}, LastRun line before run after →
      ∀ character ∈ after, (!character.isDigit) = true := by
    intro before run after last character member
    rw [last.plain character member]
    rfl
  have behind := split_unique (last.whole.symm.trans last'.whole) (noDigit last) (noDigit last')
    (digitAtEnd last) (digitAtEnd last')
  exact (split_unique behind.1 last.digits last'.digits last.ended last'.ended).2

theorem Tells.unique {result other : Option (List Char)} (tells : Tells line result) (told : Tells line other) :
    result = other := by
  cases tells with
  | run last =>
    cases told with
    | run last' => rw [last.unique last']
    | none bare =>
      obtain ⟨character, member, digit⟩ := last.exists_digit
      exact absurd (bare character member) (by simp [digit])
  | none bare =>
    cases told with
    | run last' =>
      obtain ⟨character, member, digit⟩ := last'.exists_digit
      exact absurd (bare character member) (by simp [digit])
    | none => rfl

end

namespace Scan

/-- Where a scan is after some characters: what it holds are the digits at their end, and of the characters before
those it knows the last run. -/
structure Reached (characters : List Char) (scan : Scan) (front : List Char) : Prop where
  whole : characters = front ++ scan.current
  digits : ∀ character ∈ scan.current, character.isDigit = true
  ended : ∀ character, front.getLast? = some character → character.isDigit = false
  tells : Tells front scan.last

variable {characters front : List Char} {scan : Scan}

theorem Reached.start : Reached [] Scan.start [] :=
  ⟨rfl, List.forall_mem_nil _, nofun, .none (List.forall_mem_nil _)⟩

theorem Reached.finish (reached : Reached characters scan front) : Tells characters scan.finish := by
  unfold Scan.finish
  by_cases idle : scan.current = []
  · have whole := reached.whole
    rw [idle, List.append_nil] at whole
    rw [idle, whole]
    exact reached.tells
  · rw [if_neg (by simpa using idle)]
    have last : LastRun characters front scan.current [] :=
      ⟨by simpa using reached.whole, idle, reached.digits, reached.ended, List.forall_mem_nil _⟩
    exact .run last

theorem tells_append {line : List Char} {result : Option (List Char)} {character : Char} (tells : Tells line result)
    (other : character.isDigit = false) : Tells (line ++ [character]) result := by
  cases tells with
  | @run before run after last =>
    have longer : LastRun (line ++ [character]) before run (after ++ [character]) := by
      refine ⟨by simp [last.whole], last.nonempty, last.digits, last.ended, ?_⟩
      simpa [or_imp, forall_and, other] using last.plain
    exact .run longer
  | none bare => exact .none (by simpa [or_imp, forall_and, other] using bare)

theorem Reached.read (reached : Reached characters scan front) (character : Char) :
    ∃ front, Reached (characters ++ [character]) (scan.read character) front := by
  by_cases digit : character.isDigit = true
  · have noted : scan.read character = { scan with current := scan.current ++ [character] } := if_pos digit
    rw [noted]
    refine ⟨front, ?_, ?_, reached.ended, reached.tells⟩
    · simp [reached.whole]
    · simpa [or_imp, forall_and, digit] using reached.digits
  · -- The scan has now seen whatever it held as a run, and the front is everything so far.
    have other : character.isDigit = false := Bool.eq_false_iff.2 digit
    have left : scan.read character = { last := scan.finish, current := [] } := by
      rcases scan with ⟨last, _ | ⟨first, more⟩⟩ <;> simp [Scan.read, Scan.finish, other]
    rw [left]
    refine ⟨characters ++ [character], by simp, List.forall_mem_nil _, ?_, tells_append reached.finish other⟩
    rintro _ ends
    rw [List.getLast?_concat, Option.some.injEq] at ends
    rw [← ends, other]

theorem Reached.foldl (reached : Reached characters scan front) (more : List Char) :
    ∃ front, Reached (characters ++ more) (more.foldl Scan.read scan) front := by
  induction more generalizing characters scan front with
  | nil => exact ⟨front, by simpa using reached⟩
  | cons character rest ih =>
    obtain ⟨next, further⟩ := reached.read character
    simpa using ih further

end Scan

theorem lastRun_eq_iff {line : List Char} {result : Option (List Char)} :
    lastRun line = result ↔ Tells line result := by
  obtain ⟨front, reached⟩ := Scan.Reached.start.foldl line
  have told : Tells line (lastRun line) := reached.finish
  constructor
  · rintro rfl
    exact told
  · exact told.unique

/-- The first line of a text that mentions an ID. -/
structure Marked (printed line : List Char) (before after : List (List Char)) : Prop where
  lines : Text.LinesOf printed (before ++ line :: after)
  mentions : ['I', 'D'] <:+: line
  first : ∀ earlier ∈ before, ¬ ['I', 'D'] <:+: earlier

def Silent (printed : List Char) : Prop :=
  ∀ lines, Text.LinesOf printed lines → ∀ line ∈ lines, ¬ ['I', 'D'] <:+: line

section
variable {printed : String} {line : List Char}

theorem parse?_of_marked {earlier later : List (List Char)} (marked : Marked printed.toList line earlier later) :
    parse? printed = (lastRun line).map String.ofList := by
  have found : (Text.lines printed.toList).find? (Text.occursIn mark) = some line := by
    rw [Text.linesOf_iff.1 marked.lines, List.find?_eq_some_iff_append]
    refine ⟨Text.occursIn_iff.2 marked.mentions, earlier, later, rfl, ?_⟩
    intro other member
    have unmentioned : ¬ Text.occursIn mark other = true :=
      fun mentions => marked.first other member (Text.occursIn_iff.1 mentions)
    simpa using unmentioned
  rw [parse?, find?, found]
  rfl

theorem parse?_of_silent (silent : Silent printed.toList) : parse? printed = none := by
  have missed : (Text.lines printed.toList).find? (Text.occursIn mark) = none := by
    rw [List.find?_eq_none]
    intro other member mentions
    exact silent _ (Text.linesOf_lines _) other member (Text.occursIn_iff.1 mentions)
  rw [parse?, find?, missed]
  rfl

theorem marked_or_silent (printed : List Char) :
    (∃ line earlier later, Marked printed line earlier later) ∨ Silent printed := by
  rcases found : (Text.lines printed).find? (Text.occursIn mark) with _ | line
  · right
    intro lines divided line member mentions
    obtain rfl := Text.linesOf_iff.1 divided
    exact List.find?_eq_none.1 found line member (Text.occursIn_iff.2 mentions)
  · left
    obtain ⟨mentions, earlier, later, divided, first⟩ := List.find?_eq_some_iff_append.1 found
    refine ⟨line, earlier, later, Text.linesOf_iff.2 divided, Text.occursIn_iff.1 mentions, ?_⟩
    intro other member mentioned
    have passedOver := first other member
    rw [show Text.occursIn mark other = true from Text.occursIn_iff.2 mentioned] at passedOver
    cases passedOver

end

/-- The id is the last number on the first line that mentions an ID. -/
theorem ids_are_last_numbers (printed : String) :
    (∀ id, parse? printed = some id ↔ ∃ line earlier later before after,
      Marked printed.toList line earlier later ∧ LastRun line before id.toList after) ∧
    (parse? printed = none ↔
      (∀ lines, Text.LinesOf printed.toList lines → ∀ line ∈ lines, ¬ ['I', 'D'] <:+: line) ∨
      ∃ line earlier later, Marked printed.toList line earlier later ∧
        ∀ character ∈ line, character.isDigit = false) := by
  constructor
  · intro id
    constructor
    · intro parsed
      rcases marked_or_silent printed.toList with ⟨line, earlier, later, marked⟩ | silent
      · rw [parse?_of_marked marked] at parsed
        obtain ⟨run, scanned, rfl⟩ := Option.map_eq_some_iff.1 parsed
        rcases lastRun_eq_iff.1 scanned with ⟨last⟩ | _
        exact ⟨line, earlier, later, _, _, marked, by simpa using last⟩
      · rw [parse?_of_silent silent] at parsed
        cases parsed
    · rintro ⟨line, earlier, later, before, after, marked, last⟩
      have scanned : lastRun line = some id.toList := lastRun_eq_iff.2 (.run last)
      rw [parse?_of_marked marked, scanned]
      simp
  · constructor
    · intro parsed
      rcases marked_or_silent printed.toList with ⟨line, earlier, later, marked⟩ | silent
      · rw [parse?_of_marked marked, Option.map_eq_none_iff] at parsed
        rcases lastRun_eq_iff.1 parsed with _ | bare
        exact .inr ⟨line, earlier, later, marked, bare⟩
      · exact .inl silent
    · rintro (silent | ⟨line, earlier, later, marked, bare⟩)
      · exact parse?_of_silent silent
      · have scanned : lastRun line = none := lastRun_eq_iff.2 (.none bare)
        rw [parse?_of_marked marked, scanned]
        rfl

/-- The second line is the first that mentions an ID, and a digit of another script ends the run. -/
example : parse? "CDISC0079I\r\nIDs: 12, 007\u0663\r\nID 5" = some "007" := by decide

end ScenarioBench.JobId

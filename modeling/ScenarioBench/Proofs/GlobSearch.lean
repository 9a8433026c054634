import Mathlib.Computability.Language
import ScenarioBench.Proofs.GlobLanguage

/-! The search for a way to fit a pattern.

A pattern denotes a language, one factor for each of its symbols, and the plain way to look for a name in it is to try
every end of the name behind a `*`. The comparison keeps one point to return to instead. It loses nothing by that:
between the last `*` and the place that was reached every symbol took exactly one character, so whatever an earlier `*`
could still reach, the last one reaches too. Main statement: the comparison ends within its bound, never leaves the
pattern or the name on the way, and accepts exactly the language.
-/

set_option autoImplicit false

namespace ScenarioBench.Glob

def symbolLanguage (symbol : Char) : Language Char :=
  {part : List Char | symbol = '*' ∨ (symbol = '?' ∧ part.length = 1) ∨ part = [symbol]}

def language (pattern : List Char) : Language Char :=
  (pattern.map symbolLanguage).prod

/-- The plain way to compare: a `*` is tried with every end of the name. -/
def fitsPlainly : List Char → List Char → Bool
  | [], name => name.isEmpty
  | symbol :: pattern, name =>
    if symbol = '*' then name.tails.any (fitsPlainly pattern)
    else match name with
      | [] => false
      | character :: rest => (symbol = '?' || symbol = character) && fitsPlainly pattern rest

section
variable {pattern name : List Char} {symbol : Char}

@[simp] theorem matches_nil_iff : Matches [] name ↔ name = [] := by
  constructor
  · rintro ⟨⟩
    rfl
  · rintro rfl
    exact .nil

theorem matches_star_iff : Matches ('*' :: pattern) name ↔ ∃ rest, rest <:+ name ∧ Matches pattern rest := by
  constructor
  · intro fits
    -- A `*` that takes more is met again with the rest of the name, so the induction is on the way it fits.
    generalize starred : '*' :: pattern = whole at fits
    induction fits with
    | nil => cases starred
    | none fits =>
      cases starred
      exact ⟨_, List.suffix_refl _, fits⟩
    | more _ ih =>
      obtain ⟨rest, isEnd, fits⟩ := ih starred
      exact ⟨rest, isEnd.trans (List.suffix_cons _ _), fits⟩
    | any => cases starred
    | itself notStar =>
      cases starred
      exact absurd rfl notStar
  · rintro ⟨rest, ⟨taken, rfl⟩, fits⟩
    induction taken with
    | nil => exact .none fits
    | cons character taken ih => exact .more ih

theorem matches_cons_iff (single : symbol ≠ '*') : Matches (symbol :: pattern) name ↔
    ∃ character rest, name = character :: rest ∧ (symbol = '?' ∨ symbol = character) ∧ Matches pattern rest := by
  constructor
  · intro fits
    cases fits with
    | none | more => exact absurd rfl single
    | any fits => exact ⟨_, _, rfl, .inl rfl, fits⟩
    | itself _ _ fits => exact ⟨_, _, rfl, .inr rfl, fits⟩
  · rintro ⟨character, rest, rfl, fitting, fits⟩
    by_cases anything : symbol = '?'
    · rw [anything]
      exact .any fits
    · obtain rfl := fitting.resolve_left anything
      exact .itself single anything fits

theorem mem_symbolLanguage_iff {part : List Char} (single : symbol ≠ '*') : part ∈ symbolLanguage symbol ↔
    ∃ character, part = [character] ∧ (symbol = '?' ∨ symbol = character) := by
  constructor
  · rintro (star | ⟨anything, one⟩ | rfl)
    · exact absurd star single
    · obtain ⟨character, rfl⟩ := List.length_eq_one_iff.1 one
      exact ⟨character, rfl, .inl anything⟩
    · exact ⟨symbol, rfl, .inr rfl⟩
  · rintro ⟨character, rfl, anything | rfl⟩
    · exact .inr (.inl ⟨anything, rfl⟩)
    · exact .inr (.inr rfl)

theorem mem_language_iff : name ∈ language pattern ↔ Matches pattern name := by
  induction pattern generalizing name with
  | nil => exact Language.mem_one name |>.trans matches_nil_iff.symm
  | cons symbol pattern ih =>
    have split : name ∈ language (symbol :: pattern) ↔
        ∃ part ∈ symbolLanguage symbol, ∃ rest, Matches pattern rest ∧ part ++ rest = name := by
      simp only [← ih]
      exact Language.mem_mul
    rw [split]
    by_cases star : symbol = '*'
    · subst star
      rw [matches_star_iff]
      constructor
      · rintro ⟨part, -, rest, fits, whole⟩
        exact ⟨rest, ⟨part, whole⟩, fits⟩
      · rintro ⟨rest, ⟨part, whole⟩, fits⟩
        exact ⟨part, .inl rfl, rest, fits, whole⟩
    · rw [matches_cons_iff star]
      constructor
      · rintro ⟨part, alone, rest, fits, rfl⟩
        obtain ⟨character, rfl, fitting⟩ := (mem_symbolLanguage_iff star).1 alone
        exact ⟨character, rest, rfl, fitting, fits⟩
      · rintro ⟨character, rest, rfl, fitting, fits⟩
        exact ⟨[character], (mem_symbolLanguage_iff star).2 ⟨character, rfl, fitting⟩, rest, fits, rfl⟩

@[simp] theorem fitsPlainly_iff : fitsPlainly pattern name = true ↔ Matches pattern name := by
  induction pattern generalizing name with
  | nil => rw [fitsPlainly, List.isEmpty_iff, matches_nil_iff]
  | cons symbol pattern ih =>
    by_cases star : symbol = '*'
    · subst star
      simp only [fitsPlainly, if_true, List.any_eq_true, List.mem_tails, ih, matches_star_iff]
    · rw [matches_cons_iff star]
      cases name with
      | nil => simp [fitsPlainly, star]
      | cons character rest => simp [fitsPlainly, star, ih]

theorem Matches.absorb {count : Nat} (fits : Matches ('*' :: pattern) (name.drop count)) :
    Matches ('*' :: pattern) name := by
  obtain ⟨rest, isEnd, fits⟩ := matches_star_iff.1 fits
  exact matches_star_iff.2 ⟨rest, isEnd.trans (List.drop_suffix _ _), fits⟩

theorem Matches.star_cases (fits : Matches ('*' :: pattern) name) :
    Matches pattern name ∨ Matches ('*' :: pattern) (name.drop 1) := by
  cases fits with
  | none fits => exact .inl fits
  | more fits => exact .inr fits
  | itself notStar => exact absurd rfl notStar

theorem Matches.behind {symbols : List Char} (plain : '*' ∉ symbols) (fits : Matches (symbols ++ pattern) name) :
    Matches pattern (name.drop symbols.length) := by
  induction symbols generalizing name with
  | nil => exact fits
  | cons symbol symbols ih =>
    obtain ⟨single, others⟩ := not_or.1 (mt List.mem_cons.2 plain)
    obtain ⟨character, rest, rfl, -, fits⟩ := (matches_cons_iff (Ne.symm single)).1 fits
    exact ih others fits

theorem all_of_matches_nil (fits : Matches pattern []) : pattern.all (· = '*') = true := by
  induction pattern with
  | nil => rfl
  | cons symbol pattern ih =>
    cases fits with
    | none fits => exact Bool.and_eq_true_iff.2 ⟨rfl, ih fits⟩

end

inductive Reached (pattern name : List Char) : Cursor → Prop where
  | start : Reached pattern name start
  | next {cursor next : Cursor} : Reached pattern name cursor → step pattern name cursor = .running next →
      Reached pattern name next

inductive Cursor.Moves (pattern name : List Char) (cursor : Cursor) : Progress → Prop where
  | ended : name.drop cursor.character = [] →
      Moves pattern name cursor (.finished ((pattern.drop cursor.symbol).all (· = '*')))
  | star {rest : List Char} : cursor.character < name.length → pattern.drop cursor.symbol = '*' :: rest →
      Moves pattern name cursor
        (.running ⟨cursor.symbol + 1, cursor.character, some (cursor.symbol, cursor.character)⟩)
  | single {symbol : Char} {rest : List Char} : cursor.character < name.length →
      pattern.drop cursor.symbol = symbol :: rest → symbol ≠ '*' →
      Moves pattern name cursor (.running ⟨cursor.symbol + 1, cursor.character + 1, cursor.back⟩)
  | returned {star taken : Nat} : cursor.character < name.length →
      ¬ Matches (pattern.drop cursor.symbol) (name.drop cursor.character) → cursor.back = some (star, taken) →
      Moves pattern name cursor (.running ⟨star + 1, taken + 1, some (star, taken + 1)⟩)
  | lost : ¬ Matches (pattern.drop cursor.symbol) (name.drop cursor.character) → cursor.back = none →
      Moves pattern name cursor (.finished false)

/-- A comparison is inside pattern and name, and since the last `*` every symbol was another one that took one
character. -/
structure Cursor.Inside (pattern name : List Char) (cursor : Cursor) : Prop where
  symbol : cursor.symbol ≤ pattern.length
  character : cursor.character ≤ name.length
  back : ∀ star taken, cursor.back = some (star, taken) → ∃ symbols, '*' ∉ symbols ∧
    pattern.drop star = '*' :: (symbols ++ pattern.drop cursor.symbol) ∧
    cursor.symbol = star + 1 + symbols.length ∧ cursor.character = taken + symbols.length

/-- Nothing is lost: a name in the language fits from here, or from the last `*` once that took one character more. -/
def Cursor.Complete (pattern name : List Char) (cursor : Cursor) : Prop :=
  Matches pattern name → Matches (pattern.drop cursor.symbol) (name.drop cursor.character) ∨
    ∃ star taken, cursor.back = some (star, taken) ∧ Matches (pattern.drop star) (name.drop (taken + 1))

def Progress.Complete (pattern name : List Char) : Progress → Prop
  | running cursor => cursor.Complete pattern name
  | finished answer => Matches pattern name → answer = true

def Cursor.passed (cursor : Cursor) : Nat :=
  match cursor.back with
  | some (star, taken) => star + taken + 1
  | none => 0

/-- A bound for the steps that are left: each of them moves the point to return to, or goes on in the pattern. -/
def Cursor.left (pattern name : List Char) (cursor : Cursor) : Nat :=
  -- A move of that point outweighs all that is taken back in the pattern.
  (pattern.length + name.length + 1 - cursor.passed) * (pattern.length + 1)
    + (pattern.length - cursor.symbol)

variable {pattern name : List Char} {cursor after : Cursor} {progress : Progress}

theorem step_moves (pattern name : List Char) (cursor : Cursor) :
    cursor.Moves pattern name (step pattern name cursor) := by
  have stuck (there : cursor.character < name.length)
      (unfit : ¬ Matches (pattern.drop cursor.symbol) (name.drop cursor.character)) :
      cursor.Moves pattern name (retreat cursor.back) := by
    rcases back : cursor.back with _ | ⟨star, taken⟩
    · exact .lost unfit back
    · exact .returned there unfit back
  unfold step
  split
  · rename_i ended
    exact .ended (List.drop_eq_nil_of_le (List.getElem?_eq_none_iff.1 ended))
  · rename_i character there
    obtain ⟨inside, same⟩ := List.getElem?_eq_some_iff.1 there
    split
    · rename_i star
      obtain ⟨below, known⟩ := List.getElem?_eq_some_iff.1 star
      exact .star inside (known ▸ List.drop_eq_getElem_cons below)
    · rename_i symbol notStar found
      obtain ⟨below, known⟩ := List.getElem?_eq_some_iff.1 found
      have symbols : pattern.drop cursor.symbol = symbol :: pattern.drop (cursor.symbol + 1) :=
        known ▸ List.drop_eq_getElem_cons below
      split
      · exact .single inside symbols notStar
      · rename_i unfit
        refine stuck inside fun fits => unfit ?_
        rw [symbols, List.drop_eq_getElem_cons inside, same, matches_cons_iff notStar] at fits
        obtain ⟨_, _, ⟨⟩, fitting, -⟩ := fits
        exact fitting
    · rename_i ended
      refine stuck inside fun fits => ?_
      rw [List.drop_eq_nil_of_le (List.getElem?_eq_none_iff.1 ended), matches_nil_iff] at fits
      exact absurd (List.drop_eq_nil_iff.1 fits) (Nat.not_le.2 inside)

theorem drop_succ {items rest : List Char} {count : Nat} {item : Char} (here : items.drop count = item :: rest) :
    count < items.length ∧ items.drop (count + 1) = rest := by
  constructor
  · refine Nat.lt_of_not_le fun ended => ?_
    rw [List.drop_eq_nil_of_le ended] at here
    cases here
  · rw [← List.tail_drop, here, List.tail_cons]

theorem Cursor.Inside.step (inside : cursor.Inside pattern name)
    (moves : cursor.Moves pattern name (.running after)) : after.Inside pattern name := by
  cases moves with
  | star there symbols =>
    obtain ⟨below, rest⟩ := drop_succ symbols
    refine ⟨below, inside.character, ?_⟩
    rintro _ _ ⟨⟩
    exact ⟨[], List.not_mem_nil, by rw [symbols, rest, List.nil_append], rfl, rfl⟩
  | @single symbol rest there symbols notStar =>
    obtain ⟨below, others⟩ := drop_succ symbols
    refine ⟨below, there, fun star taken back => ?_⟩
    obtain ⟨since, plain, whole, inPattern, inName⟩ := inside.back star taken back
    refine ⟨since ++ [symbol], ?_, ?_, ?_, ?_⟩
    · simp [plain, Ne.symm notStar]
    · rw [whole, symbols, others, List.append_assoc, List.singleton_append]
    · rw [inPattern, List.length_append]
      rfl
    · rw [inName, List.length_append]
      rfl
  | @returned star taken there unfit back =>
    obtain ⟨since, plain, whole, inPattern, inName⟩ := inside.back star taken back
    obtain ⟨below, others⟩ := drop_succ whole
    refine ⟨below, Nat.succ_le_of_lt (by omega), ?_⟩
    rintro _ _ ⟨⟩
    exact ⟨[], List.not_mem_nil, by rw [whole, others, List.nil_append], rfl, rfl⟩

theorem Reached.inside (reached : Reached pattern name cursor) : cursor.Inside pattern name := by
  induction reached with
  | start => exact ⟨Nat.zero_le _, Nat.zero_le _, nofun⟩
  | @next cursor _ _ goesOn ih => exact ih.step (goesOn ▸ step_moves pattern name cursor)

theorem Cursor.Inside.further {star taken : Nat} (inside : cursor.Inside pattern name)
    (back : cursor.back = some (star, taken)) (fits : Matches (pattern.drop star) (name.drop (taken + 1))) :
    ∃ count, cursor.character ≤ count ∧ Matches (pattern.drop cursor.symbol) (name.drop count) := by
  obtain ⟨since, plain, whole, -, inName⟩ := inside.back star taken back
  rw [whole] at fits
  obtain ⟨rest, isEnd, fits⟩ := matches_star_iff.1 fits
  rw [List.suffix_iff_eq_drop.1 isEnd] at fits
  have behind := fits.behind plain
  rw [List.drop_drop, List.drop_drop] at behind
  exact ⟨_, by omega, behind⟩

theorem Cursor.Complete.step (complete : cursor.Complete pattern name) (inside : cursor.Inside pattern name)
    (moves : cursor.Moves pattern name progress) : progress.Complete pattern name := by
  cases moves with
  | ended atEnd =>
    intro fits
    apply all_of_matches_nil
    rcases complete fits with here | ⟨star, taken, back, later⟩
    · rwa [atEnd] at here
    · obtain ⟨count, further, there⟩ := inside.further back later
      rwa [List.drop_eq_nil_of_le ((List.drop_eq_nil_iff.1 atEnd).trans further)] at there
  | @star rest there symbols =>
    intro fits
    -- An earlier `*` reaches nothing that this one does not reach.
    have here : Matches ('*' :: rest) (name.drop cursor.character) := by
      rw [← symbols]
      rcases complete fits with here | ⟨star, taken, back, later⟩
      · exact here
      · obtain ⟨count, further, there⟩ := inside.further back later
        obtain ⟨more, rfl⟩ := Nat.exists_eq_add_of_le further
        rw [symbols, ← List.drop_drop] at there
        exact symbols ▸ there.absorb
    rcases here.star_cases with nothing | more
    · exact .inl ((drop_succ symbols).2 ▸ nothing)
    · refine .inr ⟨_, _, rfl, ?_⟩
      rwa [symbols, ← List.drop_drop]
  | single there symbols notStar =>
    intro fits
    refine (complete fits).imp_left fun here => ?_
    rw [symbols] at here
    obtain ⟨character, rest, known, -, others⟩ := (matches_cons_iff notStar).1 here
    rwa [(drop_succ symbols).2, (drop_succ known).2]
  | returned there unfit back =>
    intro fits
    -- Nothing fits from here, so the last `*` takes one character more.
    obtain ⟨star, taken, same, later⟩ := (complete fits).resolve_left unfit
    obtain ⟨rfl, rfl⟩ := Prod.mk.inj (Option.some.inj (same.symm.trans back))
    obtain ⟨since, plain, whole, -⟩ := inside.back _ _ back
    rw [whole] at later
    rcases later.star_cases with nothing | more
    · exact .inl ((drop_succ whole).2 ▸ nothing)
    · refine .inr ⟨_, _, rfl, ?_⟩
      rwa [whole, ← List.drop_drop]
  | lost unfit back =>
    intro fits
    obtain ⟨star, taken, same, -⟩ := (complete fits).resolve_left unfit
    rw [back] at same
    cases same

theorem lt_of_leading {first second rest other most : Nat} (less : first < second) (atMost : rest ≤ most) :
    first * (most + 1) + rest < second * (most + 1) + other := by
  have whole := Nat.mul_le_mul_right (most + 1) (Nat.succ_le_of_lt less)
  rw [Nat.succ_mul] at whole
  omega

theorem Cursor.Inside.left_lt (inside : cursor.Inside pattern name)
    (moves : cursor.Moves pattern name (.running after)) :
    after.left pattern name < cursor.left pattern name := by
  cases moves with
  | star there symbols =>
    have below := (drop_succ symbols).1
    refine lt_of_leading ?_ (Nat.sub_le _ _)
    unfold passed
    rcases back : cursor.back with _ | ⟨star, taken⟩
    · dsimp only
      omega
    · -- The new `*` stands behind the last one, and no character was given back since.
      obtain ⟨since, -, -, inPattern, inName⟩ := inside.back star taken back
      dsimp only
      omega
  | single there symbols =>
    have below := (drop_succ symbols).1
    show _ * _ + (pattern.length - (cursor.symbol + 1)) < _ * _ + (pattern.length - cursor.symbol)
    have same : cursor.passed = passed ⟨cursor.symbol + 1, cursor.character + 1, cursor.back⟩ := rfl
    rw [← same]
    omega
  | @returned star taken there unfit back =>
    obtain ⟨since, -, whole, inPattern, inName⟩ := inside.back star taken back
    have below := inside.symbol
    refine lt_of_leading ?_ (Nat.sub_le _ _)
    unfold passed
    rw [back]
    dsimp only
    omega

theorem run_decides {fuel : Nat} (inside : cursor.Inside pattern name) (sound : cursor.Sound pattern name)
    (complete : cursor.Complete pattern name) (enough : cursor.left pattern name < fuel) :
    ∃ answer, run pattern name fuel cursor = some answer ∧ (answer = true ↔ Matches pattern name) := by
  induction fuel generalizing cursor with
  | zero => exact absurd enough (Nat.not_lt_zero _)
  | succ fuel ih =>
    have moves := step_moves pattern name cursor
    have sound := step_sound sound
    have complete := complete.step inside moves
    rw [run]
    rcases stepped : step pattern name cursor with after | answer <;> rw [stepped] at moves sound complete
    · exact ih (inside.step moves) sound complete (by have := inside.left_lt moves; omega)
    · exact ⟨answer, rfl, sound, complete⟩

theorem left_start_lt_bound (pattern name : List Char) : start.left pattern name < bound pattern name := by
  have whole : (name.length + pattern.length + 2) * (pattern.length + 1) ≤ bound pattern name := by
    unfold bound
    rw [Nat.mul_assoc]
    exact Nat.le_mul_of_pos_left _ (Nat.succ_pos _)
  refine Nat.lt_of_lt_of_le ?_ whole
  have : start.left pattern name =
      (name.length + pattern.length + 1) * (pattern.length + 1) + pattern.length := by
    show (pattern.length + name.length + 1 - 0) * _ + (pattern.length - 0) = _
    rw [Nat.sub_zero, Nat.sub_zero, Nat.add_comm pattern.length name.length]
  rw [this, Nat.succ_mul (name.length + pattern.length + 1)]
  omega

theorem accepts_iff {pattern name : String} :
    accepts pattern name = true ↔ name.toList ∈ language pattern.toList := by
  obtain ⟨answer, ended, decided⟩ :=
    run_decides Reached.start.inside ⟨id, nofun⟩ .inl (left_start_lt_bound pattern.toList name.toList)
  rw [accepts, fits, ended, mem_language_iff]
  exact decided

/-- The comparison ends, stays inside pattern and name, and accepts the language of the pattern, as the plain way
does. -/
theorem comparison_decides_language (pattern name : String) :
    (∀ cursor, Reached pattern.toList name.toList cursor →
      cursor.symbol ≤ pattern.toList.length ∧ cursor.character ≤ name.toList.length) ∧
    (∀ fuel, bound pattern.toList name.toList ≤ fuel →
      run pattern.toList name.toList fuel start = some (accepts pattern name)) ∧
    (accepts pattern name = true ↔ name.toList ∈ language pattern.toList) ∧
    accepts pattern name = fitsPlainly pattern.toList name.toList := by
  have decides (fuel : Nat) (enough : bound pattern.toList name.toList ≤ fuel) : ∃ answer,
      run pattern.toList name.toList fuel start = some answer ∧
        (answer = true ↔ Matches pattern.toList name.toList) :=
    run_decides Reached.start.inside ⟨id, nofun⟩ .inl
      (Nat.lt_of_lt_of_le (left_start_lt_bound pattern.toList name.toList) enough)
  obtain ⟨answer, ended, decided⟩ := decides _ (Nat.le_refl _)
  have answered : accepts pattern name = answer := by
    rw [accepts, fits, ended]
    rfl
  refine ⟨fun cursor reached => ⟨reached.inside.symbol, reached.inside.character⟩, fun fuel enough => ?_, ?_, ?_⟩
  · obtain ⟨other, endedToo, decidedToo⟩ := decides fuel enough
    rw [endedToo, answered, Bool.eq_iff_iff.2 (decidedToo.trans decided.symm)]
  · rw [answered, decided, mem_language_iff]
  · rw [answered, Bool.eq_iff_iff, decided, fitsPlainly_iff]

/-- The `*` takes one character more when the symbol behind it fits too early. -/
theorem comparison_decides_language_returning :
    Reached "*ab".toList "aab".toList ⟨1, 1, some (0, 1)⟩ ∧ 1 ≤ "*ab".toList.length ∧ 1 ≤ "aab".toList.length ∧
    bound "*ab".toList "aab".toList ≤ 200 ∧ run "*ab".toList "aab".toList 200 start = some true ∧
    "aab".toList ∈ language "*ab".toList := by
  have returning : Reached "*ab".toList "aab".toList ⟨1, 1, some (0, 1)⟩ :=
    .next (.next (.next .start rfl) rfl) rfl
  obtain ⟨inside, ends, language, -⟩ := comparison_decides_language "*ab" "aab"
  have accepted : accepts "*ab" "aab" = true := by decide
  have enough : bound "*ab".toList "aab".toList ≤ 200 := by decide
  exact ⟨returning, (inside _ returning).1, (inside _ returning).2, enough, accepted ▸ ends 200 enough,
    language.1 accepted⟩

end ScenarioBench.Glob

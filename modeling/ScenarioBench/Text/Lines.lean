/-! Lines and blanks of a text.

A line ends before a line feed; a carriage return directly before that line feed belongs to the
line end. Blanks are the characters with the White_Space property.
-/

set_option autoImplicit false

namespace ScenarioBench.Text

def blankRanges : List (Nat × Nat) :=
  [(0x09, 0x0D), (0x20, 0x20), (0x85, 0x85), (0xA0, 0xA0), (0x1680, 0x1680), (0x2000, 0x200A),
   (0x2028, 0x2029), (0x202F, 0x202F), (0x205F, 0x205F), (0x3000, 0x3000)]

def isBlank (character : Char) : Bool :=
  blankRanges.any fun (low, high) => low ≤ character.toNat && character.toNat ≤ high

def trimStart (characters : List Char) : List Char :=
  characters.dropWhile isBlank

def trimEnd (characters : List Char) : List Char :=
  (characters.reverse.dropWhile isBlank).reverse

/-- The pieces between line feeds; a line feed at the very end starts no further piece. -/
def pieces : List Char → List (List Char × Bool)
  | [] => []
  | '\n' :: rest => ([], true) :: pieces rest
  | head :: rest =>
    match pieces rest with
    | [] => [([head], false)]
    | (piece, ended) :: others => (head :: piece, ended) :: others

def dropReturn (characters : List Char) : List Char :=
  if characters.getLast? = some '\r' then characters.dropLast else characters

def lines (characters : List Char) : List (List Char) :=
  (pieces characters).map fun (piece, ended) => if ended then dropReturn piece else piece

/-- The lines of a text, told by its line ends: a line feed, or a carriage return and a line feed. The last line
may do without. -/
inductive LinesOf : List Char → List (List Char) → Prop where
  | done : LinesOf [] []
  | last {line : List Char} : line ≠ [] → '\n' ∉ line → LinesOf line [line]
  | fed {line rest : List Char} {others : List (List Char)} : '\n' ∉ line → line.getLast? ≠ some '\r' →
      LinesOf rest others → LinesOf (line ++ '\n' :: rest) (line :: others)
  | returned {line rest : List Char} {others : List (List Char)} : '\n' ∉ line →
      LinesOf rest others → LinesOf (line ++ '\r' :: '\n' :: rest) (line :: others)

section
variable {line : List Char}

@[simp] theorem pieces_append_feed (plain : '\n' ∉ line) (rest : List Char) :
    pieces (line ++ '\n' :: rest) = (line, true) :: pieces rest := by
  induction line with
  | nil => simp [pieces]
  | cons head tail ih =>
    obtain ⟨other, later⟩ := not_or.1 fun either => plain (List.mem_cons.2 either)
    rw [List.cons_append, pieces, ih later]
    exact fun same => other same.symm

theorem pieces_of_plain (plain : '\n' ∉ line) (nonempty : line ≠ []) : pieces line = [(line, false)] := by
  induction line with
  | nil => exact absurd rfl nonempty
  | cons head tail ih =>
    obtain ⟨other, later⟩ := not_or.1 fun either => plain (List.mem_cons.2 either)
    have unfolded := pieces.eq_3 head tail fun same => other same.symm
    cases tail with
    | nil => simpa [pieces] using unfolded
    | cons next more => rw [unfolded, ih later (List.cons_ne_nil _ _)]

@[simp] theorem lines_append_feed (plain : '\n' ∉ line) (rest : List Char) :
    lines (line ++ '\n' :: rest) = dropReturn line :: lines rest := by
  simp [lines, plain]

theorem lines_of_plain (plain : '\n' ∉ line) (nonempty : line ≠ []) : lines line = [line] := by
  simp [lines, pieces_of_plain plain nonempty]

@[simp] theorem dropReturn_append (line : List Char) : dropReturn (line ++ ['\r']) = line := by
  simp [dropReturn]

theorem linesOf_lines (characters : List Char) : LinesOf characters (lines characters) := by
  by_cases fed : '\n' ∈ characters
  · -- The first line feed ends the first line; what is behind it is shorter.
    obtain ⟨line, rest, rfl, plain⟩ := List.eq_append_cons_of_mem fed
    have others := linesOf_lines rest
    rw [lines_append_feed plain]
    by_cases returned : line.getLast? = some '\r'
    · obtain ⟨front, rfl⟩ := List.getLast?_eq_some_iff.1 returned
      have plainFront : '\n' ∉ front := fun member => plain (List.mem_append_left _ member)
      rw [dropReturn_append, List.append_assoc]
      exact .returned plainFront others
    · rw [dropReturn, if_neg returned]
      exact .fed plain returned others
  · by_cases empty : characters = []
    · subst empty
      exact .done
    · rw [lines_of_plain fed empty]
      exact .last empty fed
termination_by characters.length
decreasing_by subst_vars; simp; omega

theorem linesOf_iff {characters : List Char} {parts : List (List Char)} :
    LinesOf characters parts ↔ lines characters = parts := by
  constructor
  · intro divided
    induction divided with
    | done => rfl
    | last nonempty plain => exact lines_of_plain plain nonempty
    | fed plain unreturned _ ih => rw [lines_append_feed plain, ih, dropReturn, if_neg unreturned]
    | @returned line rest _ plain _ ih =>
      have plainer : '\n' ∉ line ++ ['\r'] := by simp [plain]
      have divided := lines_append_feed plainer rest
      rw [List.append_assoc, dropReturn_append, ih] at divided
      exact divided
  · rintro rfl
    exact linesOf_lines characters

end

end ScenarioBench.Text

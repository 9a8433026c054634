import Mathlib
import ScenarioBench.Proofs.WrittenFiles
import ScenarioBench.Run.TestList

/-! Lists of scenarios as files.

A grammar tells which texts list which names: a line holds one name with blanks behind it, or only blanks, or a
comment. Main statement: reading gives exactly the names that the grammar gives, so that every file that lists names
is read as those names, and names that were read can be written and read again.
-/

set_option autoImplicit false

namespace ScenarioBench

namespace Text

structure Blanks (characters : List Char) : Prop where
  blank : ∀ character ∈ characters, isBlank character = true
  unbroken : '\n' ∉ characters

section
variable {line blanks : List Char}

@[simp] theorem trimEnd_append_blanks (line : List Char) (blank : ∀ character ∈ blanks, isBlank character = true) :
    trimEnd (line ++ blanks) = trimEnd line := by
  have reversed : ∀ character ∈ blanks.reverse, isBlank character = true :=
    fun character member => blank character (List.mem_reverse.1 member)
  rw [trimEnd, List.reverse_append, List.dropWhile_append_of_pos reversed]
  rfl

theorem exists_trimmed (line : List Char) : ∃ blanks, line = trimEnd line ++ blanks ∧
    ∀ character ∈ blanks, isBlank character = true :=
  ⟨line.rtakeWhile isBlank, List.rdropWhile_append_rtakeWhile.symm, fun _ => List.mem_rtakeWhile_imp⟩

theorem trimEnd_eq_self_iff : trimEnd line = line ↔
    ∀ character, line.getLast? = some character → isBlank character = false := by
  refine List.rdropWhile_eq_self_iff.trans ⟨fun ends character last => ?_, fun ends nonempty => ?_⟩
  · obtain ⟨front, rfl⟩ := List.getLast?_eq_some_iff.1 last
    simpa using ends
  · simp [ends _ (List.getLast?_eq_some_getLast nonempty)]

@[simp] theorem trimEnd_trimEnd (line : List Char) : trimEnd (trimEnd line) = trimEnd line :=
  List.rdropWhile_idempotent isBlank line

@[simp] theorem trimEnd_of_blank (blank : ∀ character ∈ line, isBlank character = true) : trimEnd line = [] :=
  List.rdropWhile_eq_nil_iff.2 blank

theorem trimEnd_append_cons {first : Char} (front rest : List Char) (plain : isBlank first = false) :
    trimEnd (front ++ first :: rest) = front ++ first :: trimEnd rest := by
  obtain ⟨blanks, whole, blank⟩ := exists_trimmed rest
  have split : front ++ first :: rest = (front ++ first :: trimEnd rest) ++ blanks := by
    rw [List.append_assoc, List.cons_append, ← whole]
  rw [split, trimEnd_append_blanks _ blank, trimEnd_eq_self_iff]
  intro character ends
  rw [List.getLast?_append, List.getLast?_cons] at ends
  rcases last : (trimEnd rest).getLast? with _ | other
  · rw [last] at ends
    cases ends
    exact plain
  · rw [last] at ends
    cases ends
    exact trimEnd_eq_self_iff.1 (trimEnd_trimEnd rest) other last

@[simp] theorem trimEnd_dropReturn (line : List Char) : trimEnd (dropReturn line) = trimEnd line := by
  by_cases returned : line.getLast? = some '\r'
  · obtain ⟨front, rfl⟩ := List.getLast?_eq_some_iff.1 returned
    rw [dropReturn_append, trimEnd_append_blanks front (List.forall_mem_singleton.2 (by decide))]
  · rw [dropReturn, if_neg returned]

end

end Text

namespace TestList

/-- What can be listed: a text of one line that does not end with a blank and whose first character that is no blank
is there and is not `#`. -/
structure Listable (name : List Char) : Prop where
  unbroken : '\n' ∉ name
  trimmed : ∀ character, name.getLast? = some character → Text.isBlank character = false
  marked : ∃ indent first rest, name = indent ++ first :: rest ∧
    (∀ character ∈ indent, Text.isBlank character = true) ∧ Text.isBlank first = false ∧ first ≠ '#'

/-- What one line lists. -/
inductive Tells : List Char → List (List Char) → Prop where
  | name {name blanks : List Char} : Listable name → Text.Blanks blanks → Tells (name ++ blanks) [name]
  | blank {line : List Char} : Text.Blanks line → Tells line []
  | comment {indent rest : List Char} : Text.Blanks indent → '\n' ∉ rest → Tells (indent ++ '#' :: rest) []

/-- What a text lists, line by line; each line ends with a line feed or with a carriage return and a line feed, and
the last one may do without. -/
inductive Lists : List Char → List (List Char) → Prop where
  | last {line : List Char} {names : List (List Char)} : Tells line names → Lists line names
  | fed {line rest : List Char} {names more : List (List Char)} : Tells line names → Lists rest more →
      Lists (line ++ '\n' :: rest) (names ++ more)
  | returned {line rest : List Char} {names more : List (List Char)} : Tells line names → Lists rest more →
      Lists (line ++ '\r' :: '\n' :: rest) (names ++ more)

def namesOfLine (line : List Char) : List (List Char) :=
  [Text.trimEnd line].filter isName

section
variable {line name text rest : List Char} {listed : List (List Char)}

theorem names_eq_flatMap (text : List Char) : names text = (Text.lines text).flatMap namesOfLine := by
  rw [names]
  induction Text.lines text with
  | nil => rfl
  | cons line others ih =>
    rw [List.flatMap_cons, ← ih]
    exact List.filter_append [Text.trimEnd line] (others.map Text.trimEnd)

theorem isName_append {indent : List Char} {first : Char} (rest : List Char)
    (blank : ∀ character ∈ indent, Text.isBlank character = true) (plain : Text.isBlank first = false) :
    isName (indent ++ first :: rest) = decide (first ≠ '#') := by
  have start : Text.trimStart (indent ++ first :: rest) = first :: rest := by
    rw [Text.trimStart, List.dropWhile_append_of_pos blank, List.dropWhile_cons, plain]
    rfl
  rw [isName, start]
  simp

theorem exists_first (nonempty : ¬ ∀ character ∈ line, Text.isBlank character = true) :
    ∃ indent first rest, line = indent ++ first :: rest ∧
      (∀ character ∈ indent, Text.isBlank character = true) ∧ Text.isBlank first = false := by
  rcases found : line.dropWhile Text.isBlank with _ | ⟨first, rest⟩
  · exact absurd (List.dropWhile_eq_nil_iff.1 found) nonempty
  · refine ⟨line.takeWhile Text.isBlank, first, rest, ?_, List.all_eq_true.1 List.all_takeWhile, ?_⟩
    · rw [← found, List.takeWhile_append_dropWhile]
    · have stopped := List.head?_dropWhile_not Text.isBlank line
      rw [found] at stopped
      simpa using stopped

theorem Tells.unbroken (tells : Tells line listed) : '\n' ∉ line := by
  cases tells with
  | name listable blanks => simp [listable.unbroken, blanks.unbroken]
  | blank blanks => exact blanks.unbroken
  | comment indent unbroken => simp [indent.unbroken, unbroken]

theorem Tells.listable (tells : Tells line listed) : ∀ name ∈ listed, Listable name := by
  cases tells with
  | name listable => exact List.forall_mem_singleton.2 listable
  | blank | comment => exact List.forall_mem_nil _

theorem Listable.isName (listable : Listable name) : isName name = true := by
  obtain ⟨indent, first, rest, rfl, blank, plain, other⟩ := listable.marked
  rw [isName_append rest blank plain]
  exact decide_eq_true other

theorem Tells.namesOfLine (tells : Tells line listed) : namesOfLine line = listed := by
  cases tells with
  | @name name blanks listable blanks =>
    rw [TestList.namesOfLine, Text.trimEnd_append_blanks name blanks.blank,
      Text.trimEnd_eq_self_iff.2 listable.trimmed]
    simp [listable.isName]
  | blank blanks =>
    rw [TestList.namesOfLine, Text.trimEnd_of_blank blanks.blank]
    rfl
  | @comment indent rest indented =>
    -- Trimming leaves the mark of the comment where it is.
    rw [TestList.namesOfLine, Text.trimEnd_append_cons indent rest (by decide)]
    simp [isName_append (Text.trimEnd rest) indented.blank (by decide : Text.isBlank '#' = false)]

theorem tells_namesOfLine (unbroken : '\n' ∉ line) : Tells line (namesOfLine line) := by
  by_cases idle : ∀ character ∈ line, Text.isBlank character = true
  · have tells : Tells line [] := .blank ⟨idle, unbroken⟩
    rwa [tells.namesOfLine]
  · obtain ⟨indent, first, rest, rfl, indented, plain⟩ := exists_first idle
    by_cases comment : first = '#'
    · subst comment
      have tells : Tells (indent ++ '#' :: rest) [] := by
        refine .comment ⟨indented, fun member => unbroken (List.mem_append_left _ member)⟩ fun member => ?_
        exact unbroken (List.mem_append_right _ (List.mem_cons_of_mem _ member))
      rwa [tells.namesOfLine]
    · obtain ⟨blanks, whole, blank⟩ := Text.exists_trimmed (indent ++ first :: rest)
      rw [whole, List.mem_append, not_or] at unbroken
      have listable : Listable (Text.trimEnd (indent ++ first :: rest)) :=
        ⟨unbroken.1, Text.trimEnd_eq_self_iff.1 (Text.trimEnd_trimEnd _),
          indent, first, Text.trimEnd rest, Text.trimEnd_append_cons indent rest plain, indented, plain, comment⟩
      have tells := Tells.name listable ⟨blank, unbroken.2⟩
      rw [← whole] at tells
      rwa [tells.namesOfLine]

/-! ### Texts -/

theorem names_append_feed (unbroken : '\n' ∉ line) (rest : List Char) :
    names (line ++ '\n' :: rest) = namesOfLine line ++ names rest := by
  rw [names_eq_flatMap, names_eq_flatMap, Text.lines_append_feed unbroken, List.flatMap_cons]
  have same : namesOfLine (Text.dropReturn line) = namesOfLine line := by
    rw [namesOfLine, namesOfLine, Text.trimEnd_dropReturn]
  rw [same]

theorem names_of_unbroken (unbroken : '\n' ∉ line) : names line = namesOfLine line := by
  rw [names_eq_flatMap]
  by_cases nothing : line = []
  · subst nothing
    rfl
  · rw [Text.lines_of_plain unbroken nothing, List.flatMap_singleton]

theorem Lists.names (lists : Lists text listed) : names text = listed := by
  induction lists with
  | last tells => rw [names_of_unbroken tells.unbroken, tells.namesOfLine]
  | fed tells _ ih => rw [names_append_feed tells.unbroken, tells.namesOfLine, ih]
  | @returned line rest names more tells _ ih =>
    -- The carriage return is one more blank at the end of the line.
    have unbroken : '\n' ∉ line ++ ['\r'] := by simp [tells.unbroken]
    have same : namesOfLine (line ++ ['\r']) = namesOfLine line := by
      rw [namesOfLine, namesOfLine, Text.trimEnd_append_blanks line (List.forall_mem_singleton.2 (by decide))]
    have read := names_append_feed unbroken rest
    rw [List.append_assoc, List.singleton_append, same, tells.namesOfLine, ih] at read
    exact read

theorem lists_names (text : List Char) : Lists text (names text) := by
  rw [names_eq_flatMap]
  have divided := Text.linesOf_lines text
  generalize Text.lines text = parts at divided ⊢
  induction divided with
  | done => exact .last (.blank ⟨List.forall_mem_nil _, List.not_mem_nil⟩)
  | last nonempty unbroken =>
    rw [List.flatMap_singleton]
    exact .last (tells_namesOfLine unbroken)
  | fed unbroken _ _ ih => exact .fed (tells_namesOfLine unbroken) ih
  | returned unbroken _ ih => exact .returned (tells_namesOfLine unbroken) ih

theorem names_eq_iff : names text = listed ↔ Lists text listed :=
  ⟨fun read => read ▸ lists_names text, Lists.names⟩

theorem Lists.listable (lists : Lists text listed) : ∀ name ∈ listed, Listable name := by
  induction lists with
  | last tells => exact tells.listable
  | fed tells _ ih | returned tells _ ih => exact List.forall_mem_append.2 ⟨tells.listable, ih⟩

def written (names : List String) : String :=
  .ofList (names.flatMap (·.toList ++ ['\n']))

theorem lists_written {names : List String} (listable : ∀ name ∈ names, Listable name.toList) :
    Lists (written names).toList (names.map String.toList) := by
  have noBlanks : Text.Blanks [] := ⟨List.forall_mem_nil _, List.not_mem_nil⟩
  rw [written, String.toList_ofList]
  induction names with
  | nil => exact .last (.blank noBlanks)
  | cons name rest ih =>
    obtain ⟨first, others⟩ := List.forall_mem_cons.1 listable
    have tells := Tells.name first noBlanks
    rw [List.append_nil] at tells
    have lists := Lists.fed tells (ih others)
    rwa [List.flatMap_cons, List.append_assoc]

end

section
variable {tree : FileTree} {path : Path} {text : String} {names : List String}

theorem ofText_eq_iff : ofText text = names ↔ Lists text.toList (names.map String.toList) := by
  rw [← names_eq_iff, ofText]
  constructor
  · rintro rfl
    simp [Function.comp_def]
  · intro read
    rw [read]
    simp [Function.comp_def]

theorem read_of_text (held : tree.read path = .ok (Octets.ofText text)) :
    read tree path = .ok (ofText text) := by
  rw [read, FileTree.readText_of_read held]

end

/-- A file that lists names is read as them, in their order. Whatever text a file holds, only names that can be listed
are read from it, and once they are written one a line they are read again. -/
theorem read_lists :
    (∀ (tree : FileTree) path text names, tree.read path = .ok (Octets.ofText text) →
      Lists text.toList (names.map String.toList) → read tree path = .ok names) ∧
    ∀ (tree : FileTree) path text, tree.read path = .ok (Octets.ofText text) →
      ∃ names, read tree path = .ok names ∧ (∀ name ∈ names, Listable name.toList) ∧
        ∀ (other : FileTree) target after, other.write target (Octets.ofText (written names)) = .ok after →
          read after target = .ok names := by
  constructor
  · intro tree path text names held lists
    rw [read_of_text held, ofText_eq_iff.2 lists]
  · intro tree path text held
    have lists := ofText_eq_iff.1 (Eq.refl (ofText text))
    have listable : ∀ name ∈ ofText text, Listable name.toList :=
      fun name member => lists.listable _ (List.mem_map_of_mem member)
    refine ⟨ofText text, read_of_text held, listable, fun other target after written => ?_⟩
    rw [read_of_text (FileTree.read_of_write written), ofText_eq_iff.2 (lists_written listable)]

/-- An indented comment, both kinds of line ends, blanks behind a name, an empty line, and an indented name with the
mark of comments in it and no line end. -/
theorem read_lists_mixed : ∃ tree : FileTree, ∃ path,
    tree.read path = .ok (Octets.ofText "\t# note\r\nalpha \r\n\n  beta#") ∧
    Lists "\t# note\r\nalpha \r\n\n  beta#".toList (["alpha", "  beta#"].map String.toList) ∧
    read tree path = .ok ["alpha", "  beta#"] := by
  have noBlanks : Text.Blanks [] := ⟨List.forall_mem_nil _, List.not_mem_nil⟩
  have blanks (character : Char) (blank : [character].all Text.isBlank = true) (other : '\n' ∉ [character]) :
      Text.Blanks [character] := ⟨List.all_eq_true.1 blank, other⟩
  have comment : Tells "\t# note".toList [] :=
    @Tells.comment ['\t'] " note".toList (blanks '\t' (by decide) (by decide)) (by decide)
  have alpha : Tells "alpha ".toList ["alpha".toList] :=
    @Tells.name "alpha".toList [' ']
      ⟨by decide, Text.trimEnd_eq_self_iff.1 (by decide), [], 'a', "lpha".toList, rfl, List.forall_mem_nil _,
        by decide, by decide⟩
      (blanks ' ' (by decide) (by decide))
  have beta : Tells "  beta#".toList ["  beta#".toList] :=
    @Tells.name "  beta#".toList []
      ⟨by decide, Text.trimEnd_eq_self_iff.1 (by decide), [' ', ' '], 'b', "eta#".toList, rfl,
        List.all_eq_true.1 (by decide), by decide, by decide⟩
      noBlanks
  have lists : Lists "\t# note\r\nalpha \r\n\n  beta#".toList (["alpha", "  beta#"].map String.toList) :=
    .returned comment (.returned alpha (.fed (.blank noBlanks) (.last beta)))
  have held : (FileTree.mk [([Octets.ofText "list"], .file (Octets.ofText "\t# note\r\nalpha \r\n\n  beta#") false)]
      [] (by decide) (by decide) FileTree.named_nil).read (.ofText "list") =
        .ok (Octets.ofText "\t# note\r\nalpha \r\n\n  beta#") := by
    cbv
  exact ⟨_, _, held, lists, read_lists.1 _ _ _ _ held lists⟩

end TestList

end ScenarioBench

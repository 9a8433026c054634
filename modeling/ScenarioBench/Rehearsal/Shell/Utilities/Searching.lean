import ScenarioBench.Rehearsal.Shell.ExpressionReader
import ScenarioBench.Rehearsal.Shell.Utilities.Placing

/-! The utility that searches files for lines. -/

set_option autoImplicit false

namespace ScenarioBench.Rehearsal.Shell.Utility

def grepUsage : Usage where
  name := "grep"
  letters := (['E', 'F', 'G', 'P', 'a', 'b', 'c', 'h', 'H', 'i', 'I', 'l', 'L', 'n', 'o', 'q', 'r',
    'R', 's', 'T', 'u', 'U', 'v', 'V', 'w', 'x', 'y', 'z', 'Z', 'λ'].map
      fun letter => (letter, Need.nothing))
    ++ [('A', .value), ('B', .value), ('C', .value), ('e', .value), ('f', .value), ('m', .value),
      ('d', .value), ('D', .value), ('ι', .value), ('ε', .value), ('κ', .perhaps)]
  words := [("extended-regexp", 'E'), ("fixed-strings", 'F'), ("basic-regexp", 'G'),
    ("perl-regexp", 'P'), ("text", 'a'), ("byte-offset", 'b'), ("count", 'c'), ("no-filename", 'h'),
    ("with-filename", 'H'), ("ignore-case", 'i'), ("files-with-matches", 'l'),
    ("files-without-match", 'L'), ("line-number", 'n'), ("only-matching", 'o'), ("quiet", 'q'),
    ("silent", 'q'), ("recursive", 'r'), ("dereference-recursive", 'R'), ("no-messages", 's'),
    ("invert-match", 'v'), ("word-regexp", 'w'), ("line-regexp", 'x'), ("null-data", 'z'),
    ("null", 'Z'), ("after-context", 'A'), ("before-context", 'B'), ("context", 'C'),
    ("regexp", 'e'), ("file", 'f'), ("max-count", 'm'), ("include", 'ι'), ("exclude", 'ε'),
    ("color", 'κ'), ("colour", 'κ'), ("line-buffered", 'λ')]
  stops := false
  misuse := 2

structure Wanted where
  expressions : List Expression
  ignoresCase : Bool
  wholeWords : Bool
  wholeLines : Bool

namespace Wanted

def endAt? (wanted : Wanted) (subject : Subject) (position : Nat) (expression : Expression) :
    Option Nat :=
  let size := subject.text.size
  let isWord (place : Nat) : Bool := (subject.character? place).any Subject.isWordCharacter
  let isWhole (last : Nat) : Bool :=
    (0 < position && isWord (position - 1)) || isWord last
  if wanted.wholeLines && position ≠ 0 then none
  else if wanted.wholeLines || wanted.wholeWords then
    let places := (expression.run subject expression.hasReferences ⟨position, []⟩).map (·.position)
    let counted := places.filter fun last =>
      if wanted.wholeLines then last = size else !isWhole last
    counted.foldl (fun best last => match best with
      | some longest => some (max longest last)
      | none => some last) none
  else (expression.matchAt? subject position).map (·.position)

def search? (wanted : Wanted) (subject : Subject) : Nat → Nat → Option (Nat × Nat)
  | 0, _ => none
  | fuel + 1, position =>
    let ends := wanted.expressions.filterMap (wanted.endAt? subject position)
    match ends with
    | [] => search? wanted subject fuel (position + 1)
    | first :: others => some (position, others.foldl max first)

def allIn (wanted : Wanted) (subject : Subject) : Nat → Nat → List (Nat × Nat)
  | 0, _ => []
  | fuel + 1, position =>
    match wanted.search? subject (subject.text.size + 1 - position) position with
    | none => []
    | some (first, last) =>
      if first = last then allIn wanted subject fuel (first + 1)
      else (first, last) :: allIn wanted subject fuel last

def subject (wanted : Wanted) (line : List Char) : Subject :=
  ⟨line.toArray, wanted.ignoresCase, false⟩

def isIn (wanted : Wanted) (line : List Char) : Bool :=
  (wanted.search? (wanted.subject line) (line.length + 1) 0).isSome

end Wanted

structure Finding where
  isInverted : Bool
  counts : Bool
  namesWith : Bool
  namesWithout : Bool
  onlyMatches : Bool
  isQuiet : Bool
  numbers : Bool
  offsets : Bool
  hasNames : Bool
  takesAll : Bool
  most : Option Nat
  before : Nat
  after : Nat
  hasContext : Bool
  lineMark : String
  nameMark : Option String

namespace Finding

def heading (finding : Finding) (file : String) (number offset : Nat) (mark : String) : String :=
  (if finding.hasNames then file ++ finding.nameMark.getD mark else "")
    ++ (if finding.numbers then toString number ++ mark else "")
    ++ (if finding.offsets then toString offset ++ mark else "")

/-- The numbers of the lines that are shown around others, each with whether it is one of these. -/
def around (finding : Finding) (count : Nat) (selected : List Nat) : List (Nat × Bool) :=
  (List.range count).filterMap fun number =>
    if selected.contains number then some (number, true)
    else if selected.any fun own =>
      (own < number && number ≤ own + finding.after) ||
        (number < own && own ≤ number + finding.before) then some (number, false)
    else none

end Finding

/-- A line of a file: its text as it is written and as characters, its number and where it starts. -/
structure NumberedLine where
  written : String
  characters : List Char
  number : Nat
  offset : Nat

def numberedLines (isUnicode : Bool) (mark : String) (text : String) : List NumberedLine :=
  let parts := text.splitOn mark
  let parts := if parts.getLast? = some "" then parts.dropLast else parts
  let step (state : Nat × Nat × List NumberedLine) (line : String) :
      Nat × Nat × List NumberedLine :=
    let (number, offset, found) := state
    (number + 1, offset + line.length + 1,
      ⟨line, (decode isUnicode line).toList, number, offset⟩ :: found)
  (parts.foldl step (1, 0, [])).2.2.reverse

def showFound (finding : Finding) (wanted : Wanted) (isUnicode isBehind : Bool)
    (file text : String) : Doing Bool := do
  let all := numberedLines isUnicode finding.lineMark text
  let selected := all.filter fun line => wanted.isIn line.characters != finding.isInverted
  let selected := match finding.most with
    | some most => selected.take most
    | none => selected
  let isFound := !selected.isEmpty
  let named (mark : String) : String := file ++ finding.nameMark.getD mark
  if finding.isQuiet then return isFound
  if finding.namesWith || finding.namesWithout then
    if isFound = finding.namesWith then Doing.write 1 (named "\n")
    return isFound
  if finding.counts then
    Doing.write 1 ((if finding.hasNames then named ":" else "") ++ toString selected.length ++ "\n")
    return isFound
  let isBinary := !finding.takesAll && text.toList.contains '\x00'
  let complainOfBinary : Doing Unit := complain "grep" (file ++ ": binary file matches")
  if isBinary then
    if isFound && !(finding.onlyMatches && finding.isInverted) then complainOfBinary
    return isFound
  let isShowable (shown : String) : Bool := finding.takesAll || !isUnicode || isText shown
  let linesOf (line : NumberedLine) (isSelected : Bool) : List String :=
    let mark := if isSelected then ":" else "-"
    if !finding.onlyMatches then
      [finding.heading file line.number line.offset mark ++ line.written]
    else if finding.isInverted || !isSelected then []
    else
      let own := wanted.subject line.characters
      (wanted.allIn own (line.characters.length + 1) 0).map fun (first, last) =>
        let part := String.ofList ((line.characters.take last).drop first)
        let isDecoded := isUnicode && isText line.written
        let offset := (encode isDecoded (String.ofList (line.characters.take first))).length
        finding.heading file line.number (line.offset + offset) mark ++ encode isDecoded part
  let numbers := selected.map (·.number)
  let shown : List (NumberedLine × Bool) :=
    if finding.before = 0 && finding.after = 0 then selected.map fun line => (line, true)
    else
      let known := all.toArray
      (finding.around (all.length + 1) numbers).filterMap fun (number, isSelected) =>
        if number = 0 then none else (known[number - 1]?).map fun line => (line, isSelected)
  let step (state : List String × Option Nat) (entry : NumberedLine × Bool) :
      List String × Option Nat :=
    let isGap := state.2.any fun last => last + 1 < entry.1.number
    let gap := if finding.hasContext && isGap && !finding.onlyMatches then ["--"] else []
    ((linesOf entry.1 entry.2).reverse ++ gap ++ state.1, some entry.1.number)
  let output := (shown.foldl step ([], none)).1.reverse
  let clean := output.takeWhile isShowable
  if finding.hasContext && isBehind && !clean.isEmpty then Doing.write 1 "--\n"
  Doing.write 1 (String.join (clean.map (· ++ finding.lineMark)))
  if clean.length < output.length then complainOfBinary
  return isFound

def filesBelow (tree : FileTree) (isWanted : String → Bool) : Nat → String → Location → Node →
    List String
  | 0, _, _, _ => []
  | depth + 1, path, location, node =>
    match node with
    | .file .. => if isWanted (lastName path) then [path] else []
    | .link _ => []
    | .directory =>
      (tree.children location).flatMap fun (name, inner) =>
        let name := Octetwise.ofOctets name
        filesBelow tree isWanted depth (if path.isEmpty then name else inside path name)
          (below location name) inner

/-- The expressions of patterns, each with what was left out of it, or what is wrong with them. -/
def readPatterns (given : Given) (isUnicode : Bool) (patterns : List String) :
    Except String (List (Expression × List String)) :=
  patterns.mapM fun pattern =>
    let letters := (decode isUnicode pattern).toList
    match given.lastOf ['E', 'F', 'G', 'P'] with
    | some 'F' =>
      let whole := letters.foldr (fun letter rest =>
        Expression.sequence (.one (.exactly letter)) rest) .nothing
      .ok (whole, [])
    | kind =>
      let isExtended := kind = some 'E' || kind = some 'P'
      match Expression.readIn ⟨isExtended, true⟩ letters with
      | .ok found => .ok found
      | .error fault => .error fault.message

def lineCount (given : Given) (letter : Char) : Doing (Option Nat) := do
  match given.value? letter with
  | none => return none
  | some text =>
    match text.toNat? with
    | some count => return some count
    | none =>
      let what := if letter = 'm' then "invalid max count"
        else text ++ ": invalid context length argument"
      fail "grep" what 2

def patternsOf (given : Given) : Doing (List String × List String) := do
  let written := given.values 'e'
  let files := given.values 'f'
  if written.isEmpty && files.isEmpty then
    match given.operands with
    | pattern :: rest => return (pattern.splitOn "\n", rest)
    | [] => do
      Doing.note "Usage: grep [OPTION]... PATTERNS [FILE]..."
      Doing.note "Try 'grep --help' for more information."
      Doing.leave 2
  else
    let listed ← files.mapM fun file => do
      match ← read file with
      | .ok text => return (lines text).1
      | .error cause => fail "grep" (file ++ ": " ++ reason cause) 2
    return (written.flatMap (fun pattern => pattern.splitOn "\n") ++ listed.flatten, given.operands)

def searchFiles (options : List String) : Utility := fun arguments => do
  let isContext (argument : String) : Bool := match argument.toList with
    | '-' :: digit :: digits => (digit :: digits).all Char.isDigit
    | _ => false
  let arguments := arguments.map fun argument =>
    if isContext argument then "-C" ++ String.ofList argument.toList.tail else argument
  let given ← match grepUsage.splitWithin (arguments.length + 2) (options ++ arguments) with
    | .ok given => pure given
    | .error message => do
      complain "grep" message
      Doing.note "Usage: grep [OPTION]... PATTERNS [FILE]..."
      Doing.note "Try 'grep --help' for more information."
      Doing.leave 2
  let isUnicode := (← Doing.machine).isUnicode
  let context ← lineCount given 'C'
  let before ← lineCount given 'B'
  let after ← lineCount given 'A'
  let most ← lineCount given 'm'
  let (patterns, operands) ← patternsOf given
  let expressions ← match readPatterns given isUnicode patterns with
    | .ok found => do
      (found.flatMap (·.2)).forM fun shown =>
        complain "grep" ("warning: " ++ shown ++ " at start of expression")
      pure (found.map (·.1))
    | .error message => fail "grep" message 2
  let wanted : Wanted := {
    expressions := expressions, ignoresCase := given.has 'i' || given.has 'y'
    wholeWords := given.has 'w', wholeLines := given.has 'x' }
  let isDeep := given.has 'r' || given.has 'R'
  let paths := if !operands.isEmpty then operands else if isDeep then [""] else ["-"]
  let finding : Finding := {
    isInverted := given.has 'v', counts := given.has 'c'
    namesWith := given.lastOf ['l', 'L'] = some 'l'
    namesWithout := given.lastOf ['l', 'L'] = some 'L'
    onlyMatches := given.has 'o', isQuiet := given.has 'q', numbers := given.has 'n'
    offsets := given.has 'b'
    hasNames := match given.lastOf ['h', 'H'] with
      | some 'h' => false
      | some _ => true
      | none => 1 < paths.length || isDeep
    takesAll := given.has 'a' || given.has 'z', most := most
    before := (before.orElse fun _ => context).getD 0
    after := (after.orElse fun _ => context).getD 0
    hasContext := (context.orElse fun _ => before.orElse fun _ => after).isSome
    lineMark := if given.has 'z' then "\x00" else "\n"
    nameMark := if given.has 'Z' then some "\x00" else none }
  let fits (pattern name : String) : Bool :=
    (Pattern.ofMarked (pattern.toList.map fun letter => (letter, false))).fits name.toList
  let isWanted (name : String) : Bool :=
    ((given.values 'ι').isEmpty || (given.values 'ι').any fun pattern => fits pattern name) &&
      !(given.values 'ε').any fun pattern => fits pattern name
  let tree := (← Doing.machine).tree
  let files := paths.flatMap fun path =>
    match isDeep, tree.nodeAt (Doing.path (if path.isEmpty then "." else path)) with
    | true, .ok (location, .directory) =>
      filesBelow tree isWanted treeDepth (if path = "" then "" else path) location .directory
    | _, _ => [path]
  let step (states : List (Bool × Bool)) (file : String) : Doing (List (Bool × Bool)) := do
    match ← read file with
    | .ok text => do
      let title := if file = "-" then "(standard input)" else file
      let isFound ← showFound finding wanted isUnicode (states.any (·.1)) title text
      return (isFound, false) :: states
    | .error cause => do
      let title := if file = "-" then "(standard input)" else file
      if !given.has 's' then complain "grep" (title ++ ": " ++ reason cause)
      if cause = .isADirectory && finding.counts then
        Doing.write 1 ((if finding.hasNames then file ++ ":" else "") ++ "0\n")
      return (false, true) :: states
  let statuses ← files.foldlM step []
  let isFound := statuses.any (·.1)
  if statuses.any (·.2) && !(isFound && finding.isQuiet) then return 2
  return if isFound then 0 else 1

def grep : Utility :=
  searchFiles []

def egrep : Utility :=
  searchFiles ["-E"]

def fgrep : Utility :=
  searchFiles ["-F"]

end ScenarioBench.Rehearsal.Shell.Utility

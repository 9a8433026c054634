import ScenarioBench.Rehearsal.Shell.Utilities.Contents
import ScenarioBench.Rehearsal.Shell.Utilities.Placing

/-! Utilities that compare files. -/

set_option autoImplicit false

namespace ScenarioBench.Rehearsal.Shell.Utility

/-! ### Octets -/

/-- The first place at which two texts differ, counted from 1, with the number of line ends before
it, and what is left of both there. -/
def firstDifference : Nat → Nat → List Char → List Char → Nat × Nat × List Char × List Char
  | place, line, first :: others, second :: rest =>
    if first = second then
      firstDifference (place + 1) (if first = '\n' then line + 1 else line) others rest
    else (place, line, first :: others, second :: rest)
  | place, line, first, second => (place, line, first, second)

def cmpUsage : Usage where
  name := "cmp"
  letters := [('b', .nothing), ('i', .value), ('l', .nothing), ('n', .value), ('s', .nothing)]
  words := [("print-bytes", 'b'), ("ignore-initial", 'i'), ("verbose", 'l'), ("bytes", 'n'),
    ("quiet", 's'), ("silent", 's')]
  stops := false
  misuse := 2

def misusedNamed {α : Type} (name message : String) : Doing α := do
  complain name message
  complain name ("Try '" ++ name ++ " --help' for more information.")
  Doing.leave 2

def cmp : Utility := fun arguments => do
  let given ← given cmpUsage arguments
  match given.operands with
  | [] => misusedNamed "cmp" "missing operand after 'cmp'"
  | first :: others =>
    let second := others.headD "-"
    let content (file : String) : Doing String := do
      match ← read file with
      | .ok text => return text
      | .error cause => do
        if !given.has 's' || cause ≠ .notFound then complain "cmp" (file ++ ": " ++ reason cause)
        Doing.leave 2
    let limit (text : String) : List Char :=
      match (given.value? 'n').bind String.toNat? with
      | some length => text.toList.take length
      | none => text.toList
    let own := limit (← content first)
    let other := limit (← content second)
    let (place, line, left, right) := firstDifference 1 1 own other
    let silent := given.has 's'
    match left, right with
    | [], [] => return 0
    | head :: _, next :: _ => do
      if silent then return 1
      if given.has 'l' then
        let octal (letter : Char) : String :=
          padLeft 3 (String.ofList (Nat.toDigits 8 letter.toNat))
        let width := (toString (min own.length other.length)).length
        let pairs := (own.zip other).zipIdx.filter fun pair => pair.1.1 ≠ pair.1.2
        Doing.write 1 (unlines (pairs.map fun ((letter, other), index) =>
          padLeft width (toString (index + 1)) ++ " " ++ octal letter ++ " " ++ octal other))
      else
        let shown (letter : Char) : String :=
          padLeft 3 (String.ofList (Nat.toDigits 8 letter.toNat)) ++ " " ++ String.singleton letter
        let octets := if given.has 'b' then " is " ++ shown head ++ " " ++ shown next else ""
        Doing.write 1 (first ++ " " ++ second ++ " differ: byte " ++ toString place ++ ", line "
          ++ toString line ++ octets ++ "\n")
      return 1
    | _, _ => do
      let (short, text) := if left.isEmpty then (first, own) else (second, other)
      if !silent then
        if text.isEmpty then complain "cmp" ("EOF on " ++ short ++ " which is empty")
        else
          let lines := text.count '\n'
          let rest := if text.getLast? = some '\n' then ", line " ++ toString lines
            else ", in line " ++ toString (lines + 1)
          complain "cmp" ("EOF on " ++ short ++ " after byte " ++ toString text.length ++ rest)
      return 1

/-! ### Lines -/

inductive Aligned where
  | both (first second : String)
  | first (line : String)
  | second (line : String)

/-- The lengths of the longest common parts of a list of lines with all ends of another one. -/
def commonLengths (same : String → String → Bool) (line : String) :
    List String → List Nat → List Nat
  | [], _ => [0]
  | other :: others, lengths =>
    let after := commonLengths same line others lengths.tail
    let here := if same line other then lengths.tail.headD 0 + 1
      else max (lengths.headD 0) (after.headD 0)
    here :: after

/-- For every end of the first list, the lengths of its longest common parts with the ends of the
second one. -/
def commonTable (same : String → String → Bool) (second : List String) :
    List String → List (List Nat)
  | [] => [List.replicate (second.length + 1) 0]
  | line :: rest =>
    let table := commonTable same second rest
    commonLengths same line second (table.headD []) :: table

def align (same : String → String → Bool) :
    List String → List String → List (List Nat) → List Aligned
  | [], second, _ => second.map .second
  | first, [], _ => first.map .first
  | line :: first, other :: second, table =>
    let row := table.headD []
    let below := table.tail.headD []
    if same line other && row.headD 0 = below.tail.headD 0 + 1 then
      .both line other :: align same first second (table.tail.map List.tail)
    else if row.tail.headD 0 ≤ below.headD 0 then
      .first line :: align same first (other :: second) table.tail
    else .second other :: align same (line :: first) second (table.map List.tail)
termination_by first second => first.length + second.length

structure Hunk where
  firstBefore : Nat
  secondBefore : Nat
  removed : List String
  added : List String

def hunks : Nat → Nat → Option Hunk → List Aligned → List Hunk
  | _, _, pending, [] => pending.toList
  | first, second, pending, .both _ _ :: rest =>
    pending.toList ++ hunks (first + 1) (second + 1) none rest
  | first, second, pending, .first line :: rest =>
    let hunk := pending.getD ⟨first, second, [], []⟩
    hunks (first + 1) second (some { hunk with removed := hunk.removed ++ [line] }) rest
  | first, second, pending, .second line :: rest =>
    let hunk := pending.getD ⟨first, second, [], []⟩
    hunks first (second + 1) (some { hunk with added := hunk.added ++ [line] }) rest

def openMark : String := "\n\\ No newline at end of file"

def markedLines (text : String) : List String :=
  let (parts, hasEnd) := lines text
  if hasEnd then parts else parts.dropLast ++ (parts.getLast?.map (· ++ openMark)).toList

def rangeText (before count : Nat) : String :=
  if count = 0 then toString before
  else if count = 1 then toString (before + 1)
  else toString (before + 1) ++ "," ++ toString (before + count)

def Hunk.lines (hunk : Hunk) : List String :=
  let letter := if hunk.removed.isEmpty then "a" else if hunk.added.isEmpty then "d" else "c"
  let isChange := letter = "c"
  [rangeText hunk.firstBefore hunk.removed.length ++ letter
      ++ rangeText hunk.secondBefore hunk.added.length]
    ++ hunk.removed.map ("< " ++ ·) ++ (if isChange then ["---"] else [])
    ++ hunk.added.map ("> " ++ ·)

def countedLine (given : Given) (line : String) : String :=
  let folded := if given.has 'i' then line.map Char.toLower else line
  let isBlank (letter : Char) : Bool := letter = ' ' || letter = '\t'
  if given.has 'w' then String.ofList (folded.toList.filter fun letter => !isBlank letter)
  else if given.has 'b' then
    let words := folded.toList.foldr (fun letter (words : List Char) =>
      if isBlank letter then (if words.head? = some ' ' || words.isEmpty then words else ' ' :: words)
      else letter :: words) []
    String.ofList words
  else folded

def diffUsage : Usage where
  name := "diff"
  letters := (['a', 'b', 'B', 'i', 'N', 'q', 'r', 's', 'w'].map
    fun letter => (letter, Need.nothing)) ++ [('U', .value)]
  words := [("brief", 'q'), ("ignore-case", 'i'), ("ignore-all-space", 'w'),
    ("ignore-space-change", 'b'), ("new-file", 'N'), ("recursive", 'r'),
    ("report-identical-files", 's'), ("text", 'a')]
  stops := false
  misuse := 2

def diffTexts (given : Given) (first second own other : String) : Doing Nat := do
  let counted := countedLine given
  let firstLines := markedLines own
  let secondLines := markedLines other
  if firstLines.map counted = secondLines.map counted then
    if given.has 's' then
      Doing.write 1 ("Files " ++ first ++ " and " ++ second ++ " are identical\n")
    return 0
  if given.has 'q' then
    Doing.write 1 ("Files " ++ first ++ " and " ++ second ++ " differ\n")
    return 1
  let same (line other : String) : Bool := counted line = counted other
  let aligned := align same firstLines secondLines (commonTable same secondLines firstLines)
  Doing.write 1 (unlines ((hunks 0 0 none aligned).flatMap Hunk.lines))
  return 1

def diffPaths (given : Given) : Nat → (isNamed : Bool) → String → String → Doing Nat
  | 0, _, _, _ => return 2
  | depth + 1, isNamed, first, second => do
    let tree := (← Doing.machine).tree
    let isDirectory (path : String) : Bool := path ≠ "-" && tree.isDirectory (Doing.path path)
    match isDirectory first, isDirectory second with
    | true, true =>
      let namesOf (path : String) : List String :=
        match tree.nodeAt (Doing.path path) with
        | .ok (location, _) => namesIn tree location
        | .error _ => []
      let own := namesOf first
      let other := namesOf second
      let all := ((own ++ other).mergeSort fun name next => decide (name ≤ next)).eraseDups
      forAll all fun name => do
        match own.contains name, other.contains name with
        | true, false => do
          Doing.write 1 ("Only in " ++ first ++ ": " ++ name ++ "\n")
          return 1
        | false, _ => do
          Doing.write 1 ("Only in " ++ second ++ ": " ++ name ++ "\n")
          return 1
        | true, true =>
          let path := inside first name
          let otherPath := inside second name
          if isDirectory path && isDirectory otherPath && !given.has 'r' then
            Doing.write 1 ("Common subdirectories: " ++ path ++ " and " ++ otherPath ++ "\n")
            return 0
          diffPaths given depth false path otherPath
    | true, false => diffPaths given depth isNamed (inside first (lastName second)) second
    | false, true => diffPaths given depth isNamed first (inside second (lastName first))
    | false, false =>
      let own ← read first
      let other ← if first = "-" && second = "-" then pure own else read second
      match own, other with
      | .ok own, .ok other => do
        let before ← Doing.newPipe ""
        let channels := (← Doing.machine).channels.filter (·.1 ≠ 1)
        let status ← Doing.withChannels ((1, .inlet before) :: channels) [1]
          (diffTexts given first second own other)
        if !isNamed && status = 1 && !given.has 'q' then
          Doing.write 1 ("diff" ++ String.join ((given.options.filter fun option =>
            option.1 = 'r' || option.1 = 'N').map fun option => " -" ++ String.singleton option.1)
            ++ " " ++ first ++ " " ++ second ++ "\n")
        Doing.write 1 (← Doing.contentOf before)
        return status
      | own, other => do
        let complainOf (path : String) (found : Except OsError String) : Doing Unit := do
          match found with
          | .ok _ => pure ()
          | .error cause => complain "diff" (path ++ ": " ++ reason cause)
        complainOf first own
        complainOf second other
        return 2

def diff : Utility := fun arguments => do
  let given ← given diffUsage arguments
  match given.operands with
  | [] => misusedNamed "diff" "missing operand after 'diff'"
  | [only] => misusedNamed "diff" ("missing operand after '" ++ only ++ "'")
  | [first, second] => diffPaths given treeDepth true first second
  | _ :: _ :: extra :: _ => misusedNamed "diff" ("extra operand '" ++ extra ++ "'")

end ScenarioBench.Rehearsal.Shell.Utility

import ScenarioBench.Rehearsal.Shell.Format
import ScenarioBench.Rehearsal.Shell.Opening
import ScenarioBench.Rehearsal.Shell.Utilities.Contents

/-! Utilities that order lines and compare neighbouring ones. -/

set_option autoImplicit false

namespace ScenarioBench.Rehearsal.Shell.Utility

/-! ### Orders of texts -/

inductive Measuring where
  | text
  | numeric
  | scaled
  | months
  | versions
  deriving DecidableEq

def isBlank (letter : Char) : Bool :=
  letter = ' ' || letter = '\t'

/-- A number at the start of a text: its sign, its whole digits and its other digits without zeros
that do not count, and the rest. -/
def leadingNumber (text : List Char) : Bool × List Char × List Char × List Char :=
  let front := text.dropWhile isBlank
  let (negative, digits) := match front with
    | '-' :: rest => (true, rest)
    | rest => (false, rest)
  let (whole, rest) := digits.span Char.isDigit
  let (fraction, rest) := match rest with
    | '.' :: rest => rest.span Char.isDigit
    | rest => ([], rest)
  let whole := whole.dropWhile (· = '0')
  let fraction := (fraction.reverse.dropWhile (· = '0')).reverse
  (negative && !(whole.isEmpty && fraction.isEmpty), whole, fraction, rest)

def compareLists (first second : List Char) : Ordering :=
  compareOfLessAndEq (String.ofList first) (String.ofList second)

def compareNumbers (first second : List Char) : Ordering :=
  let (negative, whole, fraction, _) := leadingNumber first
  let (otherNegative, otherWhole, otherFraction, _) := leadingNumber second
  -- Digits are compared as texts, so that numbers may have any length.
  let magnitudes := ((compare whole.length otherWhole.length).then
    (compareLists whole otherWhole)).then (compareLists fraction otherFraction)
  match negative, otherNegative with
  | false, false => magnitudes
  | true, true => magnitudes.swap
  | true, false => .lt
  | false, true => .gt

def scaleRank (text : List Char) : Int :=
  let (negative, whole, fraction, rest) := leadingNumber text
  if whole.isEmpty && fraction.isEmpty then 0
  else
    let letters := ['k', 'K', 'M', 'G', 'T', 'P', 'E', 'Z', 'Y']
    let rank : Nat := match rest.head? with
      | some 'k' => 1
      | some letter => if letters.contains letter then letters.idxOf letter else 0
      | none => 0
    if negative then -(rank : Int) else rank

def monthRank (text : List Char) : Nat :=
  let name := String.ofList (((text.dropWhile isBlank).take 3).map Char.toUpper)
  let months := ["JAN", "FEB", "MAR", "APR", "MAY", "JUN", "JUL", "AUG", "SEP", "OCT", "NOV", "DEC"]
  if months.contains name then months.idxOf name + 1 else 0

def compareVersions : Nat → List Char → List Char → Ordering
  | 0, _, _ => .eq
  | fuel + 1, first, second =>
    let rank (letter : Char) : Nat :=
      if letter = '~' then 0 else if letter.isAlpha then letter.toNat + 1 else letter.toNat + 300
    let words (text : List Char) : List Char × List Char := text.span fun letter => !letter.isDigit
    let (word, rest) := words first
    let (otherWord, otherRest) := words second
    let (digits, rest) := rest.span Char.isDigit
    let (otherDigits, otherRest) := otherRest.span Char.isDigit
    let number := digits.dropWhile (· = '0')
    let otherNumber := otherDigits.dropWhile (· = '0')
    let asRanks (word : List Char) : List Nat := (word.map rank) ++ [1]
    let here := ((compareOfLessAndEq (asRanks word) (asRanks otherWord)).then
      (compare number.length otherNumber.length)).then (compareLists number otherNumber)
    if here ≠ .eq then here
    else if rest.isEmpty && otherRest.isEmpty then .eq
    else compareVersions fuel rest otherRest

structure Collation where
  measuring : Measuring
  isReversed : Bool
  foldsCase : Bool
  wordsOnly : Bool
  printableOnly : Bool
  skipsBlanks : Bool
  deriving DecidableEq

namespace Collation

def letters : List Char :=
  ['b', 'd', 'f', 'g', 'h', 'i', 'M', 'n', 'R', 'r', 'V']

def ofLetters (letters : List Char) : Collation where
  measuring :=
    if letters.contains 'n' || letters.contains 'g' then .numeric
    else if letters.contains 'h' then .scaled
    else if letters.contains 'M' then .months
    else if letters.contains 'V' then .versions
    else .text
  isReversed := letters.contains 'r'
  foldsCase := letters.contains 'f'
  wordsOnly := letters.contains 'd'
  printableOnly := letters.contains 'i'
  skipsBlanks := letters.contains 'b'

def counted (collation : Collation) (text : List Char) : List Char :=
  let words := if collation.wordsOnly then
      text.filter fun letter => isBlank letter || letter.isAlphanum
    else text
  let shown := if collation.printableOnly then
      words.filter fun letter => ' ' ≤ letter && letter ≤ '~'
    else words
  if collation.foldsCase then shown.map Char.toUpper else shown

def order (collation : Collation) (first second : List Char) : Ordering :=
  let plain := match collation.measuring with
    | .text => compareLists (collation.counted first) (collation.counted second)
    | .numeric => compareNumbers first second
    | .scaled => (compare (scaleRank first) (scaleRank second)).then (compareNumbers first second)
    | .months => compare (monthRank first) (monthRank second)
    | .versions => compareVersions (first.length + second.length + 1) first second
  if collation.isReversed then plain.swap else plain

end Collation

/-! ### Keys -/

/-- An end of a key: a field and a character in it, and whether blanks before it do not count. -/
structure KeyEdge where
  field : Nat
  character : Nat
  skipsBlanks : Bool

structure Key where
  start : KeyEdge
  stop : Option KeyEdge
  collation : Option Collation

def splitFields (separator : Option Char) : Nat → List Char → List (List Char)
  | 0, _ => []
  | fuel + 1, line =>
    match separator with
    | some mark =>
      let (field, rest) := line.span (· ≠ mark)
      match rest with
      | [] => [field]
      | mark :: rest => (field ++ [mark]) :: splitFields separator fuel rest
    | none =>
      if line.isEmpty then []
      else
        let (blanks, rest) := line.span isBlank
        let (word, rest) := rest.span fun letter => !isBlank letter
        (blanks ++ word) :: splitFields separator fuel rest

def KeyEdge.startIn (edge : KeyEdge) (separator : Option Char) (line : List Char) : Nat :=
  let fields := splitFields separator (line.length + 1) line
  let before := (fields.take (edge.field - 1)).flatten.length
  let rest := line.drop before
  let blanks := if edge.skipsBlanks then (rest.takeWhile isBlank).length else 0
  min line.length (before + blanks + (edge.character - 1))

def KeyEdge.stopIn (edge : KeyEdge) (separator : Option Char) (line : List Char) : Nat :=
  let fields := splitFields separator (line.length + 1) line
  if edge.character = 0 then
    let whole := (fields.take edge.field).flatten
    let hasMark := separator.isSome && edge.field < fields.length
    whole.length - if hasMark then 1 else 0
  else
    let before := (fields.take (edge.field - 1)).flatten.length
    let rest := line.drop before
    let blanks := if edge.skipsBlanks then (rest.takeWhile isBlank).length else 0
    min line.length (before + blanks + edge.character)

def Key.part (key : Key) (separator : Option Char) (line : List Char) : List Char :=
  let start := key.start.startIn separator line
  let stop := (key.stop.map fun stop => stop.stopIn separator line).getD line.length
  (line.take stop).drop start

def readEdge (isUnicode isStart : Bool) (whole : String) (text : List Char) :
    Except String (KeyEdge × List Char × List Char) := do
  let number (digits : List Char) : Nat := (String.ofList digits).toNat?.getD 0
  let (field, rest) := text.span Char.isDigit
  let wrongAt : String :=
    if isStart then "invalid number at field start" else "invalid number after ','"
  if field.isEmpty then
    throw (wrongAt ++ ": invalid count at start of " ++ languageQuoted isUnicode (String.ofList text))
  if number field = 0 then
    throw ("field number is zero: invalid field specification " ++ languageQuoted isUnicode whole)
  let (character, rest) ← match rest with
    | '.' :: rest =>
      let (digits, rest) := rest.span Char.isDigit
      if digits.isEmpty then
        throw ("invalid number after '.': invalid count at start of "
          ++ languageQuoted isUnicode (String.ofList rest))
      if isStart && number digits = 0 then
        throw ("character offset is zero: invalid field specification "
          ++ languageQuoted isUnicode whole)
      pure (number digits, rest)
    | rest => pure (if isStart then 1 else 0, rest)
  let (letters, rest) := rest.span Collation.letters.contains
  return (⟨number field, character, letters.contains 'b'⟩, letters, rest)

def readKey (isUnicode : Bool) (text : String) : Except String Key := do
  let (start, letters, rest) ← readEdge isUnicode true text text.toList
  let stray : String := "stray character in field spec: invalid field specification "
    ++ languageQuoted isUnicode text
  let ofLetters (letters : List Char) : Option Collation :=
    if letters.isEmpty then none else some (Collation.ofLetters letters)
  match rest with
  | [] => return ⟨start, none, ofLetters letters⟩
  | ',' :: rest =>
    let (stop, others, rest) ← readEdge isUnicode false text rest
    if !rest.isEmpty then throw stray
    return ⟨start, some stop, ofLetters (letters ++ others)⟩
  | _ => throw stray

/-! ### Sorting -/

structure Sorting where
  collation : Collation
  keys : List Key
  separator : Option Char
  isUnique : Bool
  isStable : Bool

def Sorting.byKeys (sorting : Sorting) (first second : List Char) : Ordering :=
  if sorting.keys.isEmpty then
    let own (line : List Char) : List Char :=
      if sorting.collation.skipsBlanks then line.dropWhile isBlank else line
    sorting.collation.order (own first) (own second)
  else
    sorting.keys.foldl (fun order key =>
      let collation := key.collation.getD sorting.collation
      let skips := key.collation.isNone && sorting.collation.skipsBlanks
      let part (line : List Char) : List Char :=
        let part := key.part sorting.separator line
        if skips then part.dropWhile isBlank else part
      order.then (collation.order (part first) (part second))) .eq

def Sorting.order (sorting : Sorting) (first second : List Char) : Ordering :=
  let byKeys := sorting.byKeys first second
  if sorting.isUnique || sorting.isStable then byKeys
  else
    -- Lines with equal keys are compared as a whole, as a last resort.
    let whole := compareLists first second
    byKeys.then (if sorting.collation.isReversed then whole.swap else whole)

def Sorting.distinct (sorting : Sorting) : List (List Char) → List (List Char)
  | first :: second :: rest =>
    if sorting.byKeys first second = .eq then distinct sorting (first :: rest)
    else first :: distinct sorting (second :: rest)
  | lines => lines
termination_by lines => lines.length

def Sorting.disorder? (sorting : Sorting) : Nat → List (List Char) → Option (Nat × List Char)
  | number, first :: second :: rest =>
    let order := sorting.order first second
    if order = .gt || (sorting.isUnique && order = .eq) then some (number + 1, second)
    else disorder? sorting (number + 1) (second :: rest)
  | _, _ => none

def sortUsage : Usage where
  name := "sort"
  letters := (['b', 'c', 'C', 'd', 'f', 'g', 'h', 'i', 'm', 'M', 'n', 'r', 'R', 's', 'u', 'V',
    'z'].map fun letter => (letter, Need.nothing))
    ++ [('k', .value), ('o', .value), ('t', .value), ('S', .value), ('T', .value)]
  words := [("ignore-leading-blanks", 'b'), ("dictionary-order", 'd'), ("ignore-case", 'f'),
    ("general-numeric-sort", 'g'), ("human-numeric-sort", 'h'), ("ignore-nonprinting", 'i'),
    ("month-sort", 'M'), ("numeric-sort", 'n'), ("reverse", 'r'), ("version-sort", 'V'),
    ("key", 'k'), ("merge", 'm'), ("output", 'o'), ("stable", 's'), ("field-separator", 't'),
    ("unique", 'u'), ("zero-terminated", 'z'), ("check", 'c')]
  stops := false
  misuse := 2

def separatorOf (given : Given) : Doing (Option Char) := do
  match given.value? 't' with
  | none => return none
  | some text =>
    match text.toList with
    | [mark] => return some mark
    | ['\\', '0'] => return some '\x00'
    | [] => fail "sort" "empty tab" 2
    | _ => fail "sort" ("multi-character tab " ++ (← quoteName text)) 2

def sort : Utility := fun arguments => do
  let given ← given sortUsage arguments
  let isUnicode := (← Doing.machine).isUnicode
  let keys ← match (given.values 'k').mapM (readKey isUnicode) with
    | .ok keys => pure keys
    | .error message => fail "sort" message 2
  let sorting : Sorting := {
    collation := Collation.ofLetters ((given.options.map (·.1)).filter Collation.letters.contains)
    keys := keys, separator := ← separatorOf given
    isUnique := given.has 'u', isStable := given.has 's' }
  let mark := if given.has 'z' then "\x00" else "\n"
  let files := if given.operands.isEmpty then ["-"] else given.operands
  let texts ← files.mapM fun file => do
    match ← read file with
    | .ok text => return text
    | .error cause =>
      let isOpened := cause = .isADirectory || cause = .badDescriptor
      let what := if isOpened then "read failed: " else "cannot read: "
      fail "sort" (what ++ (← quoteIfNeeded file) ++ ": " ++ reason cause) 2
  let linesOf (text : String) : List (List Char) :=
    let parts := text.splitOn mark
    (if parts.getLast? = some "" then parts.dropLast else parts).map String.toList
  let all := texts.flatMap linesOf
  if given.has 'c' || given.has 'C' then
    match sorting.disorder? 1 all with
    | none => return 0
    | some (number, line) =>
      if given.has 'c' then
        complain "sort" (files.headD "-" ++ ":" ++ toString number ++ ": disorder: "
          ++ String.ofList line)
      return 1
  let sorted := all.mergeSort fun first second => sorting.order first second ≠ .gt
  let kept := if sorting.isUnique then sorting.distinct sorted else sorted
  let text := String.join (kept.map fun line => String.ofList line ++ mark)
  match given.value? 'o' with
  | none => do
    Doing.write 1 text
    return 0
  | some target =>
    match ← Opening.touch (Doing.path target) with
    | .ok location => do
      Doing.setContent location (Octetwise.toOctets text)
      return 0
    | .error cause => fail "sort" ("open failed: " ++ (← quoteIfNeeded target) ++ ": " ++ reason cause) 2

/-! ### Neighbours -/

def runs (counted : List Char → List Char) : List (List Char) → List (List (List Char))
  | [] => []
  | line :: rest =>
    match runs counted rest with
    | (next :: others) :: later =>
      if counted line = counted next then (line :: next :: others) :: later
      else [line] :: (next :: others) :: later
    | later => [line] :: later

def uniqUsage : Usage where
  name := "uniq"
  letters := (['c', 'd', 'D', 'i', 'u', 'z'].map fun letter => (letter, Need.nothing))
    ++ [('f', .value), ('s', .value), ('w', .value)]
  words := [("count", 'c'), ("repeated", 'd'), ("all-repeated", 'D'), ("skip-fields", 'f'),
    ("ignore-case", 'i'), ("skip-chars", 's'), ("unique", 'u'), ("zero-terminated", 'z'),
    ("check-chars", 'w')]
  stops := false
  misuse := 1

def dropFields : Nat → List Char → List Char
  | 0, line => line
  | count + 1, line =>
    dropFields count ((line.dropWhile isBlank).dropWhile fun letter => !isBlank letter)

def uniq : Utility := fun arguments => do
  let given ← given uniqUsage arguments
  let number (letter : Char) (what : String) : Doing (Option Nat) := do
    match given.value? letter with
    | none => return none
    | some text =>
      match text.toNat? with
      | some value => return some value
      | none => fail "uniq" (text ++ ": invalid number of " ++ what) 1
  let fields ← number 'f' "fields to skip"
  let skipped ← number 's' "bytes to skip"
  let compared ← number 'w' "bytes to compare"
  match given.operands[2]? with
  | some extra => misused uniqUsage ("extra operand " ++ (← quoteName extra))
  | none => pure ()
  let source := given.operands.headD "-"
  let text ← match ← read source with
    | .ok text => pure text
    | .error cause =>
      if cause = .isADirectory || cause = .badDescriptor then
        fail "uniq" ("error reading " ++ (← quote source) ++ ": " ++ reason cause) 1
      fail "uniq" ((← quoteIfNeeded source) ++ ": " ++ reason cause) 1
  let counted (line : List Char) : List Char :=
    let rest := (dropFields (fields.getD 0) line).drop (skipped.getD 0)
    let part := (compared.map fun length => rest.take length).getD rest
    if given.has 'i' then part.map Char.toUpper else part
  let shown (run : List (List Char)) : List String :=
    let isRepeated := 1 < run.length
    let isWanted := (!given.has 'd' || isRepeated) && (!given.has 'u' || !isRepeated)
    if given.has 'D' then (if isRepeated then run.map String.ofList else [])
    else if !isWanted then []
    else
      let line := String.ofList (run.headD [])
      [if given.has 'c' then padLeft 7 (toString run.length) ++ " " ++ line else line]
  let result := unlines ((runs counted ((lines text).1.map String.toList)).flatMap shown)
  match given.operands[1]? with
  | none | some "-" => do
    Doing.write 1 result
    return 0
  | some target =>
    match ← Opening.touch (Doing.path target) with
    | .ok location => do
      Doing.setContent location (Octetwise.toOctets result)
      return 0
    | .error cause => fail "uniq" ((← quoteIfNeeded target) ++ ": " ++ reason cause) 1

def merged : List String → List String → List (Bool × Bool × String)
  | [], second => second.map fun line => (false, true, line)
  | first, [] => first.map fun line => (true, false, line)
  | line :: first, other :: second =>
    if line = other then (true, true, line) :: merged first second
    else if line < other then (true, false, line) :: merged first (other :: second)
    else (false, true, other) :: merged (line :: first) second
termination_by first second => first.length + second.length

def areOrdered : List String → Bool
  | first :: second :: rest => !(second < first) && areOrdered (second :: rest)
  | _ => true

def commUsage : Usage where
  name := "comm"
  letters := (['1', '2', '3', 'z', 'C', 'N', 'T'].map fun letter => (letter, Need.nothing))
    ++ [('O', .value)]
  words := [("check-order", 'C'), ("nocheck-order", 'N'), ("output-delimiter", 'O'), ("total", 'T'),
    ("zero-terminated", 'z')]
  stops := false
  misuse := 1

def comm : Utility := fun arguments => do
  let given ← given commUsage arguments
  match given.operands with
  | [] => misused commUsage "missing operand"
  | [only] => misused commUsage ("missing operand after " ++ (← quoteName only))
  | _ :: _ :: extra :: _ => misused commUsage ("extra operand " ++ (← quoteName extra))
  | [first, second] =>
    let content (file : String) : Doing (List String) := do
      match ← read file with
      | .ok text => return (lines text).1
      | .error cause => fail "comm" ((← quoteIfNeeded file) ++ ": " ++ reason cause) 1
    let own ← content first
    let other ← content second
    let mark := (given.value? 'O').getD "\t"
    let shownFirst := !given.has '1'
    let shownSecond := !given.has '2'
    let all := merged own other
    let indent (columns : List Bool) : String :=
      String.join (columns.map fun isShown => if isShown then mark else "")
    let shown := all.filterMap fun (inFirst, inSecond, line) =>
      if inFirst && inSecond then
        if given.has '3' then none else some (indent [shownFirst, shownSecond] ++ line)
      else if inFirst then (if shownFirst then some line else none)
      else if shownSecond then some (indent [shownFirst] ++ line)
      else none
    Doing.write 1 (unlines shown)
    if given.has 'T' then
      let count (inFirst inSecond : Bool) : String :=
        toString (all.filter fun entry => entry.1 = inFirst && entry.2.1 = inSecond).length
      Doing.write 1 (mark.intercalate [count true false, count false true, count true true, "total"]
        ++ "\n")
    let hasMessy (number : String) (lines : List String) : Doing Bool := do
      if given.has 'N' || areOrdered lines then return false
      complain "comm" ("file " ++ number ++ " is not in sorted order")
      return true
    if own = other then return 0
    let firstMessy ← hasMessy "1" own
    let secondMessy ← hasMessy "2" other
    if firstMessy || secondMessy then fail "comm" "input is not in sorted order" 1
    return 0

end ScenarioBench.Rehearsal.Shell.Utility

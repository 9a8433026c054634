import ScenarioBench.Rehearsal.Shell.Arithmetic
import ScenarioBench.Rehearsal.Shell.ExpressionReader

/-! Scripts that edit lines, and how they are read.

A script is a list of steps, each of which is done for the lines that its addresses name. Blocks are
steps that open and close; a block that is not entered is left out up to its end. Complaints name the
place up to which a script has been read.
-/

set_option autoImplicit false

namespace ScenarioBench.Rehearsal.Shell

namespace EditScript

structure Searched where
  expression : Option Expression
  ignoresCase : Bool
  hasLines : Bool

inductive Address where
  | line (number : Nat)
  | every (first step : Nat)
  | last
  | having (searched : Searched)

inductive Limit where
  | address (address : Address)
  | behind (count : Nat)
  | multiple (factor : Nat)

structure Guard where
  first : Option Address
  limit : Option Limit
  isNegated : Bool

inductive Casing where
  | lower
  | upper
  | asWritten
  | nextLower
  | nextUpper
  deriving DecidableEq

inductive Filling where
  | text (text : List Char)
  | group (number : Nat)
  | casing (casing : Casing)

structure Substitution where
  searched : Searched
  pieces : List Filling
  number : Nat
  isGlobal : Bool
  prints : Bool
  target : Option String

inductive Occasion where
  | always
  | changed
  | unchanged
  deriving DecidableEq

inductive Deed where
  | openBlock
  | closeBlock
  | label (name : String)
  | branch (occasion : Occasion) (target : String)
  | append (text : String)
  | insert (text : String)
  | change (text : String)
  | delete
  | deleteFirst
  | print
  | printFirst
  | printNumber
  | printName
  | list (width : Option Nat)
  | hold
  | holdMore
  | recall
  | recallMore
  | exchange
  | next
  | nextMore
  | quit (status : Nat) (prints : Bool)
  | readFile (name : String)
  | write (name : String) (isFirst : Bool)
  | substitute (substitution : Substitution)
  | transliterate (pairs : List (Char × Char))
  | clear
  | nothing

structure Step where
  guarded : Guard
  deed : Deed

structure Source where
  file : Option String
  number : Nat
  text : List Char

/-- A script that is read: the part that is read, what is left of it, the parts behind it, and how many
blocks are open. -/
structure State where
  source : Source
  rest : List Char
  later : List Source
  depth : Nat
  isExtended : Bool

abbrev Reading := StateT State (Except String)

def place (source : Source) (rest : List Char) : String :=
  let read := source.text.take (source.text.length - rest.length)
  match source.file with
  | some file => "file " ++ file ++ " line " ++ toString (read.count '\n' + 1)
  | none => "-e expression #" ++ toString source.number ++ ", char " ++ toString read.length

def refuse {α : Type} (message : String) : Reading α := do
  let state ← get
  throw (place state.source state.rest ++ ": " ++ message)

def peek : Reading (Option Char) := do
  return (← get).rest.head?

def take : Reading (Option Char) := do
  let state ← get
  set { state with rest := state.rest.tail }
  return state.rest.head?

def takeWhile (condition : Char → Bool) : Reading (List Char) := do
  let state ← get
  let (front, rest) := state.rest.span condition
  set { state with rest := rest }
  return front

def isBlank (letter : Char) : Bool :=
  letter = ' ' || letter = '\t'

def isSpace (letter : Char) : Bool :=
  letter = ' ' || ('\t' ≤ letter && letter ≤ '\r')

def skipBlanks : Reading Unit := do
  let _ ← takeWhile isBlank

def number : Reading Nat := do
  return Arithmetic.valueOf 10 (← takeWhile Char.isDigit)

/-! ### Delimited texts -/

def splitBracket (text : List Char) : List Char × List Char :=
  let (caret, rest) := match text with
    | '^' :: rest => (['^'], rest)
    | rest => ([], rest)
  let (first, rest) := match rest with
    | ']' :: rest => ([']'], rest)
    | rest => ([], rest)
  let rec members : Nat → List Char → List Char × List Char
    | 0, rest => ([], rest)
    | _ + 1, [] => ([], [])
    | fuel + 1, head :: rest =>
      let before (letters : List Char) (rest : List Char) : List Char × List Char :=
        let (others, rest) := members fuel rest
        (letters ++ others, rest)
      match head, rest with
      | ']', _ => ([']'], rest)
      | '\n', _ => ([], '\n' :: rest)
      | '[', mark :: after =>
        if mark = ':' || mark = '.' || mark = '=' then
          let name := after.takeWhile (· ≠ ']')
          before ('[' :: mark :: name ++ (after.drop name.length).take 1) (after.drop (name.length + 1))
        else before ['['] rest
      | '\\', 'n' :: rest => before ['\n'] rest
      | '\\', 't' :: rest => before ['\t'] rest
      | _, _ => before [head] rest
  let (others, rest) := members (rest.length + 1) rest
  (caret ++ first ++ others, rest)

/-- The text up to a delimiter, if it ends, within a number of steps. In an expression brackets are
read as a whole, and a line end may be written as a letter. -/
def delimited (isExpression : Bool) (mark : Char) : Nat → List Char → Reading (Option (List Char))
  | 0, _ => return none
  | fuel + 1, found => do
    match ← peek with
    | none | some '\n' => return none
    | some '\\' =>
      let _ ← take
      match ← take with
      | none => return none
      | some letter =>
        let added :=
          if letter = 'n' && isExpression then ['\n']
          else if letter = '\n' then (if isExpression then ['\n'] else ['\\', '\n'])
          else if letter = mark && (isExpression || letter ≠ '&') then [letter]
          else ['\\', letter]
        delimited isExpression mark fuel (added.reverse ++ found)
    | some letter =>
      let _ ← take
      if letter = mark then return some found.reverse
      else if letter = '[' && isExpression then
        let state ← get
        let (members, rest) := splitBracket state.rest
        set { state with rest := rest }
        delimited isExpression mark fuel (members.reverse ++ letter :: found)
      else delimited isExpression mark fuel (letter :: found)

def numbered? (letter : Char) (rest : List Char) : Option (Char × List Char) :=
  let read (base width : Nat) : Option (Char × List Char) :=
    let (digits, _) := Arithmetic.splitDigits base (rest.take width)
    if digits.isEmpty then none
    else some (Char.ofNat (Arithmetic.valueOf base digits % 256), rest.drop digits.length)
  match letter with
  | 'd' => read 10 3
  | 'o' => read 8 3
  | 'x' => read 16 2
  | 'c' => match rest with
    | control :: rest => some (Char.ofNat (control.toUpper.toNat ^^^ 64), rest)
    | [] => none
  | _ => none

def controls : List (Char × Char) :=
  [('a', '\x07'), ('f', '\x0c'), ('r', '\r'), ('t', '\t'), ('v', '\x0b')]

def plainExpression : Nat → List Char → List Char
  | 0, text => text
  | fuel + 1, '\\' :: letter :: rest =>
    match controls.lookup letter, numbered? letter rest with
    | some control, _ => control :: plainExpression fuel rest
    | none, some (character, rest) => character :: plainExpression fuel rest
    | none, none => '\\' :: letter :: plainExpression fuel rest
  | fuel + 1, head :: rest => head :: plainExpression fuel rest
  | _ + 1, [] => []

def searched (text : List Char) (ignoresCase hasLines : Bool) : Reading Searched := do
  if text.isEmpty then return ⟨none, ignoresCase, hasLines⟩
  match Expression.read (← get).isExtended false (plainExpression text.length text) with
  | .ok expression => return ⟨some expression, ignoresCase, hasLines⟩
  | .error .looseClass => throw ExpressionFault.looseClass.message
  | .error fault => refuse fault.message

/-! ### Addresses -/

def readSearchedAddress (mark : Char) : Reading Address := do
  match ← delimited true mark ((← get).rest.length + 1) [] with
  | none => refuse "unterminated address regex"
  | some text =>
    let flags ← takeWhile fun letter => letter = 'I' || letter = 'M'
    return .having (← searched text (flags.contains 'I') (flags.contains 'M'))

def readAddress : Reading (Option Address) := do
  match ← peek with
  | some '/' =>
    let _ ← take
    some <$> readSearchedAddress '/'
  | some '\\' =>
    let _ ← take
    match ← take with
    | some mark => some <$> readSearchedAddress mark
    | none => refuse "unexpected end of address"
  | some '$' =>
    let _ ← take
    return some .last
  | some letter =>
    if !letter.isDigit then return none
    let first ← number
    skipBlanks
    match ← peek with
    | some '~' =>
      let _ ← take
      return some (.every first (← number))
    | _ => return some (.line first)
  | none => return none

def readLimit : Reading (Option Limit) := do
  match ← peek with
  | some '+' =>
    let _ ← take
    return some (.behind (← number))
  | some '~' =>
    let _ ← take
    return some (.multiple (← number))
  | _ => return (← readAddress).map .address

def readGuard : Reading Guard := do
  let first ← readAddress
  skipBlanks
  let limit ← match first, ← peek with
    | some _, some ',' =>
      let _ ← take
      skipBlanks
      match ← readLimit with
      | some limit => pure (some limit)
      | none =>
        let _ ← take
        refuse "unexpected \x60,'"
    | _, _ => pure none
  let isZero := match first, limit with
    | some (.line 0), some (.address (.having _)) => false
    | some (.line 0), _ => true
    | _, _ => false
  if isZero then
    let _ ← take
    refuse "invalid usage of line address 0"
  skipBlanks
  let marks ← takeWhile (· = '!')
  if 1 < marks.length then
    -- The complaint names the place behind the second mark.
    modify fun state => { state with rest := List.replicate (marks.length - 2) '!' ++ state.rest }
    refuse "multiple \x60!'s"
  skipBlanks
  return ⟨first, limit, !marks.isEmpty⟩

/-! ### Commands -/

def readEnd : Reading Unit := do
  skipBlanks
  match ← peek with
  | none | some '\x7d' | some '#' => return
  | some letter =>
    let _ ← take
    if letter ≠ '\n' && letter ≠ ';' && letter ≠ '\r' then refuse "extra characters after command"

def readLabel : Reading String := do
  skipBlanks
  let ends (letter : Char) : Bool := isSpace letter || letter = ';' || letter = '\x7d'
  return String.ofList (← takeWhile fun letter => !ends letter)

def readName : Reading String := do
  skipBlanks
  let name ← takeWhile (· ≠ '\n')
  if name.isEmpty then refuse "missing filename in r/R/w/W commands"
  return String.ofList name

/-- A text with its escapes read, within a number of steps, up to the end of the line, and the rest. -/
def textLine : Nat → List Char → List Char × List Char
  | 0, rest => ([], rest)
  | _ + 1, [] => ([], [])
  | _ + 1, ['\\'] => ([], [])
  | _ + 1, '\n' :: rest => ([], rest)
  | fuel + 1, '\\' :: letter :: rest =>
    let known := ('n', '\n') :: controls
    let (own, rest) : Char × List Char := match known.lookup letter, numbered? letter rest with
      | some control, _ => (control, rest)
      | none, some (character, rest) => (character, rest)
      | none, none => (letter, rest)
    let (others, rest) := textLine fuel rest
    (own :: others, rest)
  | fuel + 1, head :: rest =>
    let (others, rest) := textLine fuel rest
    (head :: others, rest)

def nextSource : Reading Bool := do
  let state ← get
  match state.rest, state.later with
  | [], source :: later =>
    set { state with source := source, rest := source.text, later := later }
    return true
  | _, _ => return false

def readText : Reading String := do
  skipBlanks
  match ← peek with
  | none => refuse "expected \\ after \x60a', \x60c' or \x60i'"
  | some '\\' =>
    let _ ← take
    let state ← get
    let blanks := state.rest.takeWhile isBlank
    match state.rest.drop blanks.length with
    | '\n' :: rest =>
      set { state with rest := rest }
      if rest.isEmpty then return "\n"
    | [] => if blanks.isEmpty then let _ ← nextSource
    | _ => pure ()
  | _ => pure ()
  let state ← get
  if state.rest.isEmpty then return ""
  let (text, rest) := textLine (state.rest.length + 1) state.rest
  set { state with rest := rest }
  return String.ofList text ++ "\n"

def pieces : Nat → List Char → List Filling
  | 0, _ => []
  | _ + 1, [] => []
  | fuel + 1, '&' :: rest => .group 0 :: pieces fuel rest
  | fuel + 1, '\\' :: letter :: rest =>
    let casings : List (Char × Casing) := [('L', .lower), ('U', .upper), ('E', .asWritten),
      ('l', .nextLower), ('u', .nextUpper)]
    if letter.isDigit then .group (letter.toNat - '0'.toNat) :: pieces fuel rest
    else match casings.lookup letter, controls.lookup letter, numbered? letter rest with
      | some casing, _, _ => .casing casing :: pieces fuel rest
      | none, some control, _ => .text [control] :: pieces fuel rest
      | none, none, some (character, rest) => .text [character] :: pieces fuel rest
      | none, none, none =>
        .text [if letter = 'n' then '\n' else letter] :: pieces fuel rest
  | fuel + 1, head :: rest => .text [head] :: pieces fuel rest

structure Flags where
  isGlobal : Bool
  prints : Bool
  number : Option Nat
  ignoresCase : Bool
  hasLines : Bool
  target : Option String

def readFlags : Nat → Flags → Reading Flags
  | 0, flags => return flags
  | fuel + 1, flags => do
    match ← peek with
    | none | some '\x7d' | some '#' => return flags
    | some letter =>
      if letter.isDigit then
        let value ← number
        if value = 0 then refuse "number option to \x60s' command may not be zero"
        if flags.number.isSome then refuse "multiple number options to \x60s' command"
        return (← readFlags fuel { flags with number := some value })
      let _ ← take
      match letter with
      | '\n' | ';' => return flags
      | 'g' =>
        if flags.isGlobal then refuse "multiple \x60g' options to \x60s' command"
        readFlags fuel { flags with isGlobal := true }
      | 'p' =>
        if flags.prints then refuse "multiple \x60p' options to \x60s' command"
        readFlags fuel { flags with prints := true }
      | 'i' | 'I' => readFlags fuel { flags with ignoresCase := true }
      | 'm' | 'M' => readFlags fuel { flags with hasLines := true }
      | 'w' => return { flags with target := some (← readName) }
      | _ =>
        if isBlank letter then readFlags fuel flags
        else refuse "unknown option to \x60s'"

def readSubstitution : Reading Deed := do
  let unfinished : Reading (List Char) := refuse "unterminated \x60s' command"
  let mark ← match ← take with
    | some mark => pure mark
    | none => refuse "unterminated \x60s' command"
  let length := (← get).rest.length + 1
  let expression ← match ← delimited true mark length [] with
    | some text => pure text
    | none => unfinished
  let replacement ← match ← delimited false mark length [] with
    | some text => pure text
    | none => unfinished
  let flags ← readFlags length ⟨false, false, none, false, false, none⟩
  let found ← searched expression flags.ignoresCase flags.hasLines
  let pieces := pieces (replacement.length + 1) replacement
  -- An empty expression stands for the last one, which is not known before the script runs.
  let groups := (found.expression.map Expression.groups).getD 9
  let wrong := pieces.findSome? fun piece => match piece with
    | .group number => if groups < number then some number else none
    | _ => none
  match wrong with
  | some number =>
    refuse ("invalid reference \\" ++ toString number ++ " on \x60s' command's RHS")
  | none =>
    return .substitute ⟨found, pieces, flags.number.getD 1, flags.isGlobal, flags.prints, flags.target⟩

def listed : Nat → List Char → List Char
  | 0, _ => []
  | _ + 1, [] => []
  | fuel + 1, '\\' :: letter :: rest =>
    let known := ('n', '\n') :: ('\\', '\\') :: ('\n', '\n') :: controls
    match known.lookup letter with
    | some character => character :: listed fuel rest
    | none => '\\' :: letter :: listed fuel rest
  | fuel + 1, head :: rest => head :: listed fuel rest

def readTransliteration : Reading Deed := do
  let unfinished : Reading (List Char) := refuse "unterminated \x60y' command"
  let mark ← match ← take with
    | some mark => pure mark
    | none => refuse "unterminated \x60y' command"
  let length := (← get).rest.length + 1
  let first ← match ← delimited false mark length [] with
    | some text => pure (listed length text)
    | none => unfinished
  let second ← match ← delimited false mark length [] with
    | some text => pure (listed length text)
    | none => unfinished
  if first.length ≠ second.length then
    refuse "strings for \x60y' command are different lengths"
  readEnd
  return .transliterate (first.zip second)

def plainDeeds : List (Char × Deed) :=
  [('=', .printNumber), ('d', .delete), ('D', .deleteFirst), ('F', .printName), ('g', .recall),
   ('G', .recallMore), ('h', .hold), ('H', .holdMore), ('n', .next), ('N', .nextMore),
   ('p', .print), ('P', .printFirst), ('x', .exchange), ('z', .clear)]

def readMeasure : Reading (Option Nat) := do
  skipBlanks
  let digits ← takeWhile Char.isDigit
  readEnd
  return if digits.isEmpty then none else some (Arithmetic.valueOf 10 digits)

def readDeed (guarded : Guard) (letter : Char) : Reading Deed := do
  match plainDeeds.lookup letter with
  | some deed =>
    readEnd
    return deed
  | none =>
    match letter with
    | '\x7b' =>
      modify fun state => { state with depth := state.depth + 1 }
      return .openBlock
    | '\x7d' =>
      if (← get).depth = 0 then refuse "unexpected \x60\x7d'"
      if guarded.first.isSome then refuse "\x7d doesn't want any addresses"
      modify fun state => { state with depth := state.depth - 1 }
      readEnd
      return .closeBlock
    | ':' =>
      if guarded.first.isSome then refuse ": doesn't want any addresses"
      let name ← readLabel
      if name.isEmpty then refuse "\":\" lacks a label"
      return .label name
    | 'b' => return .branch .always (← readLabel)
    | 't' => return .branch .changed (← readLabel)
    | 'T' => return .branch .unchanged (← readLabel)
    | 'a' => return .append (← readText)
    | 'i' => return .insert (← readText)
    | 'c' => return .change (← readText)
    | 'q' => return .quit ((← readMeasure).getD 0) true
    | 'Q' => return .quit ((← readMeasure).getD 0) false
    | 'l' => return .list (← readMeasure)
    | 'r' => return .readFile (← readName)
    | 'R' =>
      let _ ← readName
      return .nothing
    | 'w' => return .write (← readName) false
    | 'W' => return .write (← readName) true
    | 's' => readSubstitution
    | 'y' => readTransliteration
    | 'v' =>
      let _ ← readLabel
      return .nothing
    | _ => refuse ("unknown command: \x60" ++ String.singleton letter ++ "'")

def readSteps : Nat → Reading (List Step)
  | 0 => return []
  | fuel + 1 => do
    let _ ← takeWhile fun letter => isSpace letter || letter = ';'
    match ← peek with
    | none => if ← nextSource then readSteps fuel else return []
    | some '#' =>
      let _ ← takeWhile (· ≠ '\n')
      readSteps fuel
    | some _ =>
      let guarded ← readGuard
      match ← take with
      | none => refuse "missing command"
      | some '#' => refuse "comments don't accept any addresses"
      | some letter =>
        let deed ← readDeed guarded letter
        return ⟨guarded, deed⟩ :: (← readSteps fuel)

def read (isExtended : Bool) (sources : List Source) : Except String (List Step) := do
  match sources with
  | [] => return []
  | first :: later =>
    let length := (sources.map fun source => source.text.length + 2).foldl (· + ·) 1
    let (steps, after) ← (readSteps length).run ⟨first, first.text, later, 0, isExtended⟩
    if 0 < after.depth then throw (place after.source after.source.text ++ ": unmatched \x60\x7b'")
    let labels := steps.filterMap fun step => match step.deed with
      | .label name => some name
      | _ => none
    let missing := steps.findSome? fun step => match step.deed with
      | .branch _ target => if target.isEmpty || labels.contains target then none else some target
      | _ => none
    match missing with
    | some target => throw ("can't find label for jump to \x60" ++ target ++ "'")
    | none => return steps

end EditScript

end ScenarioBench.Rehearsal.Shell

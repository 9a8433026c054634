import ScenarioBench.Rehearsal.Shell.Expression

/-! Reading regular expressions.

In the basic form, a backslash gives parentheses, braces and some other characters their meaning; in
the extended form, it takes it away.
-/

set_option autoImplicit false

namespace ScenarioBench.Rehearsal.Shell

inductive ExpressionFault where
  | openBracket
  | openGroup
  | extraClosing
  | openInterval
  | badInterval
  | badReference
  | badRange
  | badClass
  | nothingToRepeat
  | trailingBackslash
  | bareBracket
  | looseClass
  | tooBig
  deriving DecidableEq

namespace ExpressionFault

def message : ExpressionFault → String
  | openBracket => "Unmatched [, [^, [:, [., or [="
  | openGroup => "Unmatched ( or \\("
  | extraClosing => "Unmatched ) or \\)"
  | openInterval => "Unmatched \\\x7b"
  | badInterval => "Invalid content of \\\x7b\\\x7d"
  | badReference => "Invalid back reference"
  | badRange => "Invalid range end"
  | badClass => "Invalid character class name"
  | nothingToRepeat => "Invalid preceding regular expression"
  | trailingBackslash => "Trailing backslash"
  | bareBracket => "Invalid regular expression"
  | looseClass => "character class syntax is [[:space:]], not [:space:]"
  | tooBig => "Regular expression too big"

end ExpressionFault

namespace ExpressionReader

structure Form where
  isExtended : Bool
  isTolerant : Bool

structure State where
  rest : List Char
  form : Form
  started : Nat
  ended : List Nat
  leftOut : List String

abbrev Reading := StateT State (Except ExpressionFault)

inductive Piece where
  | character (character : Char)
  | anyOne
  | bracket
  | edge (edge : Edge)
  | set (ranges : List (Char × Char)) (others : Bool)
  | reference (number : Nat)
  | opening
  | closing
  | bar
  | star
  | plus
  | question
  | interval
  deriving DecidableEq

def wordRanges : List (Char × Char) :=
  [('a', 'z'), ('A', 'Z'), ('0', '9'), ('_', '_')]

def blankRanges : List (Char × Char) :=
  [('\t', '\r'), (' ', ' ')]

def escaped? (character : Char) : Option Piece :=
  match character with
  | 'w' => some (.set wordRanges false)
  | 'W' => some (.set wordRanges true)
  | 's' => some (.set blankRanges false)
  | 'S' => some (.set blankRanges true)
  | 'b' => some (.edge .wordEdge)
  | 'B' => some (.edge .wordInside)
  | '<' => some (.edge .wordStart)
  | '>' => some (.edge .wordEnd)
  | '\x60' => some (.edge .textStart)
  | '\x27' => some (.edge .textEnd)
  | _ => if '1' ≤ character && character ≤ '9' then some (.reference (character.toNat - '0'.toNat))
    else none

/-- The operator that a character is, written plainly in the extended form and behind a backslash in
the basic one. -/
def operator? (character : Char) : Option Piece :=
  match character with
  | '(' => some .opening
  | ')' => some .closing
  | '|' => some .bar
  | '+' => some .plus
  | '?' => some .question
  | '\x7b' => some .interval
  | _ => none

def piece? (isExtended : Bool) : List Char → Except ExpressionFault (Option (Piece × List Char))
  | [] => .ok none
  | ['\\'] => .error .trailingBackslash
  | '\\' :: head :: rest =>
    match operator? head, escaped? head with
    | some operator, _ =>
      .ok (some (if isExtended then .character head else operator, rest))
    | none, some piece => .ok (some (piece, rest))
    | none, none => .ok (some (.character head, rest))
  | '[' :: rest => .ok (some (.bracket, rest))
  | '.' :: rest => .ok (some (.anyOne, rest))
  | '*' :: rest => .ok (some (.star, rest))
  | '^' :: rest => .ok (some (.edge .lineStart, rest))
  | '$' :: rest => .ok (some (.edge .lineEnd, rest))
  | head :: rest =>
    match operator? head with
    | some operator => .ok (some (if isExtended then operator else .character head, rest))
    | none => .ok (some (.character head, rest))

def peek : Reading (Option Piece) := do
  let state ← get
  match piece? state.form.isExtended state.rest with
  | .ok found => return found.map (·.1)
  | .error fault => throw fault

def take : Reading (Option Piece) := do
  let state ← get
  match piece? state.form.isExtended state.rest with
  | .ok (some (piece, rest)) =>
    set { state with rest := rest }
    return some piece
  | .ok none => return none
  | .error fault => throw fault

def members (isFirst : Bool) : Nat → List Char →
    Except ExpressionFault (List (Char × Char) × List Char)
  | 0, _ => .error .openBracket
  | _ + 1, [] => .error .openBracket
  | fuel + 1, head :: rest =>
    let add (found : List (Char × Char)) (rest : List Char) :
        Except ExpressionFault (List (Char × Char) × List Char) :=
      (members false fuel rest).map fun (others, rest) => (found ++ others, rest)
    if head = ']' && !isFirst then .ok ([], rest)
    else match head, rest with
      | '[', ':' :: after =>
        let name := after.takeWhile (· ≠ ':')
        match after.drop name.length with
        | ':' :: ']' :: rest =>
          match Pattern.classes.lookup (String.ofList name) with
          | some found => add found rest
          | none => .error .badClass
        | _ => .error .openBracket
      | '[', '=' :: own :: '=' :: ']' :: rest => add [(own, own)] rest
      | '[', '.' :: own :: '.' :: ']' :: '-' :: last :: rest =>
        if last = ']' then add [(own, own), ('-', '-')] (last :: rest) else add [(own, last)] rest
      | '[', '.' :: own :: '.' :: ']' :: rest => add [(own, own)] rest
      | low, '-' :: '[' :: '.' :: high :: '.' :: ']' :: rest =>
        if high < low then .error .badRange else add [(low, high)] rest
      | low, '-' :: high :: rest =>
        if high = ']' then add [(low, low)] ('-' :: high :: rest)
        else if high < low then .error .badRange
        else add [(low, high)] rest
      | single, rest => add [(single, single)] rest

def readBracket : Reading Symbol := do
  let state ← get
  let others := state.rest.head? = some '^'
  if (if others then state.rest.tail else state.rest).isEmpty then throw .bareBracket
  let inside := (state.rest.takeWhile (· ≠ ']')).reverse
  if state.rest.head? = some ':' && inside.head? = some ':' && 1 < inside.length then
    throw .looseClass
  match members true (state.rest.length + 1) (if others then state.rest.tail else state.rest) with
  | .ok (ranges, rest) =>
    set { state with rest := rest }
    return .oneOf ranges others
  | .error fault => throw fault

def mostRepetitions : Nat := 32767

/-- A number of an interval up to a mark: the number if it is one, and what is left. -/
def splitBound (closing rest : List Char) : Option Nat × List Char :=
  let rec upTo : List Char → List Char × List Char
    | [] => ([], [])
    | head :: rest =>
      if head = ',' || closing.isPrefixOf (head :: rest) then ([], head :: rest)
      else
        let (front, after) := upTo rest
        (head :: front, after)
  let (digits, after) := upTo rest
  (if digits.all Char.isDigit then some ((String.ofList digits).toNat?.getD 0) else none, after)

/-- The bounds of an interval, which is opened already: the least and the most repetitions. Nothing is
read if the brace stands for itself. -/
def readInterval : Reading (Option (Nat × Option Nat)) := do
  let state ← get
  let closing := if state.form.isExtended then ['\x7d'] else ['\\', '\x7d']
  let broken (rest : List Char) : Reading (Option (Nat × Option Nat)) := do
    if state.form.isExtended && state.form.isTolerant then return none
    throw (if rest.isEmpty then .openInterval else .badInterval)
  let (low, rest) := splitBound closing state.rest
  match low, rest with
  | none, _ | _, [] => broken rest
  | some low, ',' :: after =>
    match splitBound closing after with
    | (none, rest) => broken rest
    | (some _, []) => broken []
    | (some high, rest) =>
      let isOpen := closing.isPrefixOf after
      if !closing.isPrefixOf rest || (!isOpen && high < low) then throw .badInterval
      if mostRepetitions < max low high then throw .tooBig
      set { state with rest := rest.drop closing.length }
      return some (low, if isOpen then none else some high)
  | some low, rest =>
    if closing.isPrefixOf state.rest then broken rest
    else
      if mostRepetitions < low then throw .tooBig
      set { state with rest := rest.drop closing.length }
      return some (low, some low)

def endsHere (depth : Nat) (piece : Option Piece) : Bool :=
  match piece with
  | none | some .bar => true
  | some .closing => 0 < depth
  | _ => false

def refusesTwice (piece : Option Piece) : Reading Bool := do
  let form := (← get).form
  return !form.isExtended && !form.isTolerant && (piece = some .star || piece = some .interval)

def readRepetitions : Nat → Expression → Reading Expression
  | 0, inner => return inner
  | fuel + 1, inner => do
    let isRepeated := match inner with
      | .repeated .. => true
      | _ => false
    if isRepeated && (← refusesTwice (← peek)) then throw .nothingToRepeat
    match ← peek with
    | some .star =>
      let _ ← take
      readRepetitions fuel (.repeated inner 0 none)
    | some .plus =>
      let _ ← take
      readRepetitions fuel (.repeated inner 1 none)
    | some .question =>
      let _ ← take
      readRepetitions fuel (.repeated inner 0 (some 1))
    | some .interval =>
      let before ← get
      let _ ← take
      match ← readInterval with
      | some (least, most) => readRepetitions fuel (.repeated inner least most)
      | none =>
        set before
        return inner
    | _ => return inner

def readBare (operator : Char) : Reading Expression := do
  let form := (← get).form
  let leaveOut (shown : String) : Reading Expression := do
    modify fun state => { state with leftOut := state.leftOut ++ [shown] }
    return .nothing
  if !form.isExtended then
    if operator = '\x7b' && !form.isTolerant then throw .nothingToRepeat
    return .one (.exactly operator)
  if !form.isTolerant then throw .nothingToRepeat
  if operator ≠ '\x7b' then return (← leaveOut (String.singleton operator))
  match ← readInterval with
  | some _ => leaveOut "\x7b...\x7d"
  | none => return .one (.exactly operator)

def readAtom (alternatives : Reading Expression) (depth : Nat) (isFirst : Bool) :
    Reading Expression := do
  match ← take with
  | none => return .nothing
  | some (.character character) => return .one (.exactly character)
  | some .anyOne => return .one .anyOne
  | some .bracket => return .one (← readBracket)
  | some (.set ranges others) => return .one (.oneOf ranges others)
  | some (.reference number) =>
    if !(← get).ended.contains number then throw .badReference
    return .again number
  | some (.edge edge) =>
    let state ← get
    let isLast := endsHere depth (← peek)
    let isLiteral := !state.form.isExtended &&
      ((edge = .lineStart && !isFirst) || (edge = .lineEnd && !isLast))
    if isLiteral then return .one (.exactly (if edge = .lineStart then '^' else '$'))
    return .edge edge
  | some .opening =>
    let number := (← get).started + 1
    modify fun state => { state with started := number }
    let inner ← alternatives
    if (← take) ≠ some .closing then throw .openGroup
    modify fun state => { state with ended := number :: state.ended }
    return .group number inner
  | some .closing =>
    let form := (← get).form
    if form.isExtended && form.isTolerant then return .one (.exactly ')') else throw .extraClosing
  | some .star => readBare '*'
  | some .plus => readBare '+'
  | some .question => readBare '?'
  | some .interval => readBare '\x7b'
  | some .bar => return .nothing

def readAlternative (alternatives : Reading Expression) (depth : Nat) :
    Nat → (isFirst : Bool) → Reading Expression
  | 0, _ => return .nothing
  | fuel + 1, isFirst => do
    if endsHere depth (← peek) then return .nothing
    let atom ← readAtom alternatives depth isFirst
    match atom with
    | .edge edge =>
      let isStart := edge = .lineStart
      return .sequence atom (← readAlternative alternatives depth fuel isStart)
    | _ => pure ()
    let whole ← readRepetitions fuel atom
    match ← readAlternative alternatives depth fuel false with
    | .nothing => return whole
    | others => return .sequence whole others

def readOthers (alternative : Reading Expression) : Nat → Expression → Reading Expression
  | 0, first => return first
  | fuel + 1, first => do
    match ← peek with
    | some .bar =>
      let _ ← take
      return .either first (← readOthers alternative fuel (← alternative))
    | _ => return first

def readAlternatives : Nat → (depth : Nat) → Reading Expression
  | 0, _ => throw .openGroup
  | fuel + 1, depth => do
    let length := (← get).rest.length + 1
    let alternative := readAlternative (readAlternatives fuel (depth + 1)) depth length true
    readOthers alternative length (← alternative)

end ExpressionReader

def Expression.readIn (form : ExpressionReader.Form) (text : List Char) :
    Except ExpressionFault (Expression × List String) := do
  let start : ExpressionReader.State := ⟨text, form, 0, [], []⟩
  let (expression, after) ← (ExpressionReader.readAlternatives (text.length + 1) 0).run start
  if after.rest.isEmpty then return (expression, after.leftOut) else throw .extraClosing

def Expression.read (isExtended isTolerant : Bool) (text : List Char) :
    Except ExpressionFault Expression := do
  return (← readIn ⟨isExtended, isTolerant⟩ text).1

end ScenarioBench.Rehearsal.Shell

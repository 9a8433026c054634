import ScenarioBench.Rehearsal.Shell.Pattern
import ScenarioBench.Rehearsal.Shell.Utilities.Contents

/-! Utilities that pick, join, fold and replace characters and fields. -/

set_option autoImplicit false

namespace ScenarioBench.Rehearsal.Shell.Utility

/-! ### Cutting -/

structure Span where
  first : Nat
  last : Option Nat

def Span.covers (spans : List Span) (place : Nat) : Bool :=
  spans.any fun span => span.first ≤ place && span.last.all fun last => place ≤ last

def spans (isUnicode inFields : Bool) (text : String) : Except String (List Span) :=
  let wrong (part : String) : String :=
    (if inFields then "invalid field value " else "invalid byte/character position ")
      ++ languageQuoted isUnicode part
  let zero := if inFields then "fields are numbered from 1"
    else "byte/character positions are numbered from 1"
  let number (whole : String) (digits : List Char) : Except String Nat :=
    if digits.all Char.isDigit then .ok ((String.ofList digits).toNat?.getD 0)
    else .error (wrong whole)
  ((text.map fun letter => if letter = ' ' || letter = '\t' then ',' else letter).splitOn ",").mapM
    fun part => do
      let letters := part.toList
      let before := letters.takeWhile (· ≠ '-')
      let first ← number part before
      match letters.drop before.length with
      | [] =>
        if letters.isEmpty || first = 0 then throw zero
        return ⟨first, some first⟩
      | _ :: after =>
        let last ← number part after
        if before.isEmpty && after.isEmpty then throw "invalid range with no endpoint: -"
        if !before.isEmpty && first = 0 then throw zero
        let first := if before.isEmpty then 1 else first
        if after.isEmpty then return ⟨first, none⟩
        if last < first then throw "invalid decreasing range"
        return ⟨first, some last⟩

def cutUsage : Usage where
  name := "cut"
  letters := [('b', .value), ('c', .value), ('f', .value), ('d', .value), ('n', .nothing),
    ('s', .nothing), ('C', .nothing), ('O', .value), ('z', .nothing)]
  words := [("bytes", 'b'), ("characters", 'c'), ("fields", 'f'), ("delimiter", 'd'),
    ("only-delimited", 's'), ("complement", 'C'), ("output-delimiter", 'O')]
  stops := false
  misuse := 1

def cut : Utility := fun arguments => do
  let given ← given cutUsage arguments
  let isUnicode := (← Doing.machine).isUnicode
  let lists := given.options.filter fun option => ['b', 'c', 'f'].contains option.1
  match lists with
  | [] => misused cutUsage "you must specify a list of bytes, characters, or fields"
  | _ :: _ :: _ => misused cutUsage "only one list may be specified"
  | [(letter, list)] =>
    let inFields := letter = 'f'
    let mark := (given.value? 'd').getD "\t"
    if 1 < mark.length then misused cutUsage "the delimiter must be a single character"
    if given.has 'd' && !inFields then
      misused cutUsage "an input delimiter may be specified only when operating on fields"
    if given.has 's' && !inFields then
      misused cutUsage
        "suppressing non-delimited lines makes sense\n\tonly when operating on fields"
    let spans ← match spans isUnicode inFields list with
      | .ok spans => pure spans
      | .error message => misused cutUsage message
    let keeps (place : Nat) : Bool := Span.covers spans place != given.has 'C'
    let pick {α : Type} (parts : List α) : List α :=
      (parts.zipIdx.filter fun part => keeps (part.2 + 1)).map (·.1)
    let mark := if mark.isEmpty then "\x00" else mark
    let joint := (given.value? 'O').getD (if inFields then mark else "")
    let cutLine (line : String) : Option String :=
      if inFields then
        let fields := line.splitOn mark
        if fields.length = 1 then (if given.has 's' then none else some line)
        else some (joint.intercalate (pick fields))
      else some (String.ofList (pick line.toList))
    withContents "cut" given.operands fun _ text =>
      Doing.write 1 (unlines ((lines text).1.filterMap cutLine))

/-! ### Pasting -/

def separatorList : List Char → List String
  | [] => []
  | '\\' :: 'n' :: rest => "\n" :: separatorList rest
  | '\\' :: 't' :: rest => "\t" :: separatorList rest
  | '\\' :: '0' :: rest => "" :: separatorList rest
  | '\\' :: other :: rest => String.singleton other :: separatorList rest
  | other :: rest => String.singleton other :: separatorList rest

def joinInTurn (separators : List String) (texts : List String) : String :=
  let separators := if separators.isEmpty then [""] else separators
  String.join (texts.zipIdx.map fun (text, place) =>
    (if place = 0 then "" else separators.getD ((place - 1) % separators.length) "") ++ text)

def dealt (files : List String) (contents : List (List String)) (input : List String) :
    List (List String) :=
  let hyphens := (files.filter (· = "-")).length
  let step (state : Nat × List (List String)) (entry : String × List String) :
      Nat × List (List String) :=
    if entry.1 = "-" then
      let own := (input.zipIdx.filter fun line => line.2 % hyphens = state.1).map (·.1)
      (state.1 + 1, own :: state.2)
    else (state.1, entry.2 :: state.2)
  ((files.zip contents).foldl step (0, [])).2.reverse

def paste : Utility := fun arguments => do
  let usage : Usage := ⟨"paste", [('d', .value), ('s', .nothing), ('z', .nothing)],
    [("delimiters", 'd'), ("serial", 's')], false, 1⟩
  let given ← given usage arguments
  let separators := separatorList ((given.value? 'd').getD "\t").toList
  let files := if given.operands.isEmpty then ["-"] else given.operands
  let input ← if files.contains "-" then Doing.takeInput else pure (.ok "")
  match input with
  | .ok _ => pure ()
  | .error cause => fail "paste" ("-: " ++ reason cause) 1
  let input := input.toOption.getD ""
  let found ← files.mapM fun file => do
    if file = "-" then return some []
    match ← read file with
    | .ok text => return some (lines text).1
    | .error cause => do
      complain "paste" ((← quoteIfNeeded file) ++ ": " ++ reason cause)
      return none
  if given.has 's' then
    let shown := (files.zip found).filterMap fun (file, found) => found.map fun parts =>
      joinInTurn separators (if file = "-" then (lines input).1 else parts)
    Doing.write 1 (unlines shown)
    return if found.all Option.isSome then 0 else 1
  else
    if !found.all Option.isSome then return 1
    let columns := dealt files (found.map fun parts => parts.getD []) (lines input).1
    let rows := columns.foldl (fun most column => max most column.length) 0
    Doing.write 1 (unlines ((List.range rows).map fun row =>
      joinInTurn separators (columns.map fun column => column.getD row "")))
    return 0

/-! ### Replacing characters -/

inductive Member where
  | one (character : Char)
  | range (first last : Char)
  | class (name : String)
  | repeated (character : Char) (count : Option Nat)

def splitEscape : List Char → Option (Char × List Char)
  | [] => none
  | '\\' :: rest =>
    match rest with
    | [] => some ('\\', [])
    | head :: after =>
      let digits := (rest.take 3).takeWhile fun digit => '0' ≤ digit && digit ≤ '7'
      if !digits.isEmpty then
        let value := digits.foldl (fun value digit => value * 8 + (digit.toNat - '0'.toNat)) 0
        some (Char.ofNat (value % 256), rest.drop digits.length)
      else
        let known := [('a', '\x07'), ('b', '\x08'), ('f', '\x0c'), ('n', '\n'), ('r', '\r'),
          ('t', '\t'), ('v', '\x0b')]
        some ((known.lookup head).getD head, after)
  | head :: rest => some (head, rest)

/-- The members of a set, within a number of steps, or a range that runs the wrong way. -/
def members : Nat → List Char → Except String (List Member)
  | 0, _ => .ok []
  | fuel + 1, text =>
    let before (member : Member) (rest : List Char) : Except String (List Member) :=
      (members fuel rest).map (member :: ·)
    let plain : Except String (List Member) :=
      match splitEscape text with
      | none => .ok []
      | some (first, '-' :: next :: rest) =>
        match splitEscape (next :: rest) with
        | some (last, rest) =>
          if last < first then
            .error ("range-endpoints of '" ++ String.ofList [first, '-', last]
              ++ "' are in reverse collating sequence order")
          else before (.range first last) rest
        | none => before (.one first) ('-' :: next :: rest)
      | some (first, rest) => before (.one first) rest
    match text with
    | '[' :: ':' :: rest =>
      let name := rest.takeWhile (· ≠ ':')
      match rest.drop name.length with
      | ':' :: ']' :: after =>
        if (Pattern.classes.lookup (String.ofList name)).isSome then
          before (.class (String.ofList name)) after
        else .error ("invalid character class '" ++ String.ofList name ++ "'")
      | _ => plain
    | '[' :: '=' :: own :: '=' :: ']' :: rest => before (.one own) rest
    | '[' :: rest =>
      match splitEscape rest with
      | some (own, '*' :: after) =>
        let (digits, left) := after.span Char.isDigit
        match left with
        | ']' :: left =>
          let base := if digits.head? = some '0' then 8 else 10
          let count := digits.foldl (fun value digit => value * base + (digit.toNat - '0'.toNat)) 0
          before (.repeated own (if count = 0 then none else some count)) left
        | _ => plain
      | _ => plain
    | _ => plain

def charactersOf (first last : Char) : List Char :=
  (List.range (last.toNat + 1 - first.toNat)).map fun (offset : Nat) =>
    Char.ofNat (first.toNat + offset)

def classCharacters (name : String) : List Char :=
  let ranges := (Pattern.classes.lookup name).getD []
  ((List.range 256).map Char.ofNat).filter fun character =>
    ranges.any fun range => range.1 ≤ character && character ≤ range.2

/-- The characters of a set; what is repeated as often as needed fills it up to a length. -/
def setCharacters (length : Nat) (members : List Member) : List Char :=
  let own (filled : Nat) (member : Member) : List Char := match member with
    | .one character => [character]
    | .range first last => charactersOf first last
    | .class name => classCharacters name
    | .repeated character (some count) => List.replicate count character
    | .repeated character none => List.replicate filled character
  let fixed := (members.map fun member => (own 0 member).length).foldl (· + ·) 0
  members.flatMap (own (length - fixed))

def trUsage : Usage where
  name := "tr"
  letters := [('c', .nothing), ('C', .nothing), ('d', .nothing), ('s', .nothing), ('t', .nothing)]
  words := [("complement", 'c'), ("delete", 'd'), ("squeeze-repeats", 's'), ("truncate-set1", 't')]
  stops := true
  misuse := 1

def squeezed (set : List Char) : Option Char → List Char → List Char
  | _, [] => []
  | last, head :: rest =>
    if last = some head && set.contains head then squeezed set last rest
    else head :: squeezed set (some head) rest

def tr : Utility := fun arguments => do
  let given ← given trUsage arguments
  let deletes := given.has 'd'
  let squeezes := given.has 's'
  let least := if deletes = squeezes then 2 else 1
  let most := if deletes && !squeezes then 1 else 2
  let refuse (message : String) (why : Option String) : Doing Unit := do
    complain "tr" message
    match why with
    | some why => Doing.note why
    | none => pure ()
    Doing.note "Try 'tr --help' for more information."
    Doing.leave 1
  let operands := given.operands
  if operands.length < least then
    match operands.getLast? with
    | none => refuse "missing operand" none
    | some last =>
      refuse ("missing operand after " ++ (← quoteName last)) (some (if squeezes then
        "Two strings must be given when both deleting and squeezing repeats."
        else "Two strings must be given when translating."))
  match operands[most]? with
  | some extra =>
    refuse ("extra operand " ++ (← quoteName extra)) (if most = 1 then
      some "Only one string may be given when deleting without squeezing repeats." else none)
  | none => pure ()
  let set (text : String) : Doing (List Member) := do
    match members (text.length + 1) text.toList with
    | .ok members => return members
    | .error message => fail "tr" message 1
  let firstMembers ← set (operands.headD "")
  let secondMembers ← set (operands.getD 1 "")
  let written := setCharacters 0 firstMembers
  let isComplement := given.has 'c' || given.has 'C'
  let first := if isComplement then
      ((List.range 256).map Char.ofNat).filter fun character => !written.contains character
    else written
  let second := setCharacters first.length secondMembers
  let text ← match ← Doing.takeInput with
    | .ok text => pure text.toList
    | .error cause => fail "tr" ("read error: " ++ reason cause) 1
  let after ←
    if deletes then
      let kept := text.filter fun character => !first.contains character
      pure (if squeezes then squeezed second none kept else kept)
    else if operands.length = 1 then pure (squeezed first none text)
    else
      let first := if given.has 't' then first.take second.length else first
      if second.isEmpty && !first.isEmpty then
        fail "tr" "when not truncating set1, string2 must be non-empty" 1
      let last := second.getLast?.getD ' '
      let pairs := first.zipIdx.map fun (character, place) => (character, second.getD place last)
      let table := ((List.range 256).map fun (code : Nat) =>
        let own := Char.ofNat code
        ((pairs.reverse.find? fun pair => pair.1 = own).map (·.2)).getD own).toArray
      let replaced := text.map fun character => table.getD character.toNat character
      pure (if squeezes then squeezed second none replaced else replaced)
  Doing.write 1 (String.ofList after)
  return 0

/-! ### Folding -/

/-- A line in pieces of at most a width; at a blank if that is wanted and there is one. -/
def folded (width : Nat) (atBlanks : Bool) : Nat → List Char → List String
  | 0, _ => []
  | fuel + 1, line =>
    if line.length ≤ width then [String.ofList line]
    else
      let piece := line.take width
      let upToBlank := (piece.reverse.dropWhile (· ≠ ' ')).reverse
      let piece := if atBlanks && !upToBlank.isEmpty then upToBlank else piece
      String.ofList piece :: folded width atBlanks fuel (line.drop piece.length)

def fold : Utility := fun arguments => do
  let usage : Usage := ⟨"fold", [('b', .nothing), ('s', .nothing), ('w', .value)],
    [("bytes", 'b'), ("spaces", 's'), ("width", 'w')], false, 1⟩
  let given ← given usage arguments
  let text := (given.value? 'w').getD "80"
  let width ← match text.toNat? with
    | some (width + 1) => pure (width + 1)
    | _ => fail "fold" ("invalid number of columns: " ++ (← quoteName text)) 1
  withContents "fold" given.operands fun _ text => do
    let (parts, hasEnd) := lines text
    let shown := "\n".intercalate (parts.flatMap fun line =>
      folded width (given.has 's') (line.length + 1) line.toList)
    Doing.write 1 (if hasEnd && !parts.isEmpty then shown ++ "\n" else shown)

def expand : Utility := fun arguments => do
  let usage : Usage := ⟨"expand", [('i', .nothing), ('t', .value)],
    [("initial", 'i'), ("tabs", 't')], false, 1⟩
  let given ← given usage arguments
  let width := max 1 (((given.value? 't').bind String.toNat?).getD 8)
  let step (state : List Char × Nat) (letter : Char) : List Char × Nat :=
    if letter = '\t' then
      let count := width - state.2 % width
      (List.replicate count ' ' ++ state.1, state.2 + count)
    else if letter = '\n' then (letter :: state.1, 0)
    else (letter :: state.1, state.2 + 1)
  withContents "expand" given.operands fun _ text =>
    Doing.write 1 (String.ofList (text.toList.foldl step ([], 0)).1.reverse)

end ScenarioBench.Rehearsal.Shell.Utility

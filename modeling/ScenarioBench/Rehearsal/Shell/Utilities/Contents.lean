import ScenarioBench.Rehearsal.Shell.Utility

/-! Utilities that show the contents of files, as a whole or in parts. -/

set_option autoImplicit false

namespace ScenarioBench.Rehearsal.Shell.Utility

/-- Do something with the contents of files, standard input if there are none, and complain about the
files that cannot be read. -/
def withContents (name : String) (files : List String) (doing : String → String → Doing Unit) :
    Doing Nat :=
  forAll (if files.isEmpty then ["-"] else files) fun file => do
    match ← read file with
    | .ok text => do
      doing file text
      return 0
    | .error cause => do
      complain name ((← quoteIfNeeded file) ++ ": " ++ reason cause)
      return 1

def padLeft (width : Nat) (text : String) : String :=
  String.ofList (List.replicate (width - text.length) ' ') ++ text

/-! ### Whole contents -/

structure Shown where
  marksEnds : Bool
  marksTabs : Bool
  marksOthers : Bool
  numbers : Bool
  numbersFilled : Bool
  squeezes : Bool

def Shown.character (shown : Shown) (character : Char) : List Char :=
  let plain (code : Nat) : List Char :=
    if code < 32 then ['^', Char.ofNat (code + 64)]
    else if code = 127 then ['^', '?']
    else [Char.ofNat code]
  let code := character.toNat
  if character = '\t' then (if shown.marksTabs then ['^', 'I'] else ['\t'])
  else if !shown.marksOthers then [character]
  else if code < 128 then plain code
  else 'M' :: '-' :: plain (code - 128)

/-- The lines of contents as they are shown, from a number of a line on and after some empty lines: the
text, the next number and the empty lines at the end. -/
def Shown.lines (shown : Shown) : List String → (isOpen : Bool) → Nat → Nat → List Char × Nat × Nat
  | [], _, number, empty => ([], number, empty)
  | line :: rest, isOpen, number, empty =>
    let isEmpty := line.isEmpty && !(rest.isEmpty && isOpen)
    if shown.squeezes && isEmpty && 0 < empty then
      Shown.lines shown rest isOpen number (empty + 1)
    else
      let isNumbered := shown.numbers || (shown.numbersFilled && !isEmpty)
      let start := if isNumbered then (padLeft 6 (toString number) ++ "\t").toList else []
      let ends := if rest.isEmpty && isOpen then []
        else if shown.marksEnds then ['$', '\n'] else ['\n']
      let (others, last, empties) := Shown.lines shown rest isOpen
        (if isNumbered then number + 1 else number) (if isEmpty then empty + 1 else 0)
      (start ++ line.toList.flatMap shown.character ++ ends ++ others, last, empties)

def catUsage : Usage where
  name := "cat"
  letters := ['A', 'b', 'e', 'E', 'n', 's', 't', 'T', 'u', 'v'].map fun letter => (letter, .nothing)
  words := [("show-all", 'A'), ("number-nonblank", 'b'), ("show-ends", 'E'), ("number", 'n'),
    ("squeeze-blank", 's'), ("show-tabs", 'T'), ("show-nonprinting", 'v')]
  stops := false
  misuse := 1

/-- Show contents one after the other; the numbers of lines go on from one to the next. -/
def catFiles (shown : Shown) : List String → (number empty : Nat) → (isOpen : Bool) → Doing Nat
  | [], _, _, _ => return 0
  | file :: rest, number, empty, wasOpen => do
    match ← read file with
    | .error cause => do
      complain "cat" ((← quoteIfNeeded file) ++ ": " ++ reason cause)
      let _ ← catFiles shown rest number empty wasOpen
      return 1
    | .ok text => do
      let (parts, hasEnd) := lines text
      let numbers := shown.numbers || shown.numbersFilled
      let (text, number, empty) ← match parts, wasOpen && numbers with
        | first :: others, true =>
          let plain := { shown with numbers := false, numbersFilled := false }
          let (start, _, _) := plain.lines [first] (others.isEmpty && !hasEnd) number empty
          let (text, number, empty) := shown.lines others (!hasEnd) number empty
          pure (start ++ text, number, empty)
        | _, _ => pure (shown.lines parts (!hasEnd) number empty)
      Doing.write 1 (String.ofList text)
      catFiles shown rest number empty (if parts.isEmpty then wasOpen else !hasEnd)

def cat : Utility := fun arguments => do
  let given ← given catUsage arguments
  let has (letters : List Char) : Bool := letters.any given.has
  let files := if given.operands.isEmpty then ["-"] else given.operands
  let numbersFilled := given.has 'b'
  let shown : Shown := {
    marksEnds := has ['A', 'e', 'E'], marksTabs := has ['A', 't', 'T']
    marksOthers := has ['A', 'e', 't', 'v'], numbers := given.has 'n' && !numbersFilled
    numbersFilled := numbersFilled, squeezes := given.has 's' }
  let status ← if has ['A', 'b', 'e', 'E', 'n', 's', 't', 'T', 'v'] then
      catFiles shown files 1 0 false
    else withContents "cat" files fun _ text => Doing.write 1 text
  let isClosed := ((← Doing.machine).channel? 0).isNone
  if isClosed && files.contains "-" then
    complain "cat" ("closing standard input: " ++ reason .badDescriptor)
  return status

def tac : Utility := fun arguments => do
  let usage : Usage := ⟨"tac", [('b', .nothing), ('r', .nothing), ('s', .value)],
    [("before", 'b'), ("regex", 'r'), ("separator", 's')], false, 1⟩
  let given ← given usage arguments
  forAll (if given.operands.isEmpty then ["-"] else given.operands) fun file => do
    match ← read file with
    | .ok text => do
      let (parts, hasEnd) := lines text
      let closed := parts.map (· ++ "\n")
      let all := if hasEnd then closed else closed.dropLast ++ parts.getLast?.toList
      Doing.write 1 (String.join all.reverse)
      return 0
    | .error .isADirectory => do
      complain "tac" ((← quoteIfNeeded file) ++ ": read error: " ++ reason .isADirectory)
      return 1
    | .error .badDescriptor => do
      complain "tac" ((← quote "standard input") ++ ": read error: " ++ reason .badDescriptor)
      return 1
    | .error cause => do
      complain "tac" ("failed to open " ++ (← quote file) ++ " for reading: " ++ reason cause)
      return 1

def rev : Utility := fun arguments => do
  let given ← given ⟨"rev", [('V', .nothing), ('h', .nothing)], [], false, 1⟩ arguments
  let isUnicode := (← Doing.machine).isUnicode
  forAll (if given.operands.isEmpty then ["-"] else given.operands) fun file => do
    match ← read file with
    | .ok text => do
      let isDecoded := isUnicode && isText text
      let reversed := (((decode isDecoded text).splitOn "\n").map fun line =>
        String.ofList line.toList.reverse)
      Doing.write 1 (encode isDecoded ("\n".intercalate reversed))
      return 0
    | .error .isADirectory => do
      complain "rev" (file ++ ": " ++ reason .isADirectory)
      return 1
    | .error cause => do
      complain "rev" ("cannot open " ++ file ++ ": " ++ reason cause)
      return 1

/-! ### Beginnings and ends -/

def multiples : List (String × Nat) :=
  [("", 1), ("b", 512), ("kB", 1000), ("K", 1024), ("k", 1024), ("KiB", 1024), ("MB", 1000000),
   ("M", 1048576), ("m", 1048576), ("MiB", 1048576), ("G", 1073741824), ("GB", 1000000000)]

def count? (text : String) : Option Nat := do
  let (digits, letters) := text.toList.span Char.isDigit
  if digits.isEmpty then none
  let factor ← multiples.lookup (String.ofList letters)
  let value ← (String.ofList digits).toNat?
  return value * factor

/-- A part of contents: whether it is counted in lines or octets, whether it is counted from the other
end, and how long it is. -/
structure Part where
  inLines : Bool
  fromOther : Bool
  length : Nat

def Part.first (part : Part) (text : String) : String :=
  if part.inLines then
    let (parts, hasEnd) := lines text
    let closed := parts.map (· ++ "\n")
    let all := if hasEnd then closed else closed.dropLast ++ parts.getLast?.toList
    String.join (all.take (if part.fromOther then all.length - part.length else part.length))
  else
    let letters := text.toList
    String.ofList
      (letters.take (if part.fromOther then letters.length - part.length else part.length))

def Part.last (part : Part) (text : String) : String :=
  if part.inLines then
    let (parts, hasEnd) := lines text
    let closed := parts.map (· ++ "\n")
    let all := if hasEnd then closed else closed.dropLast ++ parts.getLast?.toList
    String.join
      (all.drop (if part.fromOther then part.length - 1 else all.length - part.length))
  else
    let letters := text.toList
    String.ofList
      (letters.drop (if part.fromOther then part.length - 1 else letters.length - part.length))

/-- Show parts of files, each below its name if that is wanted. Of an opened file no more is read than
is shown, if `isFirst` is set. -/
def showParts (name : String) (part : Part) (isFirst hasNames : Bool) (files : List String) :
    Doing Nat := do
  let cut (text : String) : String := if isFirst then part.first text else part.last text
  let show? (hasShown : Bool) (file : String) : Doing (Bool × Nat) := do
    let title : String := if file = "-" then "standard input" else file
    let header := (if hasShown then "\n" else "") ++ "==> " ++ title ++ " <==\n"
    let found ← match file, (← Doing.machine).channel? 0 with
      | "-", some (.file index) =>
        Doing.consume (.file index) fun text =>
          if isFirst then (cut text).length else text.length
      | _, _ => read file
    match found with
    | .ok text => do
      if hasNames then Doing.write 1 header
      Doing.write 1 (cut text)
      return (true, 0)
    | .error cause => do
      if cause = .isADirectory || cause = .badDescriptor then
        if hasNames then Doing.write 1 header
        complain name ("error reading " ++ (← quote title) ++ ": " ++ reason cause)
        return (true, 1)
      complain name ("cannot open " ++ (← quote file) ++ " for reading: " ++ reason cause)
      return (hasShown, 1)
  let step (state : Bool × Nat) (file : String) : Doing (Bool × Nat) := do
    let (hasShown, status) ← show? state.1 file
    return (hasShown, max state.2 status)
  return (← files.foldlM step (false, 0)).2

def partOf (name : String) (isFirst : Bool) (given : Given) : Doing Part := do
  match given.options.reverse.find? fun option => option.1 = 'n' || option.1 = 'c' with
  | none => return ⟨true, false, 10⟩
  | some (letter, text) =>
    let (mark, digits) : Char × String := match text.toList with
      | '-' :: rest => ('-', String.ofList rest)
      | '+' :: rest => ('+', String.ofList rest)
      | _ => (' ', text)
    match count? digits with
    | some length =>
      return ⟨letter = 'n', if isFirst then mark = '-' else mark = '+', length⟩
    | none =>
      let what := if letter = 'n' then "lines" else "bytes"
      fail name ("invalid number of " ++ what ++ ": " ++ (← quoteName text)) 1

def partUsage (name : String) : Usage where
  name := name
  letters := [('n', .value), ('c', .value), ('q', .nothing), ('v', .nothing), ('z', .nothing),
    ('f', .nothing), ('F', .nothing), ('s', .value)]
    ++ "0123456789".toList.map fun digit => (digit, .nothing)
  words := [("lines", 'n'), ("bytes", 'c'), ("quiet", 'q'), ("silent", 'q'), ("verbose", 'v'),
    ("zero-terminated", 'z')]
  stops := false
  misuse := 1

def showPart (name : String) (isFirst : Bool) (arguments : List String) : Doing Nat := do
  let digit? (argument : String) : Option Char :=
    match argument.toList with
    | '-' :: letter :: _ => if letter.isDigit then some letter else none
    | _ => none
  let digit := match (partUsage name).splitWithin (arguments.length + 1) arguments with
    | .ok given => (given.options.find? fun option => option.1.isDigit).map (·.1)
    | .error _ => arguments.findSome? digit?
  match digit with
  | some digit =>
    if !isFirst then fail name ("option used in invalid context -- " ++ String.singleton digit) 1
    misused (partUsage name) ("invalid trailing option -- " ++ String.singleton digit)
  | none => pure ()
  let given ← given (partUsage name) arguments
  let part ← partOf name isFirst given
  let files := if given.operands.isEmpty then ["-"] else given.operands
  let hasNames := match given.lastOf ['q', 'v'] with
    | some 'q' => false
    | some _ => true
    | none => 1 < files.length
  showParts name part isFirst hasNames files

def head : Utility := fun arguments => do
  match arguments with
  | first :: rest =>
    match first.toList with
    | '-' :: digit :: digits =>
      if digit.isDigit then
        let (number, letters) := (digit :: digits).span Char.isDigit
        match letters.find? fun letter => !(['c', 'l', 'q', 'v', 'k', 'b', 'm'].contains letter) with
        | some letter =>
          complain "head" ("invalid trailing option -- " ++ String.singleton letter)
          Doing.note "Try 'head --help' for more information."
          return 1
        | none =>
          let counted := letters.filter fun letter => letter ≠ 'q' && letter ≠ 'v'
          let (unit, multiple) := match counted.getLast? with
            | none | some 'l' => ("-n", [])
            | some 'c' => ("-c", [])
            | some letter => ("-c", [letter])
          let others := (letters.filter fun letter => letter = 'q' || letter = 'v').map fun letter =>
            String.ofList ['-', letter]
          showPart "head" true (unit :: String.ofList (number ++ multiple) :: others ++ rest)
      else showPart "head" true arguments
    | _ => showPart "head" true arguments
  | [] => showPart "head" true []

def tail : Utility := fun arguments => do
  match arguments with
  | first :: rest =>
    match first.toList with
    | sign :: letters =>
      let (number, others) := letters.span Char.isDigit
      let isAlone := match rest with
        | [] => true
        | [file] => file = "-" || !file.startsWith "-"
        | second :: _ => second = "--" && rest.length ≤ 2
      let isShort := (sign = '-' && !(["", "c"].contains (String.ofList letters)))
        || (sign = '+' && !letters.isEmpty)
      if isAlone && isShort && ["", "c", "l", "b"].contains (String.ofList others) then
        let length := if number.isEmpty then ['1', '0'] else number
        let (unit, ending) := match others with
          | ['c'] => ("-c", [])
          | ['b'] => ("-c", ['b'])
          | _ => ("-n", [])
        showPart "tail" false (unit :: String.ofList (sign :: length ++ ending) :: rest)
      else showPart "tail" false arguments
    | [] => showPart "tail" false arguments
  | [] => showPart "tail" false []

/-! ### Counts -/

structure Counts where
  lines : Nat
  words : Nat
  characters : Nat
  octets : Nat
  longest : Nat

def Counts.of (isUnicode : Bool) (text : String) : Counts :=
  let isDecoded := isUnicode && isText text
  let letters := (decode isDecoded text).toList
  let isBlank (letter : Char) : Bool := letter = ' ' || ('\t' ≤ letter && letter ≤ '\r')
  let step (state : Nat × Bool) (letter : Char) : Nat × Bool :=
    if isBlank letter then (state.1, false)
    else if state.2 then state else (state.1 + 1, true)
  let width (line : String) : Nat :=
    line.toList.foldl (fun width letter =>
      if letter = '\t' then width + 8 - width % 8
      else if letter < ' ' || letter = '\x7f' then width else width + 1) 0
  { lines := letters.count '\n', words := (letters.foldl step (0, false)).1
    characters := letters.length, octets := text.length
    longest := (((decode isDecoded text).splitOn "\n").map width).foldl max 0 }

def Counts.add (first second : Counts) : Counts :=
  ⟨first.lines + second.lines, first.words + second.words, first.characters + second.characters,
   first.octets + second.octets, max first.longest second.longest⟩

/-- The width of the numbers: that of the size of all files, and at least 7 if one of them is not a
file. -/
def countWidth (isSingle : Bool) (files : List String) : Doing Nat := do
  let machine ← Doing.machine
  let size? (file : String) : Option (Except Nat Nat) :=
    if file = "-" then
      match machine.channel? 0 with
      | some (.file index) => (machine.openContent? index).map fun open? => .ok open?.2.1.length
      | _ => some (.error 7)
    else match machine.tree.nodeAt (Doing.path file) with
      | .ok (_, .file content _) => some (.ok content.length)
      | .ok _ => some (.error 7)
      | .error _ => none
  if isSingle && files.length ≤ 1 then return 1
  let sizes := files.filterMap size?
  let total := (sizes.filterMap Except.toOption).foldl (· + ·) 0
  let least := sizes.foldl (fun least size => match size with
    | .error width => max least width
    | .ok _ => least) 1
  return max least (toString total).length

def wc : Utility := fun arguments => do
  let usage : Usage := ⟨"wc", ['l', 'w', 'c', 'm', 'L'].map fun letter => (letter, .nothing),
    [("lines", 'l'), ("words", 'w'), ("bytes", 'c'), ("chars", 'm'), ("max-line-length", 'L')],
    false, 1⟩
  let given ← given usage arguments
  let letters := if given.options.isEmpty then ['l', 'w', 'c']
    else ['l', 'w', 'm', 'c', 'L'].filter given.has
  let files := if given.operands.isEmpty then ["-"] else given.operands
  let width ← countWidth (letters.length = 1) files
  let isUnicode := (← Doing.machine).isUnicode
  let shown (counts : Counts) (name : Option String) : String :=
    let numbers := letters.map fun letter => padLeft width (toString (match letter with
      | 'l' => counts.lines
      | 'w' => counts.words
      | 'm' => counts.characters
      | 'c' => counts.octets
      | _ => counts.longest))
    " ".intercalate (numbers ++ name.toList) ++ "\n"
  let empty : Counts := ⟨0, 0, 0, 0, 0⟩
  let found ← files.mapM fun file => do
    let name := if given.operands.isEmpty then none else some file
    match ← read file with
    | .ok text => do
      let counts := Counts.of isUnicode text
      Doing.write 1 (shown counts name)
      return (counts, 0)
    | .error cause => do
      if file.isEmpty then complain "wc" "invalid zero-length file name"
      else if file = "-" then complain "wc" ((← quote "standard input") ++ ": " ++ reason cause)
      else complain "wc" ((← quoteIfNeeded file) ++ ": " ++ reason cause)
      if cause = .isADirectory || cause = .badDescriptor then Doing.write 1 (shown empty name)
      return (empty, 1)
  if 1 < files.length then
    let total := found.foldl (fun total counted => total.add counted.1) empty
    Doing.write 1 (shown total (some "total"))
  return worst (found.map (·.2))

def nl : Utility := fun arguments => do
  let usage : Usage := ⟨"nl",
    ['b', 'd', 'f', 'h', 'i', 'l', 'n', 's', 'v', 'w'].map (fun letter => (letter, .value))
      ++ [('p', .nothing)],
    [("body-numbering", 'b'), ("line-increment", 'i'), ("number-format", 'n'),
     ("number-separator", 's'), ("starting-line-number", 'v'), ("number-width", 'w')], false, 1⟩
  let given ← given usage arguments
  let number (letter : Char) (usual : Nat) : Nat :=
    ((given.value? letter).bind String.toNat?).getD usual
  let width := number 'w' 6
  let separator := (given.value? 's').getD "\t"
  let style := (given.value? 'b').getD "t"
  let shown (value : Nat) : String :=
    let digits := toString value
    match given.value? 'n' with
    | some "ln" => digits ++ String.ofList (List.replicate (width - digits.length) ' ')
    | some "rz" => String.ofList (List.replicate (width - digits.length) '0') ++ digits
    | _ => padLeft width digits
  let texts ← (if given.operands.isEmpty then ["-"] else given.operands).mapM fun file => do
    match ← read file with
    | .ok text => return (text, 0)
    | .error cause => do
      complain "nl" ((← quoteIfNeeded file) ++ ": " ++ reason cause)
      return ("", 1)
  let all := texts.flatMap fun found => (lines found.1).1
  let step (state : Nat × List String) (line : String) : Nat × List String :=
    if style = "a" || (style = "t" && !line.isEmpty) then
      (state.1 + number 'i' 1, (shown state.1 ++ separator ++ line) :: state.2)
    else
      let blanks := String.ofList (List.replicate (width + separator.length) ' ')
      (state.1, (blanks ++ line) :: state.2)
  Doing.write 1 (unlines (all.foldl step (number 'v' 1, [])).2.reverse)
  return worst (texts.map (·.2))

end ScenarioBench.Rehearsal.Shell.Utility

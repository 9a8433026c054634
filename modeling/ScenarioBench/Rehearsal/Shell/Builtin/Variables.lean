import ScenarioBench.Rehearsal.Shell.Builtin.Options
import ScenarioBench.Rehearsal.Shell.Naming

/-! The commands that set and show variables, arguments and options. -/

set_option autoImplicit false

namespace ScenarioBench.Rehearsal.Shell.Builtin

def checkName (text : String) : Doing Unit := do
  let name := String.ofList (text.toList.takeWhile (· ≠ '='))
  if !Naming.isName name then Doing.fail (name ++ ": bad variable name")

def settingLines (start : String) (bindings : List (String × Setting)) : String :=
  let sorted := bindings.mergeSort fun first second => decide (first.1 ≤ second.1)
  String.join (sorted.map fun (name, setting) =>
    let value := (setting.value.map fun value => "=" ++ quoted value).getD ""
    start ++ name ++ value ++ "\n")

/-- Note something about variables, which may be set at the same time; without names, show those of
which it is noted already. -/
def noteAll (name : String) (isNoted : Setting → Bool) (note : Setting → Setting) :
    Builtin := fun arguments => do
  let (options, names) ← split [('p', false)] arguments
  if !options.isEmpty || names.isEmpty then
    let bindings := (← Doing.machine).bindings.filter fun entry => isNoted entry.2
    Doing.write 1 (settingLines (name ++ " ") bindings)
    return 0
  names.forM fun text => do
    checkName text
    match Naming.assignment? text with
    | some (name, value) => do
      Doing.assign name value
      Doing.adjust name note
    | none => Doing.adjust text note
  return 0

def exports : Builtin :=
  noteAll "export" (·.isExported) fun setting => { setting with isExported := true }

def fixes : Builtin :=
  noteAll "readonly" (·.isFixed) fun setting => { setting with isFixed := true }

def unset : Builtin := fun arguments => do
  let (options, names) ← split [('v', false), ('f', false)] arguments
  let ofFunctions := (options.getLast?.map (·.1)) = some 'f'
  names.forM fun name => do
    if ofFunctions then
      Doing.change fun machine =>
        { machine with functions := machine.functions.filter (·.1 ≠ name) }
    else
      checkName name
      Doing.unset name
  return 0

def optionNames : List (String × Option Char) :=
  [("errexit", some 'e'), ("noglob", some 'f'), ("ignoreeof", some 'I'), ("interactive", some 'i'),
   ("monitor", some 'm'), ("noexec", some 'n'), ("stdin", some 's'), ("xtrace", some 'x'),
   ("verbose", some 'v'), ("vi", some 'V'), ("emacs", some 'E'), ("noclobber", some 'C'),
   ("allexport", some 'a'), ("notify", some 'b'), ("nounset", some 'u'), ("privileged", some 'p'),
   ("nolog", none), ("debug", none)]

def setOption (isSet : Bool) (letter : Char) : Doing Unit := do
  if !(optionNames.any fun option => option.2 = some letter) then
    Doing.fail ("Illegal option " ++ "-" ++ String.singleton letter)
  Doing.change fun machine =>
    let others := machine.options.filter (· ≠ letter)
    { machine with options := if isSet then letter :: others else others }

def showOptions (asSettings : Bool) : Doing Unit := do
  let machine ← Doing.machine
  let line (option : String × Option Char) : String :=
    let isSet := option.2.any machine.hasOption
    if asSettings then "set " ++ (if isSet then "-o " else "+o ") ++ option.1 ++ "\n"
    else
      let blanks := String.ofList (List.replicate (16 - option.1.length) ' ')
      option.1 ++ blanks ++ (if isSet then "on" else "off") ++ "\n"
  let start := if asSettings then "" else "Current option settings\n"
  Doing.write 1 (start ++ String.join (optionNames.map line))

def setNamed (isSet : Bool) : Option String → Doing Unit
  | none => showOptions (!isSet)
  | some name =>
    match optionNames.lookup name with
    | some (some letter) => setOption isSet letter
    | some none => pure ()
    | none => Doing.fail ("Illegal option -o " ++ name)

def setLetters (isSet : Bool) : List Char → List String → Doing (List String)
  | [], rest => return rest
  | 'o' :: letters, rest => do
    setNamed isSet rest.head?
    setLetters isSet letters rest.tail
  | letter :: letters, rest => do
    setOption isSet letter
    setLetters isSet letters rest

/-- Set the options at the start, within a number of steps, and give the arguments behind them unless
there are none to set. -/
def setWithin : Nat → List String → Doing (Option (List String))
  | 0, _ => return none
  | _ + 1, [] => return none
  | fuel + 1, first :: rest => do
    match first.toList with
    | ['-'] =>
      Doing.change fun machine =>
        { machine with
          options := machine.options.filter fun letter => letter ≠ 'x' && letter ≠ 'v' }
      return if rest.isEmpty then none else some rest
    | ['-', '-'] => return some rest
    | '-' :: letters => setWithin fuel (← setLetters true letters rest)
    | '+' :: letters => setWithin fuel (← setLetters false letters rest)
    | _ => return some (first :: rest)

def setArguments (arguments : List String) : Doing Unit :=
  Doing.change fun machine =>
    { machine with arguments := arguments, optionIndex := 1, optionPlace := none }

def set : Builtin := fun arguments => do
  if arguments.isEmpty then
    let bindings := (← Doing.machine).bindings.filter fun entry => entry.2.value.isSome
    Doing.write 1 (settingLines "" bindings)
    return 0
  match ← setWithin (arguments.length + 1) arguments with
  | some rest => setArguments rest
  | none => pure ()
  return 0

def shift : Builtin := fun arguments => do
  let count ← match arguments.head? with
    | some text => number text
    | none => pure 1
  let machine ← Doing.machine
  if machine.arguments.length < count then Doing.fail "can't shift that many"
  setArguments (machine.arguments.drop count)
  return 0

def localize : Builtin := fun arguments => do
  let names ← operands arguments
  if (← Doing.machine).outside.isEmpty then Doing.fail "not in a function"
  names.forM fun text => do
    checkName text
    let name := String.ofList (text.toList.takeWhile (· ≠ '='))
    Doing.change fun machine =>
      match machine.outside with
      | frame :: frames =>
        -- What is given back is the value from before the call, not one that the function set.
        if frame.any (·.1 = name) then machine
        else { machine with outside := ((name, machine.bindings.lookup name) :: frame) :: frames }
      | [] => machine
    match Naming.assignment? text with
    | some (_, value) => Doing.assign name value
    | none => Doing.adjust name id
  return 0

/-- The next option among arguments, and where the one after it starts: the letter, its value if it
has one, a complaint, the argument read next and the place inside the one before. -/
structure FoundOption where
  letter : Char
  value : Option String
  complaint : Option String
  index : Nat
  place : Option Nat
  isEnd : Bool

def nextOption (known : List Char) (arguments : List String) (index : Nat) (place : Option Nat) :
    FoundOption :=
  let argument? (number : Nat) : Option (List Char) := arguments[number - 1]?.map String.toList
  let inside : List Char := match place with
    | some place => if index ≤ 1 then [] else ((argument? (index - 1)).getD []).drop place
    | none => []
  let isQuiet := known.head? = some ':'
  let atEnd (index : Nat) : FoundOption := ⟨'?', none, none, index, none, true⟩
  let read (index : Nat) (letter : Char) (rest : List Char) : FoundOption :=
    let placeOf : Option Nat := ((argument? (index - 1)).getD []).length - rest.length
    let behind := known.dropWhile (· ≠ letter)
    let refuse (shown : Char) (complaint : String) (index : Nat) (place : Option Nat) :
        FoundOption :=
      if isQuiet then ⟨shown, some (String.singleton letter), none, index, place, false⟩
      else ⟨'?', none, some complaint, index, place, false⟩
    match behind with
    | [] => refuse '?' ("Illegal option -" ++ String.singleton letter) index placeOf
    | _ :: ':' :: _ =>
      if !rest.isEmpty then ⟨letter, some (String.ofList rest), none, index, none, false⟩
      else match argument? index with
        | some value => ⟨letter, some (String.ofList value), none, index + 1, none, false⟩
        | none =>
          refuse ':' ("No arg for -" ++ String.singleton letter ++ " option") index none
    | _ => ⟨letter, some "", none, index, placeOf, false⟩
  match inside with
  | letter :: rest => read index letter rest
  | [] =>
    match argument? index with
    | some ['-', '-'] => atEnd (index + 1)
    | some ('-' :: letter :: rest) => read (index + 1) letter rest
    | _ => atEnd index

def nextOptions : Builtin := fun arguments => do
  match arguments with
  | known :: name :: given =>
    let machine ← Doing.machine
    let arguments := if given.isEmpty then machine.arguments else given
    -- An index that stands behind the arguments belongs to other ones.
    let isPast := arguments.length + 1 < machine.optionIndex
    let index := if isPast then 1 else machine.optionIndex
    let place := if isPast then none else machine.optionPlace
    let found := nextOption known.toList arguments (max index 1) place
    match found.value, found.isEnd with
    | some value, _ => Doing.assign "OPTARG" value
    | none, false => Doing.unset "OPTARG"
    | none, true => pure ()
    match found.complaint with
    | some complaint => Doing.note complaint
    | none => pure ()
    Doing.assign "OPTIND" (toString found.index)
    checkName name
    Doing.assign name (String.singleton found.letter)
    Doing.change fun machine =>
      { machine with optionIndex := found.index, optionPlace := found.place }
    return if found.isEnd then 1 else 0
  | _ => Doing.fail "Usage: getopts optstring var [arg...]"

/-- A line as it is read: its characters, each with a mark for those that a backslash protects, and
whether it ended. -/
def readLine (isRaw : Bool) : Nat → Doing (List (Char × Bool) × Bool)
  | 0 => return ([], false)
  | fuel + 1 => do
    let (line, hasEnded) ← Doing.takeLine
    let (letters, goesOn) := unprotect line.toList
    if goesOn && hasEnded then
      let (others, hasEnded) ← readLine isRaw fuel
      return (letters ++ others, hasEnded)
    return (letters, hasEnded)
where
  unprotect : List Char → List (Char × Bool) × Bool
    | [] => ([], false)
    | ['\\'] => if isRaw then ([('\\', false)], false) else ([], true)
    | '\\' :: head :: rest =>
      if isRaw then
        let (others, goesOn) := unprotect (head :: rest)
        (('\\', false) :: others, goesOn)
      else
        let (others, goesOn) := unprotect rest
        ((head, true) :: others, goesOn)
    | head :: rest =>
      let (others, goesOn) := unprotect rest
      ((head, false) :: others, goesOn)

structure Splitting where
  fields : List (List Char)
  current : List Char
  hasStarted : Bool
  skips : Bool
  afterBlank : Bool
  last : Option (List Char × Option Nat)

/-- Take in a character of the last field, which keeps its separators except for blanks at the end
and for a single separator around them. -/
def Splitting.takeLast (splitting : Splitting) (letters : List Char) (cut : Option Nat)
    (letter : Char) (isSeparator isBlank : Bool) : Splitting :=
  let cut := if isBlank then cut.or (some letters.length)
    else if isSeparator && splitting.afterBlank then cut
    else none
  let afterBlank := if isBlank then splitting.afterBlank else false
  { splitting with afterBlank := afterBlank, last := some (letter :: letters, cut) }

def Splitting.take (separators : List Char) (count : Nat) (splitting : Splitting)
    (entry : Char × Bool) : Splitting :=
  let (letter, isProtected) := entry
  let isSeparator := !isProtected && separators.contains letter
  let isBlank := isSeparator && [' ', '\t', '\n'].contains letter
  match splitting.last with
  | some (letters, cut) => splitting.takeLast letters cut letter isSeparator isBlank
  | none =>
    if splitting.skips && isBlank then splitting
    else if splitting.skips && isSeparator && splitting.afterBlank then
      { splitting with afterBlank := false }
    else if !isSeparator then
      { splitting with
        current := letter :: splitting.current, hasStarted := true, skips := false }
    else if isBlank && !splitting.hasStarted then { splitting with skips := false }
    else if splitting.fields.length + 1 = count then
      { splitting with
        skips := false, afterBlank := isBlank
        last := some (letter :: splitting.current, some splitting.current.length) }
    else
      { splitting with
        fields := splitting.current :: splitting.fields, current := [], hasStarted := false
        skips := true, afterBlank := isBlank }

/-- At most a number of fields of a line, of which the last holds everything that is left. -/
def splitLine (separators : List Char) (count : Nat) (line : List (Char × Bool)) : List String :=
  let start : Splitting := ⟨[], [], false, false, false, none⟩
  let splitting := line.foldl (Splitting.take separators count) start
  let last : List (List Char) := match splitting.last with
    | some (letters, some cut) => [letters.drop (letters.length - cut)]
    | some (letters, none) => [letters]
    | none => if splitting.hasStarted then [splitting.current] else []
  (last ++ splitting.fields).reverse.map fun letters => String.ofList letters.reverse

def read : Builtin := fun arguments => do
  let (options, names) ← split [('p', true), ('r', false)] arguments
  if names.isEmpty then Doing.fail "arg count"
  let (line, hasEnded) ← readLine (options.any (·.1 = 'r')) 100000
  let separators := (((← Doing.machine).value? "IFS").getD " \t\n").toList
  let fields := splitLine separators names.length (line.filter (·.1 ≠ '\x00'))
  (names.zipIdx).forM fun (name, place) => do
    checkName name
    Doing.assign name (fields[place]?.getD "")
  return if hasEnded then 0 else 1

def aliases : Builtin := fun arguments => do
  let shown (name value : String) : String := name ++ "=" ++ quoted value ++ "\n"
  if arguments.isEmpty then
    Doing.write 1 (String.join ((← Doing.machine).aliases.map fun entry => shown entry.1 entry.2))
    return 0
  let statuses ← arguments.mapM fun text => do
    let name := String.ofList (text.toList.takeWhile (· ≠ '='))
    match text.toList.drop name.length with
    | _ :: value => do
      Doing.change fun machine =>
        { machine with
          aliases := (name, String.ofList value) :: machine.aliases.filter (·.1 ≠ name) }
      return 0
    | [] =>
      match (← Doing.machine).aliases.lookup name with
      | some value => do
        Doing.write 1 (shown name value)
        return 0
      | none => do
        Doing.note ("alias: " ++ name ++ " not found")
        return 1
  return statuses.foldl max 0

def removeAliases : Builtin := fun arguments => do
  let (options, names) ← split [('a', false)] arguments
  if !options.isEmpty then
    Doing.change fun machine => { machine with aliases := [] }
    return 0
  let statuses ← names.mapM fun name => do
    if ((← Doing.machine).aliases.lookup name).isNone then
      Doing.note ("unalias: " ++ name ++ " not found")
      return 1
    Doing.change fun machine => { machine with aliases := machine.aliases.filter (·.1 ≠ name) }
    return 0
  return statuses.foldl max 0

end ScenarioBench.Rehearsal.Shell.Builtin

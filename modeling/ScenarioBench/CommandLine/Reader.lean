import ScenarioBench.CommandLine.Grammar

/-! Reading command lines.

A value that is given apart from its argument is looked at only when the next argument comes or the
line ends, so a mistake in it may be found after one that comes later.
-/

set_option autoImplicit false

namespace ScenarioBench.CommandLine

structure Progress where
  found : List (String × List Octets)
  pending : Option (Argument × List Octets)
  waiting : Bool
  trailing : Bool
  places : List Argument

namespace Progress

def start (grammar : Grammar) : Progress :=
  { found := [], pending := none, waiting := false, trailing := false
    places := grammar.positionals }

def has (progress : Progress) (name : String) : Bool :=
  progress.found.any fun given => given.1 == name

def note (progress : Progress) (argument : Argument) (values : List Octets) :
    Except Stop Progress :=
  let noted := { progress with found := progress.found ++ [(argument.name, values)] }
  match argument.effect with
  | .help => .error .help
  | .version => .error .version
  | .flag => if progress.has argument.name then .error .conflict else .ok noted
  | .value kind repeats =>
    if values.isEmpty then .error .invalidValue
    else if !repeats && progress.has argument.name then .error .conflict
    else match values.findSome? kind.complaint? with
      | some stop => .error stop
      | none => .ok noted

def settle (progress : Progress) : Except Stop Progress :=
  match progress.pending with
  | none => .ok progress
  | some (argument, values) => { progress with pending := none }.note argument values

def take (progress : Progress) (argument : Argument) (values : List Octets) :
    Except Stop Progress := do
  return { ← (← progress.settle).note argument values with waiting := false }

def await (progress : Progress) (argument : Argument) : Except Stop Progress := do
  return { ← progress.settle with pending := some (argument, []), waiting := true }

def give (progress : Progress) (value : Octets) : Progress :=
  { progress with
    pending := progress.pending.map fun (argument, values) => (argument, values ++ [value])
    waiting := false }

def equals : UInt8 := 0x3D

/-- Arguments by their letters, behind one hyphen. What follows the letter of an argument that takes
a value is the value, less an equals sign. -/
def takeLetters (grammar : Grammar) (progress : Progress) : Octets → Except Stop Progress
  | [] => .ok progress
  | letter :: rest =>
    match grammar.ofLetter? letter with
    | none => .error .unknownArgument
    | some argument =>
      if argument.takesValue then
        match rest with
        | [] => progress.await argument
        -- Only one equals sign is not part of the value.
        | head :: tail => progress.take argument [if head = equals then tail else rest]
      else do takeLetters grammar (← progress.take argument []) rest

def takeWord (grammar : Grammar) (progress : Progress) (octets : Octets) : Except Stop Progress :=
  let word := octets.takeWhile (· ≠ equals)
  let attached := match octets.drop word.length with
    | [] => none
    | _ :: value => some value
  match grammar.ofWord? word with
  | none => .error .unknownArgument
  | some argument =>
    match argument.takesValue, attached with
    | true, none => progress.await argument
    | true, some value => progress.take argument [value]
    | false, none => progress.take argument []
    | false, some _ => .error .unneededValue

/-- A positional argument. Values of one that repeats are looked at together if nothing comes
between them. -/
def place (grammar : Grammar) (progress : Progress) (value : Octets) : Except Stop Progress :=
  match progress.places with
  | argument :: others => do
    let before ← if argument.repeats && progress.pending.any fun (last, _) => last == argument then
        pure progress
      else do pure { ← progress.settle with pending := some (argument, []) }
    let places := if argument.repeats then argument :: others else others
    return { before.give value with places := places }
  | [] =>
    if grammar.commands.isEmpty || (progress.trailing && (grammar.command? value).isSome) then
      .error .unknownArgument
    else .error .unknownCommand

end Progress

def helpCommand : String := "help"

def helpAbout (grammar : Grammar) : List Octets → Stop
  | [] => .help
  | [name] => if (grammar.command? name).isSome then .help else .unknownCommand
  | _ => .unknownCommand

def hyphens : Octets := [0x2D, 0x2D]
def hyphen : Octets := [0x2D]

def readLevel (grammar : Grammar) (progress : Progress) :
    List Octets → Except Stop (Progress × Option (String × List Octets))
  | [] => .ok (progress, none)
  | argument :: rest =>
    let command := if progress.trailing || progress.waiting then none else grammar.command? argument
    match command with
    | some name =>
      if name = helpCommand then .error (helpAbout grammar rest)
      else .ok (progress, some (name, rest))
    | none =>
      if progress.trailing then do readLevel grammar (← progress.place grammar argument) rest
      else if argument = hyphens then readLevel grammar { progress with trailing := true } rest
      else if hyphens.isPrefixOf argument then do
        readLevel grammar (← progress.takeWord grammar (argument.drop 2)) rest
      else if hyphen.isPrefixOf argument && argument ≠ hyphen then do
        readLevel grammar (← progress.takeLetters grammar (argument.drop 1)) rest
      -- A value may not look like an argument, but it may be a single hyphen or the name of a command.
      else if progress.waiting then readLevel grammar (progress.give argument) rest
      else do readLevel grammar (← progress.place grammar argument) rest

def checkLevel (grammar : Grammar) (progress : Progress) : Except Stop Progress :=
  if grammar.conflicts.any fun (first, second) => progress.has first && progress.has second then
    .error .conflict
  else if grammar.required.all progress.has then .ok progress
  else .error .missingArgument

abbrev Given := List (String × List Octets)

namespace Given

def has (given : Given) (name : String) : Bool :=
  given.any fun entry => entry.1 == name

def values (given : Given) (name : String) : List Octets :=
  given.flatMap fun entry => if entry.1 == name then entry.2 else []

def texts (given : Given) (name : String) : List String :=
  (given.values name).filterMap Octets.toText?

def text? (given : Given) (name : String) : Option String :=
  (given.texts name).head?

end Given

/-- Read a command line of two levels, a command on the first and its arguments on the second: what
was given on the first level, the command, and what was given on the second. Mistakes behind the
command are found before a value just before it is looked at. -/
def read (top : Grammar) (level : String → Grammar) (arguments : List Octets) :
    Except Stop (Given × String × Given) := do
  let (progress, command) ← readLevel top (.start top) arguments
  match command with
  | some (name, rest) =>
    -- No command has commands of its own, so the second level ends with the line.
    let (inner, _) ← readLevel (level name) (.start (level name)) rest
    let inner ← checkLevel (level name) (← inner.settle)
    let outer ← progress.settle
    return (outer.found, name, inner.found)
  | none =>
    let outer ← progress.settle
    throw (if outer.found.isEmpty then .helpNeeded else .missingCommand)

end ScenarioBench.CommandLine

import ScenarioBench.Rehearsal.Shell.Machine

/-! Utilities: programs of the system that scripts can rely on.

A utility gets arguments, uses the descriptors and the tree of a process, and ends with a status. Its
complaints start with its own name.
-/

set_option autoImplicit false

namespace ScenarioBench.Rehearsal.Shell

abbrev Utility := List String → Doing Nat

/-- How a utility starts another program: an environment, a name and arguments, and either the
ending of the program or a refusal. -/
abbrev Launcher := List (String × String) → String → List String → Doing (Except OsError Ending)

inductive Need where
  | nothing
  | value
  | perhaps
  deriving DecidableEq

structure Usage where
  name : String
  letters : List (Char × Need)
  words : List (String × Char)
  stops : Bool
  misuse : Nat

structure Given where
  options : List (Char × String)
  operands : List String

namespace Given

def has (given : Given) (letter : Char) : Bool :=
  given.options.any (·.1 = letter)

def value? (given : Given) (letter : Char) : Option String :=
  (given.options.reverse).lookup letter

def values (given : Given) (letter : Char) : List String :=
  (given.options.filter (·.1 = letter)).map (·.2)

def lastOf (given : Given) (letters : List Char) : Option Char :=
  ((given.options.filter fun option => letters.contains option.1).getLast?).map (·.1)

end Given

namespace Usage

def splitLetters (usage : Usage) :
    List Char → List String → Except String (List (Char × String) × List String)
  | [], rest => .ok ([], rest)
  | letter :: letters, rest =>
    match usage.letters.lookup letter with
    | none => .error ("invalid option -- '" ++ String.singleton letter ++ "'")
    | some .nothing =>
      (splitLetters usage letters rest).map fun (others, rest) => ((letter, "") :: others, rest)
    | some .perhaps => .ok ([(letter, String.ofList letters)], rest)
    | some .value =>
      if !letters.isEmpty then .ok ([(letter, String.ofList letters)], rest)
      else match rest with
        | value :: rest => .ok ([(letter, value)], rest)
        | [] => .error ("option requires an argument -- '" ++ String.singleton letter ++ "'")

/-- The option of a long name, perhaps with a value, with the arguments that are left. A name may be
cut short. -/
def splitWord (usage : Usage) (written : String) (rest : List String) :
    Except String ((Char × String) × List String) :=
  let name := String.ofList (written.toList.takeWhile (· ≠ '='))
  let value : Option String := match written.toList.drop name.length with
    | _ :: value => some (String.ofList value)
    | [] => none
  let exact := usage.words.filter (·.1 = name)
  let found := if exact.isEmpty then usage.words.filter fun word => word.1.startsWith name else exact
  match found with
  | [] => .error ("unrecognized option '--" ++ written ++ "'")
  | (word, letter) :: others =>
    if others.any fun other => other.2 ≠ letter then
      .error ("option '--" ++ written ++ "' is ambiguous; possibilities:" ++
        String.join (found.map fun word => " '--" ++ word.1 ++ "'"))
    else match (usage.letters.lookup letter).getD .nothing, value with
      | .nothing, some _ => .error ("option '--" ++ word ++ "' doesn't allow an argument")
      | .value, none =>
        match rest with
        | value :: rest => .ok ((letter, value), rest)
        | [] => .error ("option '--" ++ word ++ "' requires an argument")
      | _, value => .ok ((letter, value.getD ""), rest)

def splitWithin (usage : Usage) : Nat → List String → Except String Given
  | 0, arguments => .ok ⟨[], arguments⟩
  | _ + 1, [] => .ok ⟨[], []⟩
  | fuel + 1, first :: rest =>
    match first.toList with
    | ['-', '-'] => .ok ⟨[], rest⟩
    | '-' :: '-' :: word => do
      let (option, rest) ← splitWord usage (String.ofList word) rest
      let others ← splitWithin usage fuel rest
      return { others with options := option :: others.options }
    | '-' :: letter :: letters => do
      let (options, rest) ← splitLetters usage (letter :: letters) rest
      let others ← splitWithin usage fuel rest
      return { others with options := options ++ others.options }
    | _ =>
      if usage.stops then .ok ⟨[], first :: rest⟩
      else do
        let others ← splitWithin usage fuel rest
        return { others with operands := first :: others.operands }

end Usage

namespace Utility

def complain (name message : String) : Doing Unit :=
  Doing.write 2 (name ++ ": " ++ message ++ "\n")

def fail {α : Type} (name message : String) (status : Nat) : Doing α := do
  complain name message
  Doing.leave status

def misused {α : Type} (usage : Usage) (message : String) : Doing α := do
  complain usage.name message
  Doing.note ("Try '" ++ usage.name ++ " --help' for more information.")
  Doing.leave usage.misuse

def given (usage : Usage) (arguments : List String) : Doing Given := do
  match usage.splitWithin (arguments.length + 1) arguments with
  | .ok given => return given
  | .error message => misused usage message

def worst (statuses : List Nat) : Nat :=
  statuses.foldl max 0

def forAll {α : Type} (things : List α) (doing : α → Doing Nat) : Doing Nat :=
  worst <$> things.mapM doing

def isPlain (character : Char) : Bool :=
  ' ' ≤ character && character ≠ '\x7f'

def octalEscape (character : Char) : List Char :=
  let digits := Nat.toDigits 8 character.toNat
  '\\' :: List.replicate (3 - digits.length) '0' ++ digits

def escape (character : Char) : List Char :=
  match character with
  | '\x07' => ['\\', 'a']
  | '\x08' => ['\\', 'b']
  | '\t' => ['\\', 't']
  | '\n' => ['\\', 'n']
  | '\x0b' => ['\\', 'v']
  | '\x0c' => ['\\', 'f']
  | '\r' => ['\\', 'r']
  | other => octalEscape other

def isText (text : String) : Bool :=
  ((Octetwise.toOctets text).toText?).isSome

def isShown (text : String) (isUnicode : Bool) (character : Char) : Bool :=
  isPlain character && (character < '\x7f' || (isUnicode && isText text))

def shellQuoted (isUnicode : Bool) (text : String) : String :=
  let letters := text.toList
  let isShown := isShown text isUnicode
  if letters.all isShown then
    if !letters.contains '\x27' then "'" ++ text ++ "'"
    else if letters.all fun letter => !(['\x22', '$', '\x60', '\\'].contains letter) then
      "\"" ++ text ++ "\""
    else "'" ++ "'\\''".intercalate (text.splitOn "'") ++ "'"
  else
    let step (letter : Char) (state : List Char × Bool) : List Char × Bool :=
      let (after, wasEscaped) := state
      if isShown letter then
        let own := if letter = '\x27' then ['\x27', '\\', '\x27', '\x27'] else [letter]
        (own ++ (if wasEscaped then ['\x27', '$', '\x27'] else []) ++ after, false)
      else
        (escape letter ++ (if wasEscaped then [] else ['\x27', '\x27']) ++ after, true)
    let (shown, startsEscaped) := letters.foldr step ([], false)
    String.ofList ((if startsEscaped then ['\x27', '\x27', '$', '\x27'] else ['\x27']) ++ shown
      ++ ['\x27'])

def languageQuoted (isUnicode : Bool) (text : String) : String :=
  let (opening, closing) := if isUnicode then ("\xe2\x80\x98", "\xe2\x80\x99") else ("'", "'")
  let isShown := isShown text isUnicode
  let inside := text.toList.flatMap fun letter =>
    if letter = '\\' then ['\\', '\\']
    else if letter = '\x27' && !isUnicode then ['\\', '\x27']
    else if isShown letter then [letter]
    else escape letter
  opening ++ String.ofList inside ++ closing

def quote (text : String) : Doing String := do
  return shellQuoted (← Doing.machine).isUnicode text

def quoteName (text : String) : Doing String := do
  return languageQuoted (← Doing.machine).isUnicode text

def isUnmistakable (isUnicode : Bool) (text : String) : Bool :=
  let letters := text.toList
  let mistaken := " !\x22$&()*:;<=>?[\\^\x60|\x27".toList
  letters.all (isShown text isUnicode) && !letters.any mistaken.contains
    && !(["", "\x7b", "\x7d"].contains text) && !letters.head?.any ['#', '~'].contains

/-- A text in front of a colon: in quotes if a shell would not read it as it stands. -/
def quoteIfNeeded (text : String) : Doing String := do
  let isUnicode := (← Doing.machine).isUnicode
  return if isUnmistakable isUnicode text then text else shellQuoted isUnicode text

/-- A text as characters: those of UTF-8 if the text is UTF-8 and may be read as such, otherwise one
for each octet. -/
def decode (isUnicode : Bool) (text : String) : String :=
  if isUnicode then ((Octetwise.toOctets text).toText?).getD text else text

def encode (isUnicode : Bool) (text : String) : String :=
  if isUnicode then Octetwise.ofText text else text

def read (file : String) : Doing (Except OsError String) := do
  if file = "-" || file = "/dev/stdin" then return (← Doing.takeInput)
  if file = "/dev/null" then return .ok ""
  match (← Doing.machine).tree.read (Doing.path file) with
  | .ok octets => return .ok (Octetwise.ofOctets octets)
  | .error cause => return .error cause

def lossStatuses : List (String × Nat) :=
  [("cmp", 2), ("diff", 2), ("env", 125), ("expr", 3), ("grep", 2), ("ls", 2), ("printenv", 2),
   ("sed", 4), ("sort", 2), ("tty", 3)]

def complainOfLoss (name : String) : Doing Nat := do
  let machine ← Doing.machine
  let isClosed := (machine.channel? 1).isNone
  let why := reason .badDescriptor
  let quoted := shellQuoted machine.isUnicode "standard output"
  let complaints := match name with
    | "cat" => [if isClosed then "standard output: " ++ why else "write error: " ++ why]
    | "diff" | "yes" | "cmp" => ["standard output: " ++ why]
    | "find" => [languageQuoted machine.isUnicode "standard output" ++ ": " ++ why,
        if isClosed then "write error: " ++ why else "write error"]
    | "sed" => ["couldn't close stdout: " ++ why]
    | "sort" => ["fflush failed: " ++ quoted ++ ": " ++ why, "write error"]
    | "tee" => [quoted ++ ": " ++ why]
    | "rev" => []
    | _ => ["write error: " ++ why]
  complaints.forM (complain name)
  return if complaints.isEmpty then 0 else (lossStatuses.lookup name).getD 1

def lines (text : String) : List String × Bool :=
  if text.isEmpty then ([], true)
  else
    let parts := text.splitOn "\n"
    if parts.getLast? = some "" then (parts.dropLast, true) else (parts, false)

def unlines (lines : List String) : String :=
  String.join (lines.map (· ++ "\n"))

end Utility

end ScenarioBench.Rehearsal.Shell

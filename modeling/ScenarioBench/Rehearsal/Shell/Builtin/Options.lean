import ScenarioBench.Rehearsal.Shell.Machine

/-! The options and numbers that commands of the shell take. -/

set_option autoImplicit false

namespace ScenarioBench.Rehearsal.Shell

abbrev Builtin := List String → Doing Nat

namespace Builtin

/-- Split the letters of one argument into options; one that takes a value takes the rest of the
argument or the next one. -/
def splitLetters (known : List (Char × Bool)) :
    List Char → List String → Doing (List (Char × String) × List String)
  | [], rest => return ([], rest)
  | letter :: letters, rest =>
    match known.lookup letter with
    | none => Doing.fail ("Illegal option -" ++ String.singleton letter)
    | some false => do
      let (others, rest) ← splitLetters known letters rest
      return ((letter, "") :: others, rest)
    | some true =>
      if !letters.isEmpty then return ([(letter, String.ofList letters)], rest)
      else match rest with
        | value :: rest => return ([(letter, value)], rest)
        | [] => Doing.fail ("No arg for -" ++ String.singleton letter ++ " option")

/-- The options at the start, each with its value, and the other arguments, within a number of
steps. -/
def splitWithin (known : List (Char × Bool)) :
    Nat → List String → Doing (List (Char × String) × List String)
  | 0, arguments => return ([], arguments)
  | fuel + 1, arguments => do
    match arguments with
    | [] => return ([], [])
    | first :: rest =>
      match first.toList with
      | ['-', '-'] => return ([], rest)
      | '-' :: letter :: letters => do
        let (options, rest) ← splitLetters known (letter :: letters) rest
        let (others, rest) ← splitWithin known fuel rest
        return (options ++ others, rest)
      | _ => return ([], arguments)

def split (known : List (Char × Bool)) (arguments : List String) :
    Doing (List (Char × String) × List String) :=
  splitWithin known (arguments.length + 1) arguments

def operands (arguments : List String) : Doing (List String) := do
  return (← split [] arguments).2

def number (text : String) : Doing Nat := do
  let isBlank (character : Char) : Bool :=
    character = ' ' || ('\t' ≤ character && character ≤ '\r')
  let trimmed := ((text.toList.dropWhile isBlank).reverse.dropWhile isBlank).reverse
  let digits := if trimmed.head? = some '+' then trimmed.tail else trimmed
  let value := (String.ofList digits).toNat?.getD 0
  if digits.isEmpty || !digits.all Char.isDigit || 2147483647 < value then
    Doing.fail ("Illegal number: " ++ text)
  return value

/-- The characters of a text in quotes: single quotes around others, and double quotes around single
quotes, within a number of steps. -/
def quotedParts : Nat → List Char → List Char
  | 0, _ => []
  | fuel + 1, text =>
    let (plain, rest) := text.span (· ≠ '\x27')
    let (quotes, rest) := rest.span (· = '\x27')
    let shown := if quotes.isEmpty then [] else '\x22' :: quotes ++ ['\x22']
    let others := if rest.isEmpty then [] else quotedParts fuel rest
    '\x27' :: plain ++ '\x27' :: shown ++ others

def quoted (text : String) : String :=
  String.ofList (quotedParts (text.length + 1) text.toList)

end Builtin

end ScenarioBench.Rehearsal.Shell

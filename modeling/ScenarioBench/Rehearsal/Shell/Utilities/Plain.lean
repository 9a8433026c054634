import ScenarioBench.Rehearsal.Shell.Condition
import ScenarioBench.Rehearsal.Shell.Format
import ScenarioBench.Rehearsal.Shell.Utility

/-! Utilities that print, test and wait. -/

set_option autoImplicit false

namespace ScenarioBench.Rehearsal.Shell.Utility

/-! ### Printing -/

def digit? (base : Nat) (letter : Char) : Option Nat :=
  let value := Arithmetic.digitValue letter
  if value < base && letter.isAlphanum then some value else none

/-- A text with its escapes read, within a number of steps, and whether one of them ended the
output. -/
def unescaped : Nat → List Char → List Char × Bool
  | 0, _ => ([], false)
  | _ + 1, [] => ([], false)
  | _ + 1, '\\' :: 'c' :: _ => ([], true)
  | fuel + 1, '\\' :: letter :: rest =>
    let before (letters : List Char) (rest : List Char) : List Char × Bool :=
      let (others, hasEnded) := unescaped fuel rest
      (letters ++ others, hasEnded)
    let numbered (base : Nat) (digits rest : List Char) : List Char × Bool :=
      before [Char.ofNat (Arithmetic.valueOf base digits % 256)] rest
    match letter with
    | 'e' => before ['\x1b'] rest
    | 'x' =>
      let digits := (rest.take 2).takeWhile fun digit => (digit? 16 digit).isSome
      if digits.isEmpty then before ['\\', 'x'] rest
      else numbered 16 digits (rest.drop digits.length)
    | '0' =>
      let digits := Format.octalDigits rest
      numbered 8 digits (rest.drop digits.length)
    | _ =>
      if Format.isOctal letter then
        let digits := Format.octalDigits (letter :: rest)
        numbered 8 digits ((letter :: rest).drop digits.length)
      else match Format.controls.lookup letter with
        | some control => before [control] rest
        | none => before ['\\', letter] rest
  | fuel + 1, head :: rest =>
    let (others, hasEnded) := unescaped fuel rest
    (head :: others, hasEnded)

def echo : Utility := fun arguments => do
  let isOption (argument : String) : Bool := match argument.toList with
    | '-' :: letter :: letters => (letter :: letters).all ['n', 'e', 'E'].contains
    | _ => false
  let options := arguments.takeWhile isOption
  let letters := options.flatMap fun option => option.toList.tail
  let shown := " ".intercalate (arguments.drop options.length)
  let closing := if letters.contains 'n' then "" else "\n"
  let readsEscapes := (letters.filter (· ≠ 'n')).getLast? = some 'e'
  if readsEscapes then
    let (text, hasEnded) := unescaped (shown.length + 1) shown.toList
    Doing.write 1 (String.ofList text ++ if hasEnded then "" else closing)
  else Doing.write 1 (shown ++ closing)
  return 0

def reworded (isUnicode : Bool) (message : String) : String :=
  let endings := [(": expected numeric value", ": expected a numeric value"),
    (": not completely converted", ": value not completely converted")]
  match endings.find? fun ending => message.endsWith ending.1 with
  | some (own, other) =>
    languageQuoted isUnicode (String.ofList (message.toList.take (message.length - own.length)))
      ++ other
  | none => message

def printf : Utility := fun arguments => do
  let isUnicode := (← Doing.machine).isUnicode
  match if arguments.head? = some "--" then arguments.tail else arguments with
  | [] => misused ⟨"printf", [], [], true, 1⟩ "missing operand"
  | format :: others =>
    let printed := Format.print format others
    Doing.write 1 printed.text
    printed.complaints.forM fun message => complain "printf" (reworded isUnicode message)
    match printed.fault with
    | some fault => do
      let letters := fault.toList.takeWhile (· ≠ ':')
      let written := if letters.length = fault.length then "%" else String.ofList letters
      complain "printf" (written ++ ": invalid conversion specification")
      return 1
    | none =>
      let takesNone := (Format.parts (format.length + 1) format.toList).all fun part =>
        match part with
        | .text _ => true
        | _ => false
      match takesNone, others with
      | true, extra :: _ =>
        complain "printf" ("warning: ignoring excess arguments, starting with " ++ (← quoteName extra))
      | _, _ => pure ()
      return if printed.complaints.isEmpty then 0 else 1

/-! ### Testing -/

def conditionMessage (isUnicode : Bool) : Condition.Fault → String
  | .illegalNumber text => "invalid integer " ++ languageQuoted isUnicode text
  | .missingBracket => "missing " ++ languageQuoted isUnicode "]"
  | .argumentExpected operator => "missing argument after " ++ languageQuoted isUnicode operator
  | .closingExpected => "')' expected"
  | .unexpected text => languageQuoted isUnicode text ++ ": binary operator expected"

/-- Decide a condition; in its form with a bracket, the last argument is the other bracket. -/
def test (isBracket : Bool) : Utility := fun arguments => do
  let machine ← Doing.machine
  let condition := if isBracket then arguments.dropLast else arguments
  let result := if isBracket && arguments.getLast? ≠ some "]" then .error .missingBracket
    else Condition.evaluate machine.tree condition
  match result with
  | .ok answer => return if answer then 0 else 1
  | .error fault =>
    fail (if isBracket then "[" else "test") (conditionMessage machine.isUnicode fault) 2

/-! ### Waiting -/

/-- The thousand millionths of a second that a text writes: a number with a letter for its unit. -/
def duration? (text : String) : Option Nat :=
  let units := [("", 1), ("s", 1), ("m", 60), ("h", 3600), ("d", 86400)]
  let (whole, rest) := text.toList.span Char.isDigit
  let (fraction, rest) := match rest with
    | '.' :: rest => rest.span Char.isDigit
    | rest => ([], rest)
  let (power, rest) : Int × List Char := match rest with
    | mark :: '-' :: digit :: rest =>
      if (mark = 'e' || mark = 'E') && digit.isDigit then
        (-(Arithmetic.digitValue digit : Int), rest)
      else (0, mark :: '-' :: digit :: rest)
    | rest => (0, rest)
  if whole.isEmpty && fraction.isEmpty then none
  else (units.lookup (String.ofList rest)).map fun unit =>
    let digits := (whole ++ fraction).take 400
    let value := Arithmetic.valueOf 10 digits * unit * 1000000000
    value / Nat.pow 10 (fraction.length + power.natAbs)

def sleep : Utility := fun arguments => do
  let usage : Usage := ⟨"sleep", [], [], true, 1⟩
  let given ← given usage arguments
  if given.operands.isEmpty then misused usage "missing operand"
  let found := given.operands.map fun text => (text, duration? text)
  let wrong := found.filter fun entry => entry.2.isNone
  if !wrong.isEmpty then
    wrong.forM fun (text, _) => do
      complain "sleep" ("invalid time interval " ++ (← quoteName text))
    Doing.note "Try 'sleep --help' for more information."
    return 1
  Doing.pass ((found.filterMap (·.2)).foldl (· + ·) 0)
  return 0

def repetitions : Nat := 20000

def yes : Utility := fun arguments => do
  let line := if arguments.isEmpty then "y" else " ".intercalate arguments
  Doing.write 1 (String.join (List.replicate repetitions (line ++ "\n")))
  return 0

/-! ### The system -/

def whoami : Utility := fun arguments => do
  let usage : Usage := ⟨"whoami", [], [], false, 1⟩
  let given ← given usage arguments
  match given.operands with
  | extra :: _ => misused usage ("extra operand " ++ (← quoteName extra))
  | [] =>
    Doing.write 1 "root\n"
    return 0

def identify : Utility := fun arguments => do
  let usage : Usage := ⟨"id", ['u', 'g', 'G', 'n', 'r', 'z', 'a'].map fun letter => (letter, .nothing),
    [("user", 'u'), ("group", 'g'), ("groups", 'G'), ("name", 'n'), ("real", 'r')], false, 1⟩
  let given ← given usage arguments
  let isShort := ['u', 'g', 'G'].any given.has
  let shown : String := if !isShort then "uid=0(root) gid=0(root) groups=0(root)"
    else if given.has 'n' then "root" else "0"
  Doing.write 1 (shown ++ "\n")
  return 0

def uname : Utility := fun arguments => do
  let given ← given ⟨"uname", ['s', 'o'].map fun letter => (letter, .nothing),
    [("kernel-name", 's'), ("operating-system", 'o')], false, 1⟩ arguments
  let names := (if given.options.isEmpty || given.has 's' then ["Linux"] else [])
    ++ (if given.has 'o' then ["GNU/Linux"] else [])
  Doing.write 1 (" ".intercalate names ++ "\n")
  return 0

def tty : Utility := fun arguments => do
  if !arguments.contains "-s" then Doing.write 1 "not a tty\n"
  return 1

end ScenarioBench.Rehearsal.Shell.Utility

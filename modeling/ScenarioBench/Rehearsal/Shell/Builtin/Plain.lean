import ScenarioBench.Rehearsal.Shell.Builtin.Options
import ScenarioBench.Rehearsal.Shell.Condition
import ScenarioBench.Rehearsal.Shell.Format

/-! The commands that print, test, move and leave. -/

set_option autoImplicit false

namespace ScenarioBench.Rehearsal.Shell.Builtin

def exit : Builtin := fun arguments => do
  match arguments.head? with
  | some text => Doing.leave (← number text)
  | none => Doing.leave (← Doing.machine).status

def returns : Builtin := fun arguments => do
  let status ← match arguments.head? with
    | some text => number text
    | none => pure (← Doing.machine).status
  Doing.change fun machine => { machine with skip := some .function }
  return status

def endLoops (goesOn : Bool) : Builtin := fun arguments => do
  let levels ← match arguments.head? with
    | some text =>
      let levels ← number text
      if levels = 0 then Doing.fail ("Illegal number: " ++ text)
      pure levels
    | none => pure 1
  Doing.change fun machine =>
    let levels := min levels machine.loops
    if levels = 0 then machine else { machine with skip := some (.loops levels goesOn) }
  return 0

def echo : Builtin := fun arguments => do
  let (ends, shown) := match arguments with
    | "-n" :: rest => ("", rest)
    | _ => ("\n", arguments)
  let (text, hasEnded) := Format.escaped (" ".intercalate shown)
  Doing.write 1 (if hasEnded then text else text ++ ends)
  return 0

def printf : Builtin := fun arguments => do
  match ← operands arguments with
  | [] => Doing.fail "usage: printf format [arg ...]"
  | format :: others =>
    let printed := Format.print format others
    printed.complaints.forM Doing.complain
    match printed.fault with
    | some fault => do
      Doing.complain fault
      Doing.write 1 printed.text
      Doing.setStatus 2
      throw .fault
    | none =>
      Doing.write 1 printed.text
      return if printed.complaints.isEmpty then 0 else 1

/-- Decide a condition; in its form with a bracket, the last argument starts with the other one. -/
def test (isBracket : Bool) : Builtin := fun arguments => do
  let tree := (← Doing.machine).tree
  let condition := if isBracket then arguments.dropLast else arguments
  let isClosed := arguments.getLast?.any fun last => last.startsWith "]"
  let result := if isBracket && !isClosed then .error .missingBracket
    else Condition.evaluate tree condition
  match result with
  | .ok answer => return if answer then 0 else 1
  | .error fault => Doing.fail fault.message

def resolved (machine : Machine) : String :=
  Octetwise.ofOctets machine.tree.basePath.octets

def pwd : Builtin := fun arguments => do
  let (options, _) ← split [('L', false), ('P', false)] arguments
  let machine ← Doing.machine
  let isResolved := (options.getLast?.map (·.1)) = some 'P'
  Doing.write 1 ((if isResolved then resolved machine else machine.directory) ++ "\n")
  return 0

def straightened (directory path : String) : String :=
  let whole := if path.startsWith "/" then path else directory ++ "/" ++ path
  let step (names : List String) (name : String) : List String :=
    if name.isEmpty || name = "." then names
    else if name = ".." then names.tail
    else name :: names
  let names := ((whole.splitOn "/").foldl step []).reverse
  let isDouble := path.startsWith "//" && !path.startsWith "///"
  (if isDouble then "//" else "/") ++ "/".intercalate names

def enter (isResolved : Bool) (path : String) : Doing Bool := do
  let machine ← Doing.machine
  let target := if isResolved then path else straightened machine.directory path
  match machine.tree.rebase (Doing.path target) with
  | .ok tree => do
    Doing.change fun machine => { machine with tree := tree }
    let entered := resolved (← Doing.machine)
    let directory := if isResolved then entered else target
    Doing.setBinding "OLDPWD" (some ⟨some machine.directory, true, false⟩)
    Doing.setBinding "PWD" (some ⟨some directory, true, false⟩)
    Doing.change fun machine => { machine with directory := directory }
    return true
  | .error _ => return false

def lookedThrough (machine : Machine) (path : String) : List String :=
  let starts (start : String) : Bool := path = start || path.startsWith (start ++ "/")
  if path.startsWith "/" || starts "." || starts ".." then []
  else ((machine.value? "CDPATH").map fun directories => directories.splitOn ":").getD []

def cd : Builtin := fun arguments => do
  let (options, rest) ← split [('L', false), ('P', false)] arguments
  let isResolved := (options.getLast?.map (·.1)) = some 'P'
  let machine ← Doing.machine
  let (asked, shows) := match rest.head? with
    | some "-" => ((machine.value? "OLDPWD").getD "", true)
    | some path => (path, false)
    | none => ((machine.value? "HOME").getD "", false)
  let path := if asked.isEmpty then "." else asked
  let below (directory : String) : String :=
    if directory.isEmpty then path
    else if directory.endsWith "/" then directory ++ path
    else directory ++ "/" ++ path
  let found := (lookedThrough machine path).find? fun directory =>
    machine.tree.isDirectory (Doing.path (below directory))
  let target := (found.map below).getD path
  if !(← enter isResolved target) then Doing.fail ("can't cd to " ++ asked)
  if shows || found.any fun directory => !directory.isEmpty then
    Doing.write 1 ((← Doing.machine).directory ++ "\n")
  return 0

def permissionLetters (bits : Nat) : String :=
  (if bits / 4 % 2 = 1 then "r" else "") ++ (if bits / 2 % 2 = 1 then "w" else "")
    ++ (if bits % 2 = 1 then "x" else "")

def octal (width value : Nat) : String :=
  let digits := Nat.toDigits 8 value
  String.ofList (List.replicate (width - digits.length) '0' ++ digits)

def changedMode (before : Nat) (text : String) : Option Nat := do
  let letters := text.toList
  let who := letters.takeWhile ['u', 'g', 'o', 'a'].contains
  let operator :: granted := letters.drop who.length | none
  if !(['+', '-', '='].contains operator && granted.all ['r', 'w', 'x', 'X', 's', 't'].contains) then
    none
  let bits := (if granted.contains 'r' then 4 else 0) + (if granted.contains 'w' then 2 else 0)
    + (if granted.contains 'x' then 1 else 0)
  let groups := [('u', 64), ('g', 8), ('o', 1)].filter fun group =>
    who.isEmpty || who.contains 'a' || who.contains group.1
  return groups.foldl (fun mode group =>
    let held := mode / group.2 % 8
    let next := match operator with
      | '+' => held ||| bits
      | '-' => held - (held &&& bits)
      | _ => bits
    mode - held * group.2 + next * group.2) before

def mask : Builtin := fun arguments => do
  let (options, rest) ← split [('S', false)] arguments
  let held := (← Doing.machine).mask
  match rest with
  | [] =>
    let granted := 511 - held
    if options.isEmpty then Doing.write 1 (octal 4 held ++ "\n")
    else
      Doing.write 1 ("u=" ++ permissionLetters (granted / 64 % 8) ++ ",g="
        ++ permissionLetters (granted / 8 % 8) ++ ",o=" ++ permissionLetters (granted % 8) ++ "\n")
    return 0
  | text :: _ =>
    if text.toList.head?.any Char.isDigit then
      if !text.toList.all Format.isOctal then Doing.fail ("Illegal number: " ++ text)
      let value := Arithmetic.valueOf 8 text.toList % 512
      Doing.change fun machine => { machine with mask := value }
      return 0
    match (text.splitOn ",").foldlM changedMode (511 - held) with
    | some granted =>
      Doing.change fun machine => { machine with mask := 511 - granted }
      return 0
    | none => Doing.fail ("Illegal mode: " ++ text)

def limit : Builtin := fun _ => do
  Doing.write 1 "unlimited\n"
  return 0

def times : Builtin := fun _ => do
  Doing.write 1 "0m0.000000s 0m0.000000s\n0m0.000000s 0m0.000000s\n"
  return 0

end ScenarioBench.Rehearsal.Shell.Builtin

import ScenarioBench.Rehearsal.Shell.Builtin.Options

/-! The commands that send signals and say what is done when they come. -/

set_option autoImplicit false

namespace ScenarioBench.Rehearsal.Shell

namespace Signal

def firstNames : List String :=
  ["HUP", "INT", "QUIT", "ILL", "TRAP", "ABRT", "BUS", "FPE", "KILL", "USR1", "SEGV", "USR2",
   "PIPE", "ALRM", "TERM", "16", "CHLD", "CONT", "STOP", "TSTP", "TTIN", "TTOU", "URG", "XCPU",
   "XFSZ", "VTALRM", "PROF", "WINCH", "IO", "PWR", "SYS", "32", "33"]

def freeNames : List String :=
  let below := (List.range 15).map fun (index : Nat) => "RTMIN+" ++ toString (index + 1)
  let above := (List.range 14).map fun (index : Nat) => "RTMAX-" ++ toString (14 - index)
  "RTMIN" :: below ++ above ++ ["RTMAX"]

def names : List String :=
  "EXIT" :: firstNames ++ freeNames

def nameOf (signal : Nat) : String :=
  names.getD signal (toString signal)

def ofText? (least : Nat) (text : String) : Option Nat := do
  let signal ← if !text.isEmpty && text.toList.all Char.isDigit then text.toNat?
    else (names.map String.toUpper).idxOf? text.toUpper
  if least ≤ signal && signal < names.length then return signal else none

def unnoticed : List Nat := [17, 18, 23, 28]

def forced : List Nat := [9, 19]

def notices : List (Nat × String) :=
  [(1, "Hangup"), (3, "Quit"), (4, "Illegal instruction"), (5, "Trace/breakpoint trap"),
   (6, "Aborted"), (7, "Bus error"), (8, "Floating point exception"), (9, "Killed"),
   (10, "User defined signal 1"), (11, "Segmentation fault"), (12, "User defined signal 2"),
   (14, "Alarm clock"), (15, "Terminated")]

end Signal

namespace Builtin

def trap : Builtin := fun arguments => do
  let given ← operands arguments
  let (action, conditions) : Option String × List String := match given with
    | [only] => (none, [only])
    | action :: conditions => (if action = "-" then none else some action, conditions)
    | [] => (none, [])
  if given.isEmpty then
    let traps := (← Doing.machine).traps.mergeSort fun first second => decide (first.1 ≤ second.1)
    Doing.write 1 (String.join (traps.map fun (signal, action) =>
      "trap -- " ++ quoted action ++ " " ++ Signal.nameOf signal ++ "\n"))
    return 0
  let known := conditions.takeWhile fun condition => (Signal.ofText? 0 condition).isSome
  (known.filterMap (Signal.ofText? 0)).forM fun signal =>
    Doing.change fun machine =>
      let others := machine.traps.filter (·.1 ≠ signal)
      { machine with traps := (action.map fun action => (signal, action)).toList ++ others }
  match conditions.drop known.length with
  | wrong :: _ => do
    Doing.note ("trap: " ++ wrong ++ ": bad trap")
    return 1
  | [] => return 0

def isAlive (machine : Machine) (number : Nat) : Bool :=
  number = machine.number || number = machine.shell || machine.ancestors.contains number ||
    machine.jobs.any fun job => job.number = number && job.outcome.isNone

def send (signal : Nat) (target : String) : Doing Nat := do
  let machine ← Doing.machine
  let own := machine.jobs.filter fun job => job.parent = machine.number
  let asked : Option Nat ← match target.toList with
    | '%' :: digits =>
      match (String.ofList digits).toNat?.bind fun place => own[place - 1]? with
      | some job => pure (some job.number)
      | none => Doing.fail ("No such job: " ++ target)
    | '-' :: digits => do
      let _ ← number (String.ofList digits)
      pure none
    | _ => some <$> number target
  match asked.filter (isAlive machine) with
  | some process =>
    if signal ≠ 0 then
      Doing.change fun machine =>
        { machine with signals := machine.signals ++ [(process, signal)] }
    return 0
  | none =>
    Doing.complain "No such process\n"
    return 1

def showSignal (text : String) : Doing Nat := do
  let status ← number text
  let signal := if 128 < status then status - 128 else status
  if 0 < signal && signal < Signal.names.length then
    Doing.write 1 (Signal.nameOf signal ++ "\n")
    return 0
  Doing.fail ("invalid signal number or exit status: " ++ text)

def kill : Builtin := fun arguments => do
  let usage : Doing Nat := Doing.fail
    ("Usage: kill [-s sigspec | -signum | -sigspec] [pid | job]... or\nkill -l [exitstatus]")
  let sendAll (signal : Nat) (targets : List String) : Doing Nat := do
    if targets.isEmpty then usage
    else
      let statuses ← targets.mapM (send signal)
      return statuses.foldl max 0
  match arguments with
  | [] => usage
  | first :: rest =>
    if !first.startsWith "-" then sendAll 15 arguments
    else match Signal.ofText? 1 (String.ofList first.toList.tail) with
      | some signal => sendAll signal rest
      | none =>
        if first = "-0" then sendAll 0 rest
        else
          let (options, targets) ← split [('l', false), ('s', true)] arguments
          if options.any (·.1 = 'l') then
            match targets with
            | [] =>
              let names := "0" :: Signal.names.tail
              Doing.write 1 (String.join (names.map (· ++ "\n")))
              return 0
            | text :: _ => showSignal text
          else match options.find? (·.1 = 's') with
            | some (_, name) =>
              match Signal.ofText? 1 name with
              | some signal => sendAll signal targets
              | none => Doing.fail ("invalid signal number or name: " ++ name)
            | none => sendAll 15 targets

end Builtin

end ScenarioBench.Rehearsal.Shell

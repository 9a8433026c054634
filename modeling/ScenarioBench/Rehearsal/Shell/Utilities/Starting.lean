import ScenarioBench.Rehearsal.Shell.Utilities.Plain

/-! Utilities that start other programs. -/

set_option autoImplicit false

namespace ScenarioBench.Rehearsal.Shell.Utility

def refusalStatus (cause : OsError) : Nat :=
  if cause = .notFound then 127 else 126

def become (launcher : Launcher) (refuse : String → OsError → Doing Unit)
    (environment : List (String × String)) (name : String) (arguments : List String) :
    Doing Nat := do
  match ← launcher environment name arguments with
  | .ok (.exit status) => return status
  | .ok (.signal number) => throw (.process (.signal number))
  | .error cause => do
    refuse name cause
    return refusalStatus cause

def refuseStart (utility : String) (name : String) (cause : OsError) : Doing Unit := do
  complain utility ((← quoteName name) ++ ": " ++ reason cause)

/-! ### Environments -/

def setting? (text : String) : Option (String × String) :=
  let name := text.toList.takeWhile (· ≠ '=')
  match text.toList.drop name.length with
  | _ :: value => some (String.ofList name, String.ofList value)
  | [] => none

def withSetting (environment : List (String × String)) (setting : String × String) :
    List (String × String) :=
  if (environment.lookup setting.1).isSome then
    environment.map fun other => if other.1 = setting.1 then setting else other
  else environment ++ [setting]

def envUsage : Usage where
  name := "env"
  letters := [('i', .nothing), ('u', .value), ('0', .nothing), ('C', .value), ('S', .value),
    ('v', .nothing)]
  words := [("ignore-environment", 'i'), ("unset", 'u'), ("null", '0'), ("chdir", 'C'),
    ("split-string", 'S'), ("debug", 'v')]
  stops := true
  misuse := 125

def env (launcher : Launcher) : Utility := fun arguments => do
  let given ← given envUsage arguments
  let operands := (given.values 'S').flatMap (fun text =>
    (text.splitOn " ").filter fun word => !word.isEmpty) ++ given.operands
  let isEmpty := given.has 'i' || operands.head? = some "-"
  let words := if operands.head? = some "-" then operands.tail else operands
  let machine ← Doing.machine
  let held := if isEmpty then [] else machine.environment
  let kept := held.filter fun setting => !(given.values 'u').contains setting.1
  let front := words.takeWhile fun word => (setting? word).isSome
  let environment := (front.filterMap setting?).foldl withSetting kept
  match words.drop front.length with
  | [] => do
    let closing := if given.has '0' then "\x00" else "\n"
    Doing.write 1 (String.join (environment.map fun setting =>
      setting.1 ++ "=" ++ setting.2 ++ closing))
    return 0
  | name :: others => do
    if given.has '0' then misused envUsage "cannot specify --null (-0) with command"
    match given.value? 'C' with
    | some directory =>
      match (← Doing.machine).tree.rebase (Doing.path directory) with
      | .ok tree => Doing.change fun machine => { machine with tree := tree }
      | .error cause =>
        fail "env" ("cannot change directory to " ++ (← quote directory) ++ ": " ++ reason cause) 125
    | none => pure ()
    become launcher (refuseStart "env") environment name others

def printenv : Utility := fun arguments => do
  let given ← given ⟨"printenv", [('0', .nothing)], [("null", '0')], true, 2⟩ arguments
  let environment := (← Doing.machine).environment
  let closing := if given.has '0' then "\x00" else "\n"
  if given.operands.isEmpty then
    Doing.write 1 (String.join (environment.map fun setting =>
      setting.1 ++ "=" ++ setting.2 ++ closing))
    return 0
  let found := given.operands.map fun name => environment.lookup name
  Doing.write 1 (String.join (found.map fun value => (value.map (· ++ closing)).getD ""))
  return if found.all Option.isSome then 0 else 1

/-! ### Other circumstances -/

def startPlain (launcher : Launcher) (usage : Usage) (refuse : String → OsError → Doing Unit) :
    Utility := fun arguments => do
  let given ← given usage arguments
  match given.operands with
  | [] => misused usage "missing operand"
  | name :: others => become launcher refuse (← Doing.machine).environment name others

def nice (launcher : Launcher) : Utility := fun arguments => do
  let usage : Usage := ⟨"nice", [('n', .value)], [("adjustment", 'n')], true, 125⟩
  let given ← given usage arguments
  match given.value? 'n' with
  | some text =>
    if text.toInt?.isNone then fail "nice" ("invalid adjustment " ++ (← quoteName text)) 125
  | none => pure ()
  match given.operands with
  | [] => do
    Doing.write 1 "0\n"
    return 0
  | name :: others =>
    become launcher (refuseStart "nice") (← Doing.machine).environment name others

def nohup (launcher : Launcher) : Utility :=
  startPlain launcher ⟨"nohup", [], [], true, 125⟩ fun name cause => do
    complain "nohup" ("failed to run command " ++ (← quote name) ++ ": " ++ reason cause)

def setsid (launcher : Launcher) : Utility :=
  startPlain launcher ⟨"setsid", ['c', 'f', 'w'].map fun letter => (letter, .nothing), [], true, 1⟩
    fun name cause => do
      complain "setsid" ("failed to execute " ++ name ++ ": " ++ reason cause)

def timeoutUsage : Usage where
  name := "timeout"
  letters := [('k', .value), ('s', .value), ('v', .nothing), ('P', .nothing), ('F', .nothing)]
  words := [("kill-after", 'k'), ("signal", 's'), ("verbose", 'v'), ("preserve-status", 'P'),
    ("foreground", 'F')]
  stops := true
  misuse := 125

def timeout (launcher : Launcher) : Utility := fun arguments => do
  let given ← given timeoutUsage arguments
  match given.operands with
  | text :: name :: others =>
    let limit ← match duration? text with
      | some limit => pure limit
      | none => misused timeoutUsage ("invalid time interval " ++ (← quoteName text))
    let start := (← Doing.machine).clock
    let refuse (name : String) (cause : OsError) : Doing Unit := do
      complain "timeout" ("failed to run command " ++ (← quoteName name) ++ ": " ++ reason cause)
    let status ← become launcher refuse (← Doing.machine).environment name others
    if 0 < limit && start + limit < (← Doing.machine).clock then
      Doing.change fun machine => { machine with clock := start + limit }
      let kills := ["KILL", "9", "SIGKILL"].contains ((given.value? 's').getD "")
      if kills then throw (.process (.signal 9))
      return if given.has 'P' then 143 else 124
    return status
  | _ => do
    Doing.note "Try 'timeout --help' for more information."
    return 125

/-! ### Arguments from standard input -/

/-- Words between blanks and line ends, whose quotes and backslashes are read, each with whether it is
the last one of its line; without `splits`, the lines are the words. -/
def inputWords (splits : Bool) : Nat → Option (List Char) → List Char →
    Except String (List (String × Bool))
  | 0, _, _ => .ok []
  | fuel + 1, word, text =>
    let add (letters : List Char) : Option (List Char) := some (word.getD [] ++ letters)
    let finish (endsLine : Bool) (rest : List Char) : Except String (List (String × Bool)) := do
      let others ← inputWords splits fuel none rest
      match word with
      | some letters => return (String.ofList letters, endsLine) :: others
      | none => return others
    match text with
    | [] => .ok (word.toList.map fun letters => (String.ofList letters, true))
    | '\\' :: next :: rest => inputWords splits fuel (add [next]) rest
    | head :: rest =>
      if head = '\n' then finish true rest
      else if head = ' ' || head = '\t' then
        if splits then
          finish (decide (rest.head? = some '\n')) rest
        else inputWords splits fuel (word.map fun letters => letters ++ [head]) rest
      else if head = '\x27' || head = '\x22' then
        let inside := rest.takeWhile fun letter => letter ≠ head && letter ≠ '\n'
        match rest.drop inside.length with
        | mark :: after =>
          if mark = head then inputWords splits fuel (add inside) after
          else .error (if head = '\x27' then "single" else "double")
        | [] => .error (if head = '\x27' then "single" else "double")
      else inputWords splits fuel (add [head]) rest

def chunks {α : Type} (count : Nat) : Nat → List α → List (List α)
  | 0, _ => []
  | fuel + 1, things =>
    if things.isEmpty then []
    else things.take (max count 1) :: chunks count fuel (things.drop (max count 1))

def lineChunks (count : Nat) (words : List (String × Bool)) : List (List String) :=
  let step (entry : String × Bool) (state : List (List String)) : List (List String) :=
    if entry.2 then [entry.1] :: state
    else match state with
      | first :: others => (entry.1 :: first) :: others
      | [] => [[entry.1]]
  let rows := words.foldr step []
  (chunks count (rows.length + 1) rows).map List.flatten

def xargsUsage : Usage where
  name := "xargs"
  letters := [('0', .nothing), ('a', .value), ('d', .value), ('E', .value), ('I', .value),
    ('i', .perhaps), ('L', .value), ('l', .perhaps), ('n', .value), ('P', .value), ('p', .nothing),
    ('r', .nothing), ('s', .value), ('t', .nothing), ('x', .nothing)]
  words := [("null", '0'), ("arg-file", 'a'), ("delimiter", 'd'), ("replace", 'i'),
    ("max-lines", 'l'), ("max-args", 'n'), ("max-procs", 'P'), ("no-run-if-empty", 'r'),
    ("max-chars", 's'), ("verbose", 't'), ("exit", 'x')]
  stops := true
  misuse := 1

def runAll (launcher : Launcher) (isTraced : Bool) : List (List String) → Nat → Doing Nat
  | [], status => return status
  | command :: rest, status => do
    match command with
    | [] => runAll launcher isTraced rest status
    | name :: arguments =>
      if isTraced then Doing.note (" ".intercalate command)
      match ← launcher (← Doing.machine).environment name arguments with
      | .ok (.exit 0) => runAll launcher isTraced rest status
      | .ok (.exit 255) => do
        complain "xargs" (name ++ ": exited with status 255; aborting")
        return 124
      | .ok (.exit _) => runAll launcher isTraced rest 123
      | .ok (.signal number) => do
        complain "xargs" (name ++ ": terminated by signal " ++ toString number)
        return 125
      | .error cause => do
        complain "xargs" (name ++ ": " ++ reason cause)
        return refusalStatus cause

def xargs (launcher : Launcher) : Utility := fun arguments => do
  let given ← given xargsUsage arguments
  let number (letter : Char) : Doing (Option Nat) := do
    match given.value? letter with
    | none => return none
    | some text =>
      match text.toNat? with
      | some value => return some value
      | none =>
        complain "xargs" ("invalid number \"" ++ text ++ "\" for -" ++ String.singleton letter
          ++ " option")
        Doing.note "Try 'xargs --help' for more information."
        Doing.leave 1
  let most ← number 'n'
  let mostLines ← number 'L'
  let place := if given.has 'i' then some "\x7b\x7d" else given.value? 'I'
  let text ← match given.value? 'a' with
    | none => pure ((← Doing.takeInput).toOption.getD "")
    | some file =>
      match ← read file with
      | .ok text => pure text
      | .error cause =>
        fail "xargs" ("Cannot open input file " ++ (← quoteName file) ++ ": " ++ reason cause) 1
  let separated (mark : String) : List (String × Bool) :=
    let parts := text.splitOn mark
    (if parts.getLast? = some "" then parts.dropLast else parts).map fun part => (part, true)
  let words ← match given.has '0', given.value? 'd' with
    | true, _ => pure (separated "\x00")
    | false, some mark =>
      let (mark, _) := unescaped (mark.length + 1) mark.toList
      pure (separated (String.ofList mark))
    | false, none =>
      match inputWords place.isNone (2 * text.length + 2) none text.toList with
      | .ok words => pure words
      | .error kind =>
        fail "xargs" ("unmatched " ++ kind ++ " quote; by default quotes are special to xargs "
          ++ "unless you use the -0 option") 1
  let command := if given.operands.isEmpty then ["echo"] else given.operands
  let values := words.map (·.1)
  let commands := match place with
    | some mark => values.map fun value => command.map fun word => value.intercalate (word.splitOn mark)
    | none =>
      let groups := match most, mostLines with
        | some most, _ => chunks most (values.length + 1) values
        | none, some count => lineChunks count words
        | none, none => if values.isEmpty then [] else [values]
      if groups.isEmpty then (if given.has 'r' then [] else [command])
      else groups.map fun group => command ++ group
  let channels := (← Doing.machine).channels.filter (·.1 ≠ 0)
  Doing.withChannels ((0, .nowhere) :: channels) [0] (runAll launcher (given.has 't') commands 0)

end ScenarioBench.Rehearsal.Shell.Utility

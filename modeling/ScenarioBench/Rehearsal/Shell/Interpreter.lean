import ScenarioBench.Rehearsal.Shell.Builtin.Plain
import ScenarioBench.Rehearsal.Shell.Builtin.Signals
import ScenarioBench.Rehearsal.Shell.Builtin.Variables
import ScenarioBench.Rehearsal.Shell.Expansion
import ScenarioBench.Rehearsal.Shell.Opening
import ScenarioBench.Rehearsal.Shell.Program

/-! Carrying out scripts.

One level of a statement is carried out with a given way to carry out the statements inside it, so
the whole is a recursion over a number of steps.
-/

set_option autoImplicit false

namespace ScenarioBench.Rehearsal.Shell

/-- How the statements inside a statement are carried out; the failure of one that is tested ends
nothing. -/
abbrev Carrier := (isTested : Bool) → Statement → Doing Unit

namespace Interpreter

def rounds : Nat := 1000000

def commands (carry : Carrier) (isTested : Bool) : Nat → Source → Nat → Doing Nat
  | 0, _, _ => throw .exhausted
  | fuel + 1, source, status => do
    -- The aliases of this moment: a line cannot use one that it defines itself.
    let aliases := (← Doing.machine).aliases
    match Reader.readLine.perform { source with aliases := aliases } with
    | (.error fault, after) => do
      Doing.change fun machine => { machine with line := after.line }
      Doing.fail ("Syntax error: " ++ fault.message)
    | (.ok (some statement), after) => do
      carry isTested statement
      let machine ← Doing.machine
      if machine.skip.isSome then return machine.status
      commands carry isTested fuel after machine.status
    | (.ok none, after) =>
      if after.token = .textEnd then return status
      else commands carry isTested fuel after status

def script (carry : Carrier) (isTested : Bool) (text : String) : Doing Nat :=
  commands carry isTested (text.length + 2) (Source.ofText text.toList 1 []) 0

def answer (carry : Carrier) (action : String) : Doing Unit := do
  let status := (← Doing.machine).status
  let _ ← script carry false action
  -- What an answer does leaves no status behind, unless it returns from the function around it.
  if (← Doing.machine).skip ≠ some .function then Doing.setStatus status

def answerSignals (carry : Carrier) : Doing Unit := do
  let machine ← Doing.machine
  let (own, others) := machine.signals.partition fun signal => signal.1 = machine.number
  if own.isEmpty || machine.skip.isSome then return
  Doing.change fun machine => { machine with signals := others }
  own.forM fun (_, signal) => do
    let traps := (← Doing.machine).traps.filter fun trap => !Signal.forced.contains trap.1
    match traps.lookup signal with
    | some action => if action.isEmpty then pure () else answer carry action
    | none =>
      if Signal.unnoticed.contains signal then pure ()
      else throw (.process (.signal signal))

def toTheEnd (carry : Carrier) (doing : Doing Unit) : Doing Unit := fun before =>
  let (result, after) := doing before
  match after.traps.lookup 0, Doing.endingOf after result with
  | some action, .exit status =>
    let traps := after.traps.filter (·.1 ≠ 0)
    let last := { after with traps := traps, skip := none, status := status }
    match script carry false action last with
    | (.error (.process ending), last) => (.error (.process ending), last)
    | (.error .fault, last) => (.error (.process (.exit 2)), last)
    | (_, last) => (.error (.process (.exit status)), last)
  | _, _ => (result, after)

def checkFailure (isTested : Bool) : Doing Unit := do
  let machine ← Doing.machine
  if machine.hasOption 'e' && !isTested && machine.status ≠ 0 then Doing.leave machine.status

def noteEnding : Ending → Doing Unit
  | .signal number =>
    match Signal.notices.lookup number with
    | some notice => Doing.write 2 (notice ++ "\n")
    | none => pure ()
  | .exit _ => pure ()

def tolerate (doing : Doing Unit) : Doing Bool := do
  match ← Action.attempt doing with
  -- A fault ends the command only; what ends the process goes on.
  | .ok () => return true
  | .error .fault => return false
  | .error other => throw other

/-! ### Jobs -/

def tasksOf : Statement → List Task
  | .sequence statements => statements.map .statement
  | .loop whileFailing condition body => [.again whileFailing condition body]
  | statement => [.statement statement]

def skipTasks (skip : Skip) : List Task → List Task × Option Skip
  | [] => ([], some skip)
  | task :: rest =>
    match skip, task with
    | .function, _ => ([], some .function)
    -- Statements in front of the loop that is left or gone on with are passed over.
    | .loops levels goesOn, .statement _ => skipTasks (.loops levels goesOn) rest
    | .loops levels goesOn, _ =>
      if 1 < levels then skipTasks (.loops (levels - 1) goesOn) rest
      else (if goesOn then task :: rest else rest, none)

def doTask (carry : Carrier) (printing : Printing) : List Task → Doing (List Task)
  | [] => return []
  | task :: rest => do
    Doing.change fun machine =>
      { machine with
        loops := (task :: rest).countP fun task => match task with
          | .statement _ => false
          | _ => true }
    let next ← match task with
      | .statement (.sequence statements) => pure (statements.map .statement ++ rest)
      | .statement (.loop whileFailing condition body) =>
        pure (.again whileFailing condition body :: rest)
      | .statement (.forEach _ name words body) =>
        let values := (← words.mapM (Expansion.fields printing)).flatten
        pure (.each name values body :: rest)
      | .statement (.conditional condition whenTrue whenFalse) =>
        carry true condition
        let isTrue := (← Doing.machine).status = 0
        if !isTrue then Doing.setStatus 0
        let chosen := if isTrue then some whenTrue else whenFalse
        pure ((chosen.map Task.statement).toList ++ rest)
      | .statement statement =>
        carry false statement
        pure rest
      | .again whileFailing condition body =>
        carry true condition
        let isTrue := (← Doing.machine).status = 0
        if isTrue = whileFailing then
          Doing.setStatus 0
          pure rest
        else pure (.statement body :: task :: rest)
      | .each name values body =>
        match values with
        | [] => pure rest
        | value :: values =>
          Doing.assign name value
          pure (.statement body :: .each name values body :: rest)
    match (← Doing.machine).skip with
    | some skip =>
      let (left, others) := skipTasks skip next
      Doing.change fun machine => { machine with skip := others }
      return left
    | none => return next

def advanced (job : Job) (after : Machine) (result : Except Leave (List Task)) : Job :=
  let moved := { job with
    -- Redirections of a job are opened in its first step, and only there.
    wakes := after.clock, process := after.toProcess, base := after.tree.base, redirections := [] }
  match result with
  | .ok tasks => { moved with tasks := tasks }
  | .error cause =>
    { moved with tasks := [], outcome := some (Doing.endingOf after (.error cause)).status }

def advance (carry : Carrier) (printing : Printing) (job : Job) : Doing Unit := fun before =>
  let own : Machine := {
    toProcess := job.process
    toWorld := { before.toWorld with
      clock := job.wakes, inBackground := true, tree := before.tree.seenFrom job.base } }
  let doing : Doing (List Task) := do
    answerSignals carry
    if !job.redirections.isEmpty then
      let targets := job.redirections.map fun (descriptor, opening, target) =>
        (descriptor, opening, (return target : Doing String))
      Doing.useChannels (← Opening.openAll job.process.channels targets)
    match job.tasks with
    | [] => do
      toTheEnd carry (pure ())
      Doing.leave (← Doing.machine).status
    -- Only one task is done, so that jobs take turns whenever time passes.
    | tasks =>
      match ← Action.attempt (doTask carry printing tasks) with
      | .ok left => return left
      | .error cause => do
        toTheEnd carry (throw cause)
        return []
  let (result, after) := doing own
  let moved := advanced job after result
  -- The clock of the job is its own: it runs ahead of that of the process it belongs to.
  let restored := before.inWorldOf after
  let jobs := restored.jobs.map fun other => if other.number = job.number then moved else other
  (.ok (), { restored with clock := before.clock, inBackground := before.inBackground, jobs := jobs })

def nextJob? (machine : Machine) (isWanted : Job → Bool) : Option Job :=
  (machine.jobs.filter fun job => job.outcome.isNone && isWanted job).foldl (fun found job =>
    match found with
    | some first => if job.wakes < first.wakes then some job else found
    | none => some job) none

def endSignalled : Doing Unit :=
  Doing.change fun machine =>
    -- A signal that is caught is answered by the job itself, when it goes on.
    let ends (job : Job) (signal : Nat × Nat) : Bool :=
      signal.1 = job.number && job.outcome.isNone && !Signal.unnoticed.contains signal.2 &&
        (Signal.forced.contains signal.2 || (job.process.traps.lookup signal.2).isNone)
    { machine with
      jobs := machine.jobs.map fun job =>
        match machine.signals.find? (ends job) with
        | some (_, signal) =>
          { job with tasks := [], wakes := machine.clock, outcome := some (128 + signal) }
        | none => job
      signals := machine.signals.filter fun signal =>
        !(machine.jobs.any fun job => ends job signal) }

def advanceAll (carry : Carrier) (printing : Printing) (next? : Machine → Option Job) :
    Nat → Doing Unit
  | 0 => throw .exhausted
  | fuel + 1 => do
    endSignalled
    match next? (← Doing.machine) with
    | some job => do
      advance carry printing job
      advanceAll carry printing next? fuel
    | none => pure ()

def settle (carry : Carrier) (printing : Printing) : Doing Unit := do
  if (← Doing.machine).inBackground then return
  advanceAll carry printing (fun machine => nextJob? machine fun job => job.wakes ≤ machine.clock)
    rounds

def await (carry : Carrier) (printing : Printing) (isWanted : Job → Bool) : Doing Unit := do
  let next? (machine : Machine) : Option Job :=
    -- All jobs take part, since a wanted one may wait for what another does.
    if (nextJob? machine isWanted).isSome then nextJob? machine fun _ => true else none
  advanceAll carry printing next? rounds
  Doing.change fun machine =>
    -- The waiting has taken as long as the last of the wanted jobs.
    let ends := (machine.jobs.filter isWanted).map (·.wakes)
    { machine with clock := ends.foldl max machine.clock }

def drain (carry : Carrier) (printing : Printing) (channel : Channel) : Doing Unit :=
  await carry printing fun job =>
    job.outcome.isNone && job.process.channels.any fun entry => entry.2 = channel

def startJob (redirections : List (Nat × Opening × String)) (body : Statement) : Doing Unit := do
  let number ← Doing.newNumber
  Doing.change fun machine =>
    let own := Doing.splitOff machine number
    let process := { own.toProcess with
      -- Without job control, a job reads nothing and is deaf to interrupts.
      channels := (0, .nowhere) :: own.channels.filter (·.1 ≠ 0)
      traps := (2, "") :: (3, "") :: own.traps, skip := none, loops := 0 }
    let job : Job := {
      number := number, parent := machine.number, wakes := machine.clock
      redirections := redirections, tasks := tasksOf body, process := process
      base := machine.tree.base, outcome := none }
    { machine with jobs := machine.jobs ++ [job], lastJob := some number }

def wait (carry : Carrier) (printing : Printing) : Builtin := fun arguments => do
  let own := (← Doing.machine).number
  match ← Builtin.operands arguments with
  | [] => do
    await carry printing fun job => job.parent = own
    return 0
  | targets => do
    let statuses ← targets.mapM fun target => do
      let jobs := (← Doing.machine).jobs.filter fun job => job.parent = own
      let asked ← match target.toList with
        | '%' :: digits =>
          match (String.ofList digits).toNat?.bind fun place => jobs[place - 1]? with
          | some job => pure job.number
          | none => Doing.fail ("No such job: " ++ target)
        | _ => Builtin.number target
      if !(jobs.any fun job => job.number = asked) then return 127
      await carry printing fun job => job.number = asked
      let found := (← Doing.machine).jobs.find? fun job => job.number = asked
      return (found.bind (·.outcome)).getD 127
    return statuses.getLast?.getD 0

/-! ### Words and redirections -/

def printed (carry : Carrier) (printing : Printing) (statement : Statement) : Doing String := do
  let pipe ← Doing.newPipe ""
  let ending ← Doing.apart do
    Doing.connect [(1, .inlet pipe)]
    toTheEnd carry (carry false statement)
  noteEnding ending
  -- A job that still holds the pipe may write to it later.
  drain carry printing (.inlet pipe)
  Doing.change fun machine => { machine with innerStatus := ending.status }
  Doing.contentOf pipe

def printingWithin (carry : Carrier) : Nat → Printing
  | 0, _ => throw .exhausted
  | depth + 1, statement => printed carry (printingWithin carry depth) statement

def printing (carry : Carrier) : Printing :=
  printingWithin carry 3

/-- The targets of redirections. Texts to be read are found out later: what cannot be found out of
them is only a redirection that cannot be done. -/
def targets (carry : Carrier) (redirections : List Redirection) :
    Doing (List (Nat × Opening × Doing String)) :=
  redirections.mapM fun redirection => match redirection with
    | .redirection descriptor opening target => do
      if opening = .document then
        return (descriptor, opening, Expansion.text (printing carry) target)
      let text ← Expansion.text (printing carry) target
      if opening = .duplicate && !Opening.isDescriptor text then
        Doing.fail "Syntax error: Bad fd number"
      return (descriptor, opening, return text)

def redirected (targets : List (Nat × Opening × Doing String)) (doing : Doing Unit) :
    Doing Bool := do
  let before := (← Doing.machine).channels
  match ← Action.attempt (Opening.openAll before targets) with
  | .ok channels => do
    Doing.withChannels channels (targets.map (·.1)) doing
    return true
  | .error .fault => return false
  | .error other => throw other

/-! ### Commands -/

def initialSettings : List (String × Setting) :=
  [("IFS", ⟨some " \t\n", false, false⟩), ("OPTIND", ⟨some "1", false, false⟩),
   ("PS1", ⟨some "# ", false, false⟩), ("PS2", ⟨some "> ", false, false⟩),
   ("PS4", ⟨some "+ ", false, false⟩)]

def usualSearch : String :=
  "/usr/local/sbin:/usr/local/bin:/usr/sbin:/usr/bin:/sbin:/bin"

def asksForUnicode (environment : List (String × String)) : Bool :=
  let names := ["LC_ALL", "LC_CTYPE", "LANG"].filterMap fun name => environment.lookup name
  (names.find? fun name => !name.isEmpty).any ["C.UTF-8", "C.utf8"].contains

def newProcess (parent : Machine) (environment : List (String × String)) (name : String)
    (arguments : List String) : Machine :=
  let here := Octetwise.ofOctets parent.tree.basePath.octets
  -- A directory of the environment is believed only if it is the one the process is in.
  let holds (directory : String) : Bool :=
    directory.startsWith "/" &&
      (parent.tree.nodeAt (Doing.path directory)).toOption.any (·.1 = parent.tree.base)
  let directory := ((environment.lookup "PWD").filter holds).getD here
  { parent with
    bindings := environment.map fun (name, value) => (name, ⟨some value, true, false⟩)
    functions := [], aliases := [], name := name, arguments := arguments
    number := parent.next, shell := parent.next, next := parent.next + 1
    ancestors := parent.number :: parent.ancestors
    lastJob := none, options := [], status := 0, innerStatus := 0, line := 1, functionLine := 0
    command := "", traps := parent.traps.filter fun trap => trap.2.isEmpty && trap.1 ≠ 0
    skip := none, loops := 0, outside := [], optionIndex := 1, optionPlace := none
    directory := directory, hasLost := false, isUnicode := asksForUnicode environment }

/-- Set the options that a shell is started with: the letters of its own and the other arguments. -/
def startOptions : Nat → List String → Doing (List Char × List String)
  | 0, arguments => return ([], arguments)
  | _ + 1, [] => return ([], [])
  | fuel + 1, first :: rest => do
    let isOwn (letter : Char) : Bool := letter = 'c' || letter = 'l' || letter = 's'
    match first.toList with
    | ['-'] | ['-', '-'] => return ([], rest)
    | sign :: letters =>
      if sign ≠ '-' && sign ≠ '+' then return ([], first :: rest)
      let isSet := sign = '-'
      let left ← Builtin.setLetters isSet (letters.filter fun letter => !isOwn letter) rest
      let (own, others) ← startOptions fuel left
      return (letters.filter isOwn ++ own, others)
    | [] => return ([], first :: rest)

def scriptOf (tree : FileTree) (file : String) : Except OsError String :=
  if file = Condition.nowhere then .ok ""
  else match tree.read (Doing.path file) with
    | .ok content => .ok (Octetwise.ofOctets content)
    | .error .isADirectory => .ok ""
    | .error cause => .error cause

def runShell (carry : Carrier) (arguments : List String) : Doing Unit := do
  Doing.change fun machine =>
    let isSetUp (entry : String × Setting) : Bool :=
      entry.1 = "PWD" || initialSettings.any (·.1 = entry.1)
    let search : List (String × Setting) :=
      if (machine.bindings.lookup "PATH").isSome then []
      else [("PATH", ⟨some usualSearch, false, false⟩)]
    { machine with
      line := 0
      bindings := ("PWD", ⟨some machine.directory, true, false⟩) :: initialSettings ++ search ++
        machine.bindings.filter fun entry => !isSetUp entry && Naming.isName entry.1 }
  let (own, rest) ← startOptions (arguments.length + 1) arguments
  let start (name : String) (arguments : List String) : Doing Unit :=
    Doing.change fun machine => { machine with name := name, arguments := arguments, line := 1 }
  let name := (← Doing.machine).name
  if own.contains 'c' then
    match rest with
    | [] => Doing.fail "-c requires an argument"
    | text :: [] => do
      start name []
      Doing.setStatus (← script carry false text)
    | text :: own :: others => do
      start own others
      Doing.setStatus (← script carry false text)
  else if own.contains 's' || rest.isEmpty then
    Builtin.setOption true 's'
    start name rest
    let text := (← Doing.takeInput).toOption.getD ""
    Doing.setStatus (← script carry false text)
  else match rest with
    | [] => pure ()
    | file :: others =>
      match scriptOf (← Doing.machine).tree file with
      | .ok text => do
        start file others
        Doing.setStatus (← script carry false text)
      | .error cause =>
        Doing.fail (Opening.complaint "open" file "No such file" cause)

def startProcess (carry : Carrier) (launcher : Launcher) (environment : List (String × String))
    (start : Start) : Doing Ending := fun before =>
  let process : Doing Unit := match start.program with
    | .utility utility => do
      Doing.setStatus (← utility launcher start.arguments)
      if (← Doing.machine).hasLost then
        let name := (start.name.splitOn "/").getLast?.getD start.name
        -- Both names are scripts around the utility that complains.
        let known := if name = "egrep" || name = "fgrep" then "grep" else name
        Doing.setStatus (← Utility.complainOfLoss known)
    | .shell => toTheEnd carry (runShell carry start.arguments)
  let (result, after) := process (newProcess before environment start.name start.arguments)
  (.ok (Doing.endingOf after result), before.inWorldOf after)

/-- Start programs that stand in the directories of a search, within a number of programs that start
each other. -/
def startNamed (carry : Carrier) : Nat → (search : Option String) → Launcher
  | 0, _, _, _, _ => throw .exhausted
  | depth + 1, search, environment, name, arguments => do
    let machine ← Doing.machine
    let launcher : Launcher := fun environment =>
      startNamed carry depth (environment.lookup "PATH") environment
    match Program.find machine.tree search name arguments with
    | .ok start => do
      let ending ← startProcess carry launcher environment start
      return .ok ending
    | .error .unknownFormat => do
      -- A script without a first line of its own is read by the shell, as for `execvp`.
      let path := (Program.candidates search name).find? fun path =>
        machine.tree.isFile (Doing.path path)
      let ending ← startProcess carry launcher environment
        ⟨.shell, "/bin/sh", path.getD name :: arguments⟩
      return .ok ending
    | .error cause => return .error cause

def launchDepth : Nat := 20

def refuseProgram (name : String) (cause : OsError) : Doing Nat := do
  let machine ← Doing.machine
  let candidates := Program.candidates (some ((machine.value? "PATH").getD "")) name
  let isThere := name.toList.contains '/' || candidates.any fun path =>
    machine.tree.isFile (Doing.path path)
  match cause with
  | .notFound | .notADirectory => do
    Doing.complain (name ++ ": not found")
    return 127
  | .tooManyLinks | .nameTooLong => do
    Doing.complain (name ++ ": " ++ reason cause)
    return 127
  | _ => do
    Doing.complain (name ++ ": " ++ reason cause)
    return if isThere then 126 else 127

def listOf (name : String) : Nat :=
  let codes := name.toList.map Char.toNat
  -- Variables are kept in 39 lists, which are handed on one after the other.
  (codes.foldl (· + ·) (codes.headD 0 * 16)) % 39

def handedOn (machine : Machine) : List (String × String) :=
  machine.environment.mergeSort fun first second => decide (listOf first.1 ≤ listOf second.1)

/-- Carry out a program that is not a command of the shell: how it ends, if it can be started. -/
def external (carry : Carrier) (name : String) (arguments : List String) :
    Doing (Except Nat Ending) := do
  let machine ← Doing.machine
  let search := some ((machine.value? "PATH").getD "")
  match ← startNamed carry launchDepth search (handedOn machine) name arguments with
  | .ok ending => return .ok ending
  | .error cause => return .error (← refuseProgram name cause)

def become (carry : Carrier) (name : String) (arguments : List String) : Doing Nat := do
  match ← external carry name arguments with
  | .ok ending => do
    Doing.change fun machine => { machine with traps := [] }
    throw (.process ending)
  | .error status => Doing.leave status

def giveBack (bindings : List (String × Setting)) (old : String × Option Setting) :
    List (String × Setting) :=
  (old.2.map fun setting => (old.1, setting)).toList ++ bindings.filter fun own => own.1 ≠ old.1

def withFrame {α : Type} (doing : Doing α) : Doing α := fun before =>
  let (result, after) := doing { before with outside := [] :: before.outside }
  let frame := after.outside.headD []
  (result, { after with
    bindings := frame.foldl giveBack after.bindings, outside := before.outside })

def assignLocal (name value : String) : Doing Unit := do
  Doing.change fun machine =>
    match machine.outside with
    | frame :: frames =>
      if frame.any (·.1 = name) then machine
      else { machine with outside := ((name, machine.bindings.lookup name) :: frame) :: frames }
    | [] => machine
  Doing.assign name value
  Doing.adjust name fun setting => { setting with isExported := true }

def callFunction (carry : Carrier) (isTested : Bool) (line : Nat) (body : Statement)
    (arguments : List String) : Doing Unit := fun before =>
  let (result, after) := carry isTested body
    { before with
      arguments := arguments, functionLine := line, loops := 0, optionIndex := 1
      optionPlace := none }
  -- A return ends here; a loop that is left may stand outside of the function.
  let skip := if after.skip = some .function then none else after.skip
  (result, { after with
    arguments := before.arguments, functionLine := before.functionLine, loops := before.loops
    optionIndex := before.optionIndex, optionPlace := before.optionPlace, skip := skip })

def special : List (String × Builtin) :=
  [(":", fun _ => return 0), ("exit", Builtin.exit), ("return", Builtin.returns),
   ("break", Builtin.endLoops false), ("continue", Builtin.endLoops true),
   ("shift", Builtin.shift), ("export", Builtin.exports), ("readonly", Builtin.fixes),
   ("unset", Builtin.unset), ("set", Builtin.set), ("trap", Builtin.trap),
   ("times", Builtin.times), ("local", Builtin.localize)]

def regular : List (String × Builtin) :=
  [("true", fun _ => return 0), ("false", fun _ => return 1), ("echo", Builtin.echo),
   ("printf", Builtin.printf), ("test", Builtin.test false), ("[", Builtin.test true),
   ("pwd", Builtin.pwd), ("cd", Builtin.cd), ("chdir", Builtin.cd), ("read", Builtin.read),
   ("kill", Builtin.kill), ("umask", Builtin.mask), ("ulimit", Builtin.limit),
   ("getopts", Builtin.nextOptions), ("alias", Builtin.aliases),
   ("unalias", Builtin.removeAliases), ("hash", fun _ => return 0), ("jobs", fun _ => return 0),
   ("fg", fun _ => Doing.fail "job control off"), ("bg", fun _ => Doing.fail "job control off")]

def wovenSpecial : List String :=
  ["eval", ".", "exec"]

def woven : List String :=
  ["command", "type", "wait"]

def isSpecial (name : String) : Bool :=
  wovenSpecial.contains name || (special.lookup name).isSome

def isBuiltin (name : String) : Bool :=
  isSpecial name || woven.contains name || (regular.lookup name).isSome

def assigning : List String :=
  ["alias", "export", "readonly", "local"]

def describe? (machine : Machine) (name : String) : Option (String × String) :=
  let search := (machine.value? "PATH").getD ""
  if Naming.keywords.contains name then some (name, name ++ " is a shell keyword")
  else match machine.aliases.lookup name with
    | some value =>
      some ("alias " ++ name ++ "=" ++ Builtin.quoted value, name ++ " is an alias for " ++ value)
    | none =>
      if (machine.functions.lookup name).isSome then some (name, name ++ " is a shell function")
      else if isSpecial name then some (name, name ++ " is a special shell builtin")
      else if isBuiltin name then some (name, name ++ " is a shell builtin")
      else
        let found := (Program.candidates search name).find? fun path =>
          (Program.start machine.tree Program.interpreterDepth path path []).isOk
        found.map fun path => (path, name ++ " is " ++ path)

def describeAll : Builtin := fun names => do
  let statuses ← names.mapM fun name => do
    match describe? (← Doing.machine) name with
    | some (_, description) => do
      Doing.write 1 (description ++ "\n")
      return 0
    | none => do
      Doing.write 1 (name ++ ": not found\n")
      return 127
  return statuses.foldl max 0

def tell : Builtin := fun arguments => do
  let (options, names) ← Builtin.split [('p', false), ('v', false), ('V', false)] arguments
  match names with
  | [] => return 0
  | name :: _ =>
    if options.any (·.1 = 'V') then describeAll [name]
    else match describe? (← Doing.machine) name with
      | some (call, _) => do
        Doing.write 1 (call ++ "\n")
        return 0
      | none => return 127

def source (carry : Carrier) : Builtin := fun arguments => do
  match ← Builtin.operands arguments with
  | [] => return 0
  | name :: _ => do
    let machine ← Doing.machine
    let search := (machine.value? "PATH").getD ""
    let found := (Program.candidates (some search) name).find? fun path =>
      machine.tree.isFile (Doing.path path)
    let path ← if name.toList.contains '/' then pure name
      else match found with
        | some path => pure path
        | none => Doing.fail (name ++ ": not found")
    match scriptOf machine.tree path with
    | .ok text => do
      let status ← Doing.named path (script carry false text)
      Doing.change fun machine =>
        { machine with skip := if machine.skip = some .function then none else machine.skip }
      return status
    | .error cause => Doing.fail (Opening.complaint "open" path "No such file" cause)

def builtin (carry : Carrier) (isTested : Bool) (name : String) (arguments : List String) :
    Doing Nat := do
  match name with
  | "eval" => script carry isTested (" ".intercalate arguments)
  | "." => source carry arguments
  | "exec" =>
    match arguments with
    | [] => return 0
    | program :: rest => become carry program rest
  | "command" => tell arguments
  | "type" => describeAll arguments
  | "wait" => wait carry (printing carry) arguments
  | _ =>
    match (special ++ regular).lookup name with
    | some utility => utility arguments
    | none => return 127

/-- A command whose words are known: whether it is special, whether functions are passed over, its
name and its arguments. -/
structure Call where
  isSpecial : Bool
  isBuiltin : Bool
  skipsFunctions : Bool
  fields : List String

def firstFields (carry : Carrier) : List Word → Doing (List String × List Word)
  | [] => return ([], [])
  | word :: rest => do
    match ← Expansion.fields (printing carry) word with
    | [] => firstFields carry rest
    | fields => return (fields, rest)

def behindCommand (carry : Carrier) : Nat → List String → List Word →
    Doing (Option (List String × List Word))
  | 0, _, _ => return none
  | fuel + 1, fields, words => do
    match fields with
    | [] =>
      match ← firstFields carry words with
      | ([], _) => return none
      | (fields, words) => behindCommand carry fuel fields words
    | first :: rest =>
      if first = "--" then
        if rest.isEmpty then
          match ← firstFields carry words with
          | ([], _) => return none
          | found => return some found
        else return some (rest, words)
      else match first.toList with
        | '-' :: letter :: letters =>
          if (letter :: letters).all (· = 'p') then behindCommand carry fuel rest words
          else return none
        | _ => return some (fields, words)

def otherFields (carry : Carrier) (isAssigning : Bool) (word : Word) : Doing (List String) := do
  match if isAssigning then Reader.assignment? word else none with
  | some (name, value) => return [name ++ "=" ++ (← Expansion.value (printing carry) value)]
  | none => Expansion.fields (printing carry) word

def resolve (carry : Carrier) : Nat → (isSpecial? : Option Bool) → (skipsFunctions : Bool) →
    List String → List Word → Doing Call
  | 0, _, _, _, _ => throw .exhausted
  | fuel + 1, decided, skipsFunctions, fields, words => do
    let name := fields.headD ""
    let machine ← Doing.machine
    let isFunction := !skipsFunctions && (machine.functions.lookup name).isSome
    let isSpecialName := isSpecial name
    -- Functions come before commands of the shell, but not before the special ones.
    let isOwn := isBuiltin name && (isSpecialName || !isFunction)
    let finish (decided : Option Bool) (fields : List String) (words : List Word) :
        Doing Call := do
      let isAssigning := isOwn && assigning.contains name
      let others ← words.mapM (otherFields carry isAssigning)
      return ⟨decided.getD false, isOwn, skipsFunctions, fields ++ others.flatten⟩
    if !isOwn then finish decided fields words
    else
      -- The first name decides: behind `command`, even a special one is not special any more.
      let decided := decided.or (some isSpecialName)
      if name ≠ "command" then finish decided fields words
      else match ← behindCommand carry (fields.length + words.length + 1) fields.tail words with
        | some (inner, rest) => resolve carry fuel decided true inner rest
        | none =>
          let (more, rest) ← if fields.tail.isEmpty then firstFields carry words
            else pure ([], words)
          finish decided (fields ++ more) rest

def trace (channel : Channel) (assignments : List (String × String)) (fields : List String) :
    Doing Unit := do
  let machine ← Doing.machine
  let shown := assignments.map (fun (name, value) => name ++ "=" ++ value) ++ fields
  let line := (machine.value? "PS4").getD "" ++ " ".intercalate shown ++ "\n"
  let _ ← Doing.writeTo channel line

/-- Do what a command of the shell does, and complain if standard output does not take all of it. -/
def keepingCount (name : String) (doing : Doing Nat) : Doing Nat := do
  let status ← doing
  if !(← Doing.machine).hasLost then return status
  Doing.change fun machine => { machine with hasLost := false }
  Doing.complain (name ++ ": I/O error")
  return status ||| 1

def callFields (carry : Carrier) (isTested : Bool) (call : Call) : Doing Unit := do
  match call.fields with
  | [] => Doing.setStatus (← Doing.machine).innerStatus
  | name :: arguments =>
    if call.isBuiltin then
      let doing : Doing Unit := do
        Doing.setStatus (← Doing.named name (keepingCount name (builtin carry isTested name arguments)))
      if call.isSpecial then doing
      else
        let _ ← tolerate doing
        pure ()
    else
      let functions := (← Doing.machine).functions
      match if call.skipsFunctions then none else functions.lookup name with
      | some (line, body) => callFunction carry isTested line body arguments
      | none =>
        let before := (← Doing.machine).clock
        match ← external carry name arguments with
        | .ok ending => do
          noteEnding ending
          Doing.setStatus ending.status
        | .error status => Doing.setStatus status
        -- When time has passed, jobs that should have gone on meanwhile do so before anything is seen.
        if before < (← Doing.machine).clock then settle carry (printing carry)

def callWith (carry : Carrier) (isTested : Bool) (call : Call)
    (assignments : List (String × Word)) (traces : Channel) : Doing Unit := do
  let isLocal := !call.fields.isEmpty && !(call.isBuiltin && call.isSpecial)
  let isExec := call.isBuiltin && call.fields.head? = some "exec" && 1 < call.fields.length
  let assigned ← assignments.mapM fun (name, word) => do
    let value ← Expansion.value (printing carry) word
    if isLocal then assignLocal name value else Doing.assign name value
    if isExec then Doing.adjust name fun setting => { setting with isExported := true }
    return (name, value)
  if (← Doing.machine).hasOption 'x' && !(assigned.isEmpty && call.fields.isEmpty) then
    trace traces assigned call.fields
  callFields carry isTested call

def simple (carry : Carrier) (isTested : Bool) (assignments : List (String × Word))
    (words : List Word) (redirections : List Redirection) : Doing Unit := do
  Doing.change fun machine => { machine with innerStatus := 0 }
  let call ← match ← firstFields carry words with
    | ([], _) => pure ⟨false, false, false, []⟩
    | (fields, rest) => resolve carry (words.length + 1) none false fields rest
  let before := (← Doing.machine).channels
  let targets ← targets carry redirections
  let isLocal := !call.fields.isEmpty && !(call.isBuiltin && call.isSpecial)
  let body := callWith carry isTested call assignments ((before.lookup 2).getD .nowhere)
  let doing := if isLocal then withFrame body else body
  -- Redirections of a bare `exec` stay for the rest of the process.
  let stays := call.isBuiltin && call.fields = ["exec"]
  let isDone ← if stays then tolerate do
      Doing.useChannels (← Opening.openAll before targets)
      doing
    else redirected targets doing
  if !isDone then
    Doing.setStatus 2
    if call.isBuiltin && call.isSpecial then throw .fault

/-! ### Statements -/

def atLine (line : Nat) : Doing Unit :=
  Doing.change fun machine => { machine with line := line }

def skipLoop : Doing Bool := do
  match (← Doing.machine).skip with
  | none => return false
  | some .function => return true
  | some (.loops levels goesOn) =>
    if 1 < levels then
      Doing.change fun machine => { machine with skip := some (.loops (levels - 1) goesOn) }
      return true
    Doing.change fun machine => { machine with skip := none }
    return !goesOn

def inLoop (doing : Doing Unit) : Doing Unit := fun before =>
  let (result, after) := doing { before with loops := before.loops + 1 }
  (result, { after with loops := before.loops })

/-- Carry out a loop, at most so many times; the status is that of the last round. -/
def loop (carry : Carrier) (isTested whileFailing : Bool) (condition body : Statement) :
    Nat → (status : Nat) → Doing Unit
  | 0, _ => throw .exhausted
  | fuel + 1, status => do
    carry true condition
    let tested ← Doing.machine
    -- A condition, too, may leave the loop or go on with it.
    let isSkipping := tested.skip.isSome
    let isFunction := tested.skip = some .function
    let ends ← skipLoop
    if isSkipping then
      if ends then Doing.setStatus (if isFunction then tested.status else status)
      else loop carry isTested whileFailing condition body fuel status
    else if (tested.status = 0) = whileFailing then Doing.setStatus status
    else
      carry isTested body
      let status := (← Doing.machine).status
      if ← skipLoop then Doing.setStatus status
      else loop carry isTested whileFailing condition body fuel status

def pipeline (carry : Carrier) (isTested : Bool) (input : Channel) : List Statement → Doing Unit
  | [] => pure ()
  | [last] => do
    let ending ← Doing.apart do
      Doing.connect [(0, input)]
      toTheEnd carry (carry isTested last)
    noteEnding ending
    Doing.setStatus ending.status
  | part :: rest => do
    let pipe ← Doing.newPipe ""
    let ending ← Doing.apart do
      Doing.connect [(0, input), (1, .inlet pipe)]
      toTheEnd carry (carry isTested part)
    noteEnding ending
    drain carry (printing carry) (.inlet pipe)
    pipeline carry isTested (.outlet pipe) rest

def branch? (carry : Carrier) (text : String) :
    List (List Word × Option Statement) → Doing (Option (Option Statement))
  | [] => return none
  | (patterns, body) :: rest => do
    let fits ← patterns.anyM fun word => do
      let pattern ← Expansion.pattern (printing carry) word
      return pattern.fits text.toList
    if fits then return some body
    branch? carry text rest

def background (carry : Carrier) (body : Statement) : Doing Unit := do
  let (line, inner, redirections) := match body with
    | .redirected line body redirections => (some line, body, redirections)
    | other => (none, other, [])
  match line with
  | some line => atLine line
  | none => pure ()
  let prepared ← targets carry redirections
  let targets ← prepared.mapM fun (descriptor, opening, target) => do
    return (descriptor, opening, ← target)
  match inner, targets with
  -- A job is a process of its own already, so that parentheses need no other one.
  | .subshell _ body [], [] => startJob [] body
  | _, _ => startJob targets inner
  Doing.setStatus 0

def level (carry : Carrier) (isTested : Bool) : Statement → Doing Unit
  | .simple line assignments words redirections => do
    atLine line
    simple carry isTested assignments words redirections
    answerSignals carry
    checkFailure isTested
  | .sequence statements =>
    let rec all : List Statement → Doing Unit
      | [] => pure ()
      | statement :: rest => do
        carry isTested statement
        if (← Doing.machine).skip.isNone then all rest
    all statements
  | .both first second => do
    carry true first
    let machine ← Doing.machine
    if machine.status = 0 && machine.skip.isNone then carry isTested second
  | .either first second => do
    carry true first
    let machine ← Doing.machine
    if machine.status ≠ 0 && machine.skip.isNone then carry isTested second
  | .negated statement => do
    carry true statement
    Doing.change fun machine => { machine with status := if machine.status = 0 then 1 else 0 }
  | .piped statements => do
    let input := (← Doing.machine).channel? 0
    pipeline carry isTested (input.getD .nowhere) statements
    checkFailure isTested
  | .background body => background carry body
  | .subshell line body redirections => do
    atLine line
    -- Words are expanded outside, but files are opened inside of the parentheses.
    let targets ← targets carry redirections
    let ending ← Doing.apart do
      let before := (← Doing.machine).channels
      Doing.useChannels (← Opening.openAll before targets)
      toTheEnd carry (carry isTested body)
    noteEnding ending
    Doing.setStatus ending.status
    answerSignals carry
    checkFailure isTested
  | .redirected line body redirections => do
    atLine line
    let targets ← targets carry redirections
    if !(← redirected targets (carry isTested body)) then Doing.setStatus 2
  | .conditional condition whenTrue whenFalse => do
    carry true condition
    let machine ← Doing.machine
    if machine.skip.isNone then
      if machine.status = 0 then carry isTested whenTrue
      else match whenFalse with
        | some whenFalse => carry isTested whenFalse
        | none => Doing.setStatus 0
  | .loop whileFailing condition body =>
    inLoop (loop carry isTested whileFailing condition body rounds 0)
  | .forEach line name words body => do
    atLine line
    let values := (← words.mapM (Expansion.fields (printing carry))).flatten
    let rec each : List String → Doing Unit
      | [] => pure ()
      | value :: rest => do
        Doing.assign name value
        carry isTested body
        if !(← skipLoop) then each rest
    Doing.setStatus 0
    inLoop (each values)
  | .choice line subject branches => do
    atLine line
    let text ← Expansion.text (printing carry) subject
    match ← branch? carry text branches with
    | some (some body) => carry isTested body
    | _ => Doing.setStatus 0
  | .function line name body => do
    Doing.change fun machine =>
      { machine with
        functions := (name, line, body) :: machine.functions.filter fun own => own.1 ≠ name
        status := 0 }

def execute : Nat → Carrier
  | 0, _, _ => throw .exhausted
  | depth + 1, isTested, statement => do
    let carry := execute depth
    if (← Doing.machine).hasOption 'n' then return
    answerSignals carry
    level carry isTested statement

end Interpreter

end ScenarioBench.Rehearsal.Shell

import ScenarioBench.Bench.Action
import ScenarioBench.Rehearsal.Trees
import ScenarioBench.Rehearsal.Shell.Script
import ScenarioBench.Rehearsal.Octetwise

/-! The state of a process that carries out a script, and of the world around it.

A process reads and writes through descriptors, which lead to pipes and opened files. Pipes never run
full, so the parts of a pipeline can be carried out one after the other. What runs in the background
waits as a job until time passes or something waits for it; time passes only when a process sleeps.
Texts have one character for each octet.
-/

set_option autoImplicit false

namespace ScenarioBench.Rehearsal.Shell

inductive Channel where
  | inlet (index : Nat)
  | outlet (index : Nat)
  | file (index : Nat)
  | nowhere
  | directory
  deriving DecidableEq

structure OpenFile where
  location : Location
  position : Nat
  isRead : Bool
  isWritten : Bool
  appends : Bool

/-- The value of a variable, if it is set, whether commands see it, and whether it is fixed. -/
structure Setting where
  value : Option String
  isExported : Bool
  isFixed : Bool

inductive Skip where
  | loops (levels : Nat) (goesOn : Bool)
  | function
  deriving DecidableEq

structure Process where
  channels : List (Nat × Channel)
  bindings : List (String × Setting)
  functions : List (String × Nat × Statement)
  aliases : List (String × String)
  name : String
  arguments : List String
  number : Nat
  shell : Nat
  ancestors : List Nat
  lastJob : Option Nat
  options : List Char
  status : Nat
  innerStatus : Nat
  line : Nat
  functionLine : Nat
  command : String
  /-- What is done when signals come, by their numbers; 0 stands for the end of the process. A signal
  for which nothing is done is not noticed. -/
  traps : List (Nat × String)
  skip : Option Skip
  loops : Nat
  outside : List (List (String × Option Setting))
  optionIndex : Nat
  optionPlace : Option Nat
  directory : String
  mask : Nat
  hasLost : Bool
  isUnicode : Bool

inductive Task where
  | statement (statement : Statement)
  | again (whileFailing : Bool) (condition body : Statement)
  | each (name : String) (values : List String) (body : Statement)

structure Job where
  number : Nat
  parent : Nat
  wakes : Nat
  redirections : List (Nat × Opening × String)
  tasks : List Task
  process : Process
  base : Location
  outcome : Option Nat

structure World where
  tree : FileTree
  twins : List (List Location)
  pipes : Array String
  files : Array OpenFile
  clock : Nat
  jobs : List Job
  next : Nat
  signals : List (Nat × Nat)
  inBackground : Bool

structure Machine extends Process, World

inductive Ending where
  | exit (status : Nat)
  | signal (number : Nat)
  deriving DecidableEq

namespace Ending

def status : Ending → Nat
  | exit status => status
  | signal number => 128 + number

end Ending

inductive Leave where
  | process (ending : Ending)
  | fault
  | exhausted
  deriving DecidableEq

abbrev Doing := Action Machine Leave

def reason : OsError → String
  | .notFound => "No such file or directory"
  | .permissionDenied => "Permission denied"
  | .alreadyExists => "File exists"
  | .notADirectory => "Not a directory"
  | .isADirectory => "Is a directory"
  | .tooManyLinks => "Too many levels of symbolic links"
  | .nameTooLong => "File name too long"
  | .unknownFormat => "Exec format error"
  | .badDescriptor => "Bad file descriptor"
  | _ => "Invalid argument"

namespace Machine

def channel? (machine : Machine) (descriptor : Nat) : Option Channel :=
  machine.channels.lookup descriptor

def hasOption (machine : Machine) (letter : Char) : Bool :=
  machine.options.contains letter

def ownLine (machine : Machine) : Nat :=
  if machine.functionLine = 0 then machine.line else machine.line - (machine.functionLine - 1)

def value? (machine : Machine) (name : String) : Option String :=
  if name = "LINENO" then some (toString machine.ownLine)
  else (machine.bindings.lookup name).bind (·.value)

def environment (machine : Machine) : List (String × String) :=
  machine.bindings.filterMap fun (name, setting) =>
    if setting.isExported then setting.value.map fun value => (name, value) else none

def inWorldOf (machine after : Machine) : Machine :=
  { toProcess := machine.toProcess
    toWorld := { after.toWorld with tree := after.tree.seenFrom machine.tree.base } }

def openContent? (machine : Machine) (index : Nat) : Option (OpenFile × Octets × Bool) := do
  let file ← machine.files[index]?
  match machine.tree.node? file.location with
  | some (.file content executable) => return (file, content, executable)
  | _ => none

end Machine

namespace Doing

def machine : Doing Machine :=
  Action.look

def change (change : Machine → Machine) : Doing Unit :=
  modify change

def setContent (location : Location) (content : Octets) : Doing Unit :=
  change fun machine =>
    -- Hard links: what is written under one name is read under all of them.
    let names := (machine.twins.find? fun names => names.contains location).getD [location]
    let tree := names.foldl (fun tree name =>
      match tree.node? name with
      | some (.file _ executable) => tree.place name (.file content executable)
      | _ => tree) machine.tree
    { machine with tree := tree }

def writeTo (channel : Channel) (text : String) : Doing Bool := do
  match channel with
  | .inlet index =>
    change fun machine => { machine with pipes := machine.pipes.modify index (· ++ text) }
    return true
  | .file index =>
    if !((← machine).files[index]?.any (·.isWritten)) then return false
    match (← machine).openContent? index with
    | some (file, content, _) =>
      let octets := Octetwise.toOctets text
      let position := if file.appends then content.length else file.position
      let before := content.take position
      -- A position behind the end, after the file was cut, leaves a gap of zeros.
      let gap := List.replicate (position - before.length) (0 : UInt8)
      setContent file.location (before ++ gap ++ octets ++ content.drop (position + octets.length))
      change fun machine =>
        { machine with
          files := machine.files.modify index fun file =>
            { file with position := position + octets.length } }
    | none => pure ()
    return true
  | .nowhere => return true
  | .outlet _ | .directory => return false

def write (descriptor : Nat) (text : String) : Doing Unit := do
  if text.isEmpty then return
  let isWritten ← match (← machine).channel? descriptor with
    | some channel => writeTo channel text
    | none => pure false
  if descriptor = 1 && !isWritten then change fun machine => { machine with hasLost := true }

/-- Everything that can be read from a channel; of it, a number of characters is then read. -/
def consume (channel : Channel) (count : String → Nat) : Doing (Except OsError String) := do
  let machine ← machine
  match channel with
  | .outlet index =>
    let text := machine.pipes.getD index ""
    let count := count text
    let rest := if text.length ≤ count then "" else String.ofList (text.toList.drop count)
    change fun machine => { machine with pipes := machine.pipes.modify index fun _ => rest }
    return .ok text
  | .file index =>
    if !(machine.files[index]?.any (·.isRead)) then return .error .badDescriptor
    match machine.openContent? index with
    | some (file, content, _) =>
      let text := Octetwise.ofOctets (content.drop file.position)
      change fun machine =>
        { machine with
          files := machine.files.modify index fun file =>
            { file with position := file.position + min (count text) text.length } }
      return .ok text
    | none => return .ok ""
  | .nowhere => return .ok ""
  | .inlet _ => return .error .badDescriptor
  | .directory => return .error .isADirectory

def takeInput : Doing (Except OsError String) := do
  match (← machine).channel? 0 with
  | some channel => consume channel String.length
  | none => return .error .badDescriptor

def takeLine : Doing (String × Bool) := do
  match (← machine).channel? 0 with
  | some channel =>
    let lineOf (text : String) : List Char := text.toList.takeWhile (· ≠ '\n')
    let found ← consume channel fun text => (lineOf text).length + 1
    let text := found.toOption.getD ""
    let line := lineOf text
    return (String.ofList line, decide (line.length < text.length))
  | none => return ("", false)

def newPipe (content : String) : Doing Nat := do
  let index := (← machine).pipes.size
  change fun machine => { machine with pipes := machine.pipes.push content }
  return index

def contentOf (pipe : Nat) : Doing String := do
  return (← machine).pipes.getD pipe ""

def openFile (file : OpenFile) : Doing Channel := do
  let index := (← machine).files.size
  change fun machine => { machine with files := machine.files.push file }
  return .file index

def newNumber : Doing Nat := do
  let number := (← machine).next
  change fun machine => { machine with next := number + 1 }
  return number

def complain (message : String) : Doing Unit := do
  let here ← machine
  let command := if here.command.isEmpty then "" else here.command ++ ": "
  write 2 (here.name ++ ": " ++ toString here.line ++ ": " ++ command ++ message ++ "\n")

def note (message : String) : Doing Unit :=
  write 2 (message ++ "\n")

def setStatus (status : Nat) : Doing Unit :=
  change fun machine => { machine with status := status }

def leave {α : Type} (status : Nat) : Doing α := do
  setStatus (status % 256)
  throw (.process (.exit (status % 256)))

def fail {α : Type} (message : String) : Doing α := do
  complain message
  setStatus 2
  throw .fault

def named {α : Type} (command : String) (doing : Doing α) : Doing α := fun before =>
  let (result, after) := doing { before with command := command }
  (result, { after with command := before.command })

def setBinding (name : String) (setting : Option Setting) : Doing Unit :=
  change fun machine =>
    let others := machine.bindings.filter (·.1 ≠ name)
    let after := { machine with
      bindings := (setting.map fun setting => (name, setting)).toList ++ others }
    if name = "OPTIND" then
      let index := (setting.bind (·.value)).bind String.toNat?
      { after with optionIndex := index.getD 1, optionPlace := none }
    else after

def assign (name value : String) : Doing Unit := do
  let machine ← machine
  let held := machine.bindings.lookup name
  if held.any (·.isFixed) then fail (name ++ ": is read only")
  let isExported := held.any (·.isExported) || machine.hasOption 'a'
  setBinding name (some ⟨some value, isExported, false⟩)

def adjust (name : String) (change : Setting → Setting) : Doing Unit := do
  let held := ((← machine).bindings.lookup name).getD ⟨none, false, false⟩
  setBinding name (some (change held))

def unset (name : String) : Doing Unit := do
  if ((← machine).bindings.lookup name).any (·.isFixed) then fail (name ++ ": is read only")
  setBinding name none

def path (text : String) : Path :=
  ⟨Octetwise.toOctets text⟩

def pass (time : Nat) : Doing Unit :=
  change fun machine => { machine with clock := machine.clock + time }

def withChannels {α : Type} (channels : List (Nat × Channel)) (descriptors : List Nat)
    (doing : Doing α) : Doing α := fun before =>
  let (result, after) := doing { before with channels := channels }
  let old := before.channels.filter fun entry => descriptors.contains entry.1
  let others := after.channels.filter fun entry => !descriptors.contains entry.1
  (result, { after with channels := old ++ others })

def useChannels (channels : List (Nat × Channel)) : Doing Unit :=
  change fun machine => { machine with channels := channels }

def connect (channels : List (Nat × Channel)) : Doing Unit :=
  change fun machine =>
    let others := machine.channels.filter fun entry => (channels.lookup entry.1).isNone
    { machine with channels := channels ++ others }

def endingOf (after : Machine) : Except Leave Unit → Ending
  | .ok () | .error .fault => .exit (after.status % 256)
  | .error (.process ending) => ending
  | .error .exhausted => .signal 24

/-- The machine of a process that is split off: traps are gone, except that signals which are not
noticed stay so. -/
def splitOff (before : Machine) (number : Nat) : Machine :=
  { before with
    number := number, ancestors := before.number :: before.ancestors
    traps := before.traps.filter fun trap => trap.2.isEmpty && trap.1 ≠ 0 }

/-- Do something in a process of its own: what it sets is forgotten, and what it writes stays. -/
def apart (doing : Doing Unit) : Doing Ending := fun before =>
  let own := splitOff { before with next := before.next + 1 } before.next
  let (result, after) := doing own
  let restored := before.inWorldOf after
  match result with
  -- Running out of steps is no ending of a process, and ends the whole rehearsal.
  | .error .exhausted => (.error .exhausted, restored)
  | _ => (.ok (endingOf after result), restored)

end Doing

end ScenarioBench.Rehearsal.Shell

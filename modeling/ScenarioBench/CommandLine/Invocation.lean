import ScenarioBench.CommandLine.Reader
import ScenarioBench.Files.Path
import ScenarioBench.Launch.Check
import ScenarioBench.Launch.Sample

/-! The commands of the bench. -/

set_option autoImplicit false

namespace ScenarioBench.CommandLine

structure LaunchTarget where
  context : Option JobContext
  toolkit : Option Path
  dryRun : Bool
  deriving DecidableEq, Repr

structure RunRequest where
  tests : List String
  file : Option Path
  root : Option Path
  stopOnFail : Bool
  filter : Option String
  timeout : Option Nat
  verbose : Bool
  deriving DecidableEq, Repr

structure CompositeRequest where
  kind : String
  name : Option String
  toolkits : List Path
  parameters : List (String × String)
  expect : Option String
  trace : Option TraceLevel
  deriving DecidableEq, Repr

structure VerifyRequest where
  checks : List CompositeCheck
  testToolkit : Option Path
  parameters : List (String × String)
  deriving DecidableEq, Repr

inductive Request where
  | run (request : RunRequest)
  | list (targets : Bool)
  | checkEnvironment (scenarios : List String)
  | launch (sample : Sample) (target : LaunchTarget)
  | launchComposite (request : CompositeRequest) (target : LaunchTarget)
  | verify (request : VerifyRequest) (target : LaunchTarget)
  deriving DecidableEq, Repr

structure Invocation where
  config : Option Path
  request : Request
  deriving DecidableEq, Repr

def valued (name : String) (kind : ValueKind) : Argument :=
  { name := name, letter := none, word := some name, effect := .value kind false }

def configOption : Argument := valued "config" .path

def helpOption : Argument :=
  { name := "help", letter := some 'h', word := some "help", effect := .help }

def versionOption : Argument :=
  { name := "version", letter := some 'V', word := some "version", effect := .version }

def flagOption (name : String) (letter : Option Char) : Argument :=
  { name := name, letter := letter, word := some name, effect := .flag }

def settingOption : Argument :=
  { name := "param", letter := some 'P', word := none, effect := .value .setting true }

def positional (name : String) (kind : ValueKind) (repeats : Bool) : Argument :=
  { name := name, letter := none, word := none, effect := .value kind repeats }

def targetOptions : List Argument :=
  [valued "context" (.choice (JobContext.table.map JobContext.spelling)), valued "toolkit" .path,
   flagOption "dry-run" none]

def commandLevel (options positionals : List Argument) (required : List String) : Grammar :=
  { options := options ++ [configOption, helpOption], positionals := positionals, commands := []
    required := required, conflicts := [] }

def runLevel : Grammar :=
  commandLevel
    [{ name := "test", letter := some 't', word := some "test", effect := .value .text true },
     { name := "file", letter := some 'f', word := some "file", effect := .value .path false },
     valued "root" .path, flagOption "exitfirst" (some 'x'),
     { name := "filter", letter := some 'k', word := none, effect := .value .text false },
     valued "timeout" .natural, flagOption "verbose" (some 'v')] [] []

def listLevel : Grammar :=
  commandLevel [flagOption "targets" none] [] []

def checkEnvironmentLevel : Grammar :=
  commandLevel [] [positional "scenario" .text true] []

def launchLevel : Grammar :=
  commandLevel targetOptions
    [positional "sample" (.choice (Sample.table.map Sample.spelling)) false] ["sample"]

def launchCompositeLevel : Grammar :=
  { commandLevel
      ([valued "name" .text,
        { name := "with-toolkit", letter := none, word := some "with-toolkit"
          effect := .value .path true },
        settingOption, valued "expect" .text,
        valued "trace" (.choice (TraceLevel.table.map TraceLevel.spelling))] ++ targetOptions)
      [positional "kind" .text false] ["kind"] with
    conflicts := [("expect", "dry-run")] }

def verifyLevel : Grammar :=
  commandLevel ([valued "test-toolkit" .path, settingOption] ++ targetOptions)
    [positional "check" (.choice (CompositeCheck.table.map CompositeCheck.spelling)) true] []

def commands : List (String × Grammar) :=
  [("run", runLevel), ("list", listLevel), ("check-env", checkEnvironmentLevel),
   ("launch", launchLevel), ("launch-composite", launchCompositeLevel), ("verify", verifyLevel)]

def topLevel : Grammar :=
  { options := [configOption, helpOption, versionOption], positionals := []
    commands := commands.map (·.1) ++ [helpCommand], required := [], conflicts := [] }

def levelOf (command : String) : Grammar :=
  (commands.lookup command).getD (commandLevel [] [] [])

namespace Given

def path? (given : Given) (name : String) : Option Path :=
  (given.values name).head?.map Path.mk

def settings (given : Given) : List (String × String) :=
  (given.texts "param").filterMap readSetting?

def target (given : Given) : LaunchTarget where
  context := (given.text? "context").bind JobContext.ofSpelling?
  toolkit := given.path? "toolkit"
  dryRun := given.has "dry-run"

def runRequest (given : Given) : RunRequest where
  tests := given.texts "test"
  file := given.path? "file"
  root := given.path? "root"
  stopOnFail := given.has "exitfirst"
  filter := given.text? "filter"
  timeout := (given.text? "timeout").bind readNatural?
  verbose := given.has "verbose"

def compositeRequest (given : Given) : CompositeRequest where
  kind := (given.text? "kind").getD ""
  name := given.text? "name"
  toolkits := (given.values "with-toolkit").map Path.mk
  parameters := given.settings
  expect := given.text? "expect"
  trace := (given.text? "trace").bind TraceLevel.ofSpelling?

def verifyRequest (given : Given) : VerifyRequest where
  checks := (given.texts "check").filterMap CompositeCheck.ofSpelling?
  testToolkit := given.path? "test-toolkit"
  parameters := given.settings

def request? (given : Given) (command : String) : Option Request :=
  match command with
  | "run" => some (.run given.runRequest)
  | "list" => some (.list (given.has "targets"))
  | "check-env" => some (.checkEnvironment (given.texts "scenario"))
  | "launch" =>
    ((given.text? "sample").bind Sample.ofSpelling?).map fun sample => .launch sample given.target
  | "launch-composite" => some (.launchComposite given.compositeRequest given.target)
  | "verify" => some (.verify given.verifyRequest given.target)
  | _ => none

end Given

namespace Invocation

/-- Read the arguments of the program. A configuration file that is named behind the command goes
before one that is named before it. -/
def ofArguments (arguments : List Octets) : Except Stop Invocation := do
  let (outer, command, inner) ← read topLevel levelOf arguments
  match inner.request? command with
  | some request =>
    return { config := (inner.path? "config").orElse fun _ => outer.path? "config"
             request := request }
  | none => throw .unknownCommand

end Invocation

end ScenarioBench.CommandLine

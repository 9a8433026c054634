import ScenarioBench.Bench.Wait
import ScenarioBench.Files.Tree
import ScenarioBench.Launch.JobContext
import ScenarioBench.Toml.Reader
import ScenarioBench.Vocabulary.Composite
import ScenarioBench.Vocabulary.Names

/-! The configuration of the bench.

A configuration file has two sections, both optional, with optional keys. A key that is not known is
refused. Of several faults the first one in the order of the file is reported.
-/

set_option autoImplicit false

namespace ScenarioBench

structure HarnessSettings where
  root : Path
  timeoutSeconds : Nat
  pollMilliseconds : Nat
  make : String
  logArchives : String
  deriving DecidableEq, Repr

namespace HarnessSettings

def standard : HarnessSettings where
  root := .ofText "."
  timeoutSeconds := defaultTimeoutSeconds
  pollMilliseconds := defaultPollSeconds * 1000
  make := "make"
  logArchives := Marker.logArchives

def fields : List String :=
  ["root", "wait_timeout_secs", "poll_interval_ms", "make", "log_archive_pattern"]

def set (settings : HarnessSettings) (key : String) (value : Toml) :
    Except Toml.Fault HarnessSettings := do
  match key with
  | "root" => return { settings with root := .ofText (← value.expectString "path string") }
  | "wait_timeout_secs" => return { settings with timeoutSeconds := ← value.expectNatural }
  | "poll_interval_ms" => return { settings with pollMilliseconds := ← value.expectNatural }
  | "make" => return { settings with make := ← value.expectString "a string" }
  | "log_archive_pattern" => return { settings with logArchives := ← value.expectString "a string" }
  | other => throw (.unknownField other fields)

def ofToml (value : Toml) : Except Toml.Fault HarnessSettings := do
  let entries ← value.recordEntries "struct HarnessSection" fields
  entries.foldlM (fun settings (key, value) => settings.set key value) standard

def waiter (settings : HarnessSettings) : Waiter :=
  .make (settings.timeoutSeconds * Waiter.nanosecondsPerSecond)
    (settings.pollMilliseconds * Waiter.nanosecondsPerMillisecond)

/-- Whether two settings agree, their paths by their parts. -/
def same (first second : HarnessSettings) : Bool :=
  first.root.same second.root && decide ({ first with root := second.root } = second)

end HarnessSettings

structure LauncherSettings where
  toolkit : Path
  output : Path
  compiler : String
  streamtool : String
  context : JobContext
  deriving DecidableEq, Repr

namespace LauncherSettings

def standard : LauncherSettings where
  toolkit := .ofText Composite.monitoringToolkit
  output := .ofText "output"
  compiler := "sc"
  streamtool := "streamtool"
  context := .distributed

def fields : List String :=
  ["toolkit", "output_dir", "sc", "streamtool", "context"]

def expectContext (value : Toml) : Except Toml.Fault JobContext := do
  let name ← value.expectVariant (JobContext.table.map JobContext.spelling)
  match JobContext.ofSpelling? name with
  | some context => return context
  | none => throw .noVariant

def set (settings : LauncherSettings) (key : String) (value : Toml) :
    Except Toml.Fault LauncherSettings := do
  match key with
  | "toolkit" => return { settings with toolkit := .ofText (← value.expectString "path string") }
  | "output_dir" => return { settings with output := .ofText (← value.expectString "path string") }
  | "sc" => return { settings with compiler := ← value.expectString "a string" }
  | "streamtool" => return { settings with streamtool := ← value.expectString "a string" }
  | "context" => return { settings with context := ← expectContext value }
  | other => throw (.unknownField other fields)

def ofToml (value : Toml) : Except Toml.Fault LauncherSettings := do
  let entries ← value.recordEntries "struct LauncherSection" fields
  entries.foldlM (fun settings (key, value) => settings.set key value) standard

def same (first second : LauncherSettings) : Bool :=
  first.toolkit.same second.toolkit && first.output.same second.output
    && decide ({ first with toolkit := second.toolkit, output := second.output } = second)

end LauncherSettings

structure Config where
  harness : HarnessSettings
  launcher : LauncherSettings
  deriving DecidableEq, Repr

inductive ConfigError where
  | read (path : Path) (cause : OsError)
  | refused (path : Path) (fault : Toml.Fault)
  deriving Repr

namespace ConfigError

def message : ConfigError → String
  | read path cause => "cannot read config " ++ path.display ++ ": " ++ cause.message
  | refused path fault => "invalid config " ++ path.display ++ ": " ++ fault.message

end ConfigError

namespace Config

def standard : Config :=
  { harness := .standard, launcher := .standard }

def sections : List String :=
  ["harness", "launcher"]

def set (config : Config) (name : String) (value : Toml) : Except Toml.Fault Config := do
  match name with
  | "harness" => return { config with harness := ← HarnessSettings.ofToml value }
  | "launcher" => return { config with launcher := ← LauncherSettings.ofToml value }
  | other => throw (.unknownField other sections)

def ofEntries (entries : List (String × Toml)) : Except Toml.Fault Config :=
  entries.foldlM (fun config (name, value) => config.set name value) standard

def ofText (text : String) : Except Toml.Fault Config :=
  match Toml.read? text with
  | some entries => ofEntries entries
  | none => .error .malformed

def ofFile (tree : FileTree) (path : Path) : Except ConfigError Config := do
  let text ← (tree.readText path).mapError (.read path ·)
  (ofText text).mapError (.refused path ·)

/-- The configuration of the named file, else of the default file if it is there, else the standard
one. -/
def load (tree : FileTree) : Option Path → Except ConfigError Config
  | some path => ofFile tree path
  | none =>
    if tree.isFile (.ofText defaultConfigFile) then ofFile tree (.ofText defaultConfigFile)
    else .ok standard

def same (first second : Config) : Bool :=
  first.harness.same second.harness && first.launcher.same second.launcher

end Config

end ScenarioBench

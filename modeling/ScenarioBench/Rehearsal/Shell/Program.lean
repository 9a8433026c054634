import ScenarioBench.Rehearsal.Shell.Utilities.Columns
import ScenarioBench.Rehearsal.Shell.Utilities.Comparison
import ScenarioBench.Rehearsal.Shell.Utilities.Contents
import ScenarioBench.Rehearsal.Shell.Utilities.Editing
import ScenarioBench.Rehearsal.Shell.Utilities.Listing
import ScenarioBench.Rehearsal.Shell.Utilities.Numbers
import ScenarioBench.Rehearsal.Shell.Utilities.Searching
import ScenarioBench.Rehearsal.Shell.Utilities.Sorting
import ScenarioBench.Rehearsal.Shell.Utilities.Starting

/-! Finding programs.

A program is a file that may be run and whose first line names the program that reads it. The shell
and the utilities stand in the directories of the system.
-/

set_option autoImplicit false

namespace ScenarioBench.Rehearsal.Shell

inductive Program where
  | shell
  | utility (utility : Launcher → Utility)

structure Start where
  program : Program
  name : String
  arguments : List String

namespace Program

def systemDirectories : List String :=
  ["/bin/", "/usr/bin/"]

def plainUtilities : List (String × Utility) :=
  [("[", Utility.test true), ("basename", Utility.basename), ("cat", Utility.cat),
   ("chmod", Utility.chmod), ("cmp", Utility.cmp), ("comm", Utility.comm), ("cp", Utility.cp),
   ("cut", Utility.cut), ("diff", Utility.diff), ("dirname", Utility.dirname),
   ("echo", Utility.echo), ("egrep", Utility.egrep), ("expand", Utility.expand),
   ("expr", Utility.expr), ("false", fun _ => return 1), ("fgrep", Utility.fgrep),
   ("fold", Utility.fold), ("grep", Utility.grep), ("head", Utility.head),
   ("id", Utility.identify), ("ln", Utility.ln), ("ls", Utility.ls), ("mkdir", Utility.mkdir),
   ("mv", Utility.mv), ("nl", Utility.nl), ("paste", Utility.paste),
   ("printenv", Utility.printenv), ("printf", Utility.printf), ("pwd", Utility.pwd),
   ("readlink", Utility.readlink), ("realpath", Utility.realpath), ("rev", Utility.rev),
   ("rm", Utility.rm), ("rmdir", Utility.rmdir), ("sed", Utility.sed), ("seq", Utility.seq),
   ("sleep", Utility.sleep), ("sort", Utility.sort), ("tac", Utility.tac), ("tail", Utility.tail),
   ("tee", Utility.tee), ("test", Utility.test false), ("touch", Utility.touch),
   ("tr", Utility.tr), ("true", fun _ => return 0), ("tty", Utility.tty),
   ("uname", Utility.uname), ("uniq", Utility.uniq), ("wc", Utility.wc),
   ("whoami", Utility.whoami), ("yes", Utility.yes)]

def startingUtilities : List (String × (Launcher → Utility)) :=
  [("env", Utility.env), ("find", Utility.find), ("nice", Utility.nice), ("nohup", Utility.nohup),
   ("setsid", Utility.setsid), ("timeout", Utility.timeout), ("xargs", Utility.xargs)]

def utilities : List (String × (Launcher → Utility)) :=
  plainUtilities.map (fun known => (known.1, fun _ => known.2)) ++ startingUtilities

def ofSystem? (path : String) : Option Program := do
  let directory ← systemDirectories.find? fun directory => path.startsWith directory
  let name := String.ofList (path.toList.drop directory.length)
  if name = "sh" || name = "dash" then return .shell
  let utility ← utilities.lookup name
  return .utility utility

def interpreter? (content : String) : Option (String × Option String) :=
  let isBlank (character : Char) : Bool := character = ' ' || character = '\t'
  match content.toList with
  | '#' :: '!' :: rest =>
    let line := (rest.takeWhile (· ≠ '\n')).dropWhile isBlank
    let trimmed := (line.reverse.dropWhile isBlank).reverse
    let name := trimmed.takeWhile fun character => !isBlank character
    let argument := (trimmed.drop name.length).dropWhile isBlank
    if name.isEmpty then none
    else some (String.ofList name,
      if argument.isEmpty then none else some (String.ofList argument))
  | _ => none

def interpreterDepth : Nat := 5

def start (tree : FileTree) : Nat → (path : String) → (name : String) → List String →
    Except OsError Start
  | 0, _, _, _ => .error .tooManyLinks
  | depth + 1, path, name, arguments =>
    match ofSystem? path with
    | some program => .ok ⟨program, name, arguments⟩
    | none => do
      match ← tree.nodeAt (Doing.path path) with
      | (_, .file content true) =>
        match interpreter? (Octetwise.ofOctets content) with
        | some (interpreter, argument) =>
          -- Everything behind the interpreter is one argument, with the blanks in it.
          start tree depth interpreter interpreter (argument.toList ++ path :: arguments)
        | none => throw .unknownFormat
      | _ => throw .permissionDenied

def searchPath (search : Option String) : List String :=
  match search with
  | some directories => directories.splitOn ":"
  | none => ["/bin", "/usr/bin"]

/-- Where a program of a name may be: the name itself if it has a slash, otherwise below each
directory of the search. -/
def candidates (search : Option String) (name : String) : List String :=
  if name.toList.contains '/' then [name]
  else (searchPath search).map fun directory =>
    if directory.isEmpty then name
    else if directory.endsWith "/" then directory ++ name
    else directory ++ "/" ++ name

/-- Start the first program that can be started. A file that may not be run is the reason for a
failure only if nothing else can be started. -/
def startFirst (tree : FileTree) (name : String) (arguments : List String) :
    (refusal : OsError) → List String → Except OsError Start
  | refusal, [] => .error refusal
  | refusal, path :: others =>
    match start tree interpreterDepth path name arguments with
    | .ok found => .ok found
    | .error cause =>
      match cause with
      | .permissionDenied => startFirst tree name arguments .permissionDenied others
      | .notFound | .notADirectory => startFirst tree name arguments refusal others
      | _ => .error cause

/-- Find and start a program. Below every directory, one dot and two dots are directories. -/
def find (tree : FileTree) (search : Option String) (name : String) (arguments : List String) :
    Except OsError Start :=
  if name.isEmpty then .error .notFound
  else if FileTree.maximumName < name.length && !name.toList.contains '/' then .error .nameTooLong
  else if name = "." || name = ".." then .error .permissionDenied
  else if name.toList.contains '/' then start tree interpreterDepth name name arguments
  else startFirst tree name arguments .notFound (candidates search name)

end Program

end ScenarioBench.Rehearsal.Shell

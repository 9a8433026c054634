import ScenarioBench.Rehearsal.Shell.Condition
import ScenarioBench.Rehearsal.Shell.Utility

/-! Utilities that work on paths as texts and on where they lead. -/

set_option autoImplicit false

namespace ScenarioBench.Rehearsal.Shell.Utility

def trimSlashes (text : String) : String :=
  String.ofList (text.toList.reverse.dropWhile (· = '/')).reverse

def lastName (path : String) : String :=
  let trimmed := trimSlashes path
  if trimmed.isEmpty then (if path.isEmpty then "" else "/") else Path.lastSegment trimmed

def directoryOf (path : String) : String :=
  let trimmed := trimSlashes path
  if trimmed.isEmpty then (if path.isEmpty then "." else "/")
  else
    let before := (trimmed.toList.reverse.dropWhile (· ≠ '/')).reverse
    if before.isEmpty then "."
    else
      let directory := trimSlashes (String.ofList before)
      if directory.isEmpty then "/" else directory

def inside (directory name : String) : String :=
  if directory.endsWith "/" then directory ++ name else directory ++ "/" ++ name

def missingOperand {α : Type} (usage : Usage) (what : String) : Doing α :=
  misused usage ("missing " ++ what)

def withoutEnding (ending name : String) : String :=
  if name ≠ ending && name.endsWith ending then
    String.ofList (name.toList.take (name.length - ending.length))
  else name

def basename : Utility := fun arguments => do
  let usage : Usage := ⟨"basename", [('a', .nothing), ('s', .value), ('z', .nothing)],
    [("multiple", 'a'), ("suffix", 's'), ("zero", 'z')], true, 1⟩
  let given ← given usage arguments
  let closing := if given.has 'z' then "\x00" else "\n"
  let print (ending : String) (paths : List String) : Doing Nat := do
    Doing.write 1 (String.join (paths.map fun path =>
      withoutEnding ending (lastName path) ++ closing))
    return 0
  match given.operands, given.has 'a' || given.has 's' with
  | [], _ => missingOperand usage "operand"
  | paths, true => print ((given.value? 's').getD "") paths
  | [path], false => print "" [path]
  | [path, ending], false => print ending [path]
  | _ :: _ :: extra :: _, false => misused usage ("extra operand " ++ (← quoteName extra))

def dirname : Utility := fun arguments => do
  let usage : Usage := ⟨"dirname", [('z', .nothing)], [("zero", 'z')], false, 1⟩
  let given ← given usage arguments
  let closing := if given.has 'z' then "\x00" else "\n"
  match given.operands with
  | [] => missingOperand usage "operand"
  | paths =>
    Doing.write 1 (String.join (paths.map fun path => directoryOf path ++ closing))
    return 0

def workingDirectory : Doing String := do
  return Octetwise.ofOctets (← Doing.machine).tree.basePath.octets

def pwd : Utility := fun arguments => do
  let _ ← given ⟨"pwd", [('L', .nothing), ('P', .nothing)],
    [("logical", 'L'), ("physical", 'P')], false, 1⟩ arguments
  Doing.write 1 ((← workingDirectory) ++ "\n")
  return 0

/-- The absolute path without links of where a path leads; its last name need not be there. -/
def resolve (path : String) : Doing (Except OsError String) := do
  let written (location : Location) : String :=
    Octetwise.ofOctets (FileTree.pathOf location).octets
  let trimmed := if (trimSlashes path).isEmpty then path else trimSlashes path
  match (← Doing.machine).tree.follow (Doing.path trimmed) with
  | .ok (.taken location _) => return .ok (written location)
  | .ok (.free directory name) => return .ok (written (name :: directory))
  | .error cause => return .error cause

def resolveExisting (path : String) : Doing (Except OsError String) := do
  match (← Doing.machine).tree.nodeAt (Doing.path path) with
  | .ok (location, _) => return .ok (Octetwise.ofOctets (FileTree.pathOf location).octets)
  | .error cause => return .error cause

def readlink : Utility := fun arguments => do
  let usage : Usage := ⟨"readlink",
    ['f', 'e', 'm', 'n', 'q', 's', 'v', 'z'].map fun letter => (letter, .nothing),
    [("canonicalize", 'f'), ("canonicalize-existing", 'e'), ("canonicalize-missing", 'm'),
     ("no-newline", 'n'), ("quiet", 'q'), ("silent", 's'), ("verbose", 'v'), ("zero", 'z')],
    false, 1⟩
  let given ← given usage arguments
  if given.operands.isEmpty then missingOperand usage "operand"
  let closing := if given.has 'n' && given.operands.length = 1 then ""
    else if given.has 'z' then "\x00" else "\n"
  forAll given.operands fun path => do
    let found ← match given.lastOf ['f', 'e', 'm'] with
      | some 'e' => resolveExisting path
      | some _ => resolve path
      | none => do
        match Condition.unfollowed? (← Doing.machine).tree (Doing.path path) with
        | some (_, .link target) => pure (.ok (Octetwise.ofOctets target.octets))
        | some _ => pure (.error .invalidText)
        | none => pure (.error .notFound)
    match found with
    | .ok target => do
      Doing.write 1 (target ++ closing)
      return 0
    | .error cause => do
      if given.has 'v' then complain "readlink" (path ++ ": " ++ reason cause)
      return 1

def realpath : Utility := fun arguments => do
  let usage : Usage := ⟨"realpath",
    ['e', 'm', 'L', 'P', 'q', 's', 'z'].map fun letter => (letter, .nothing),
    [("canonicalize-existing", 'e'), ("canonicalize-missing", 'm'), ("quiet", 'q'),
     ("strip", 's'), ("no-symlinks", 's'), ("zero", 'z')], false, 1⟩
  let given ← given usage arguments
  if given.operands.isEmpty then missingOperand usage "operand"
  forAll given.operands fun path => do
    match ← if given.has 'e' then resolveExisting path else resolve path with
    | .ok target => do
      Doing.write 1 (target ++ if given.has 'z' then "\x00" else "\n")
      return 0
    | .error cause => do
      if !given.has 'q' then
        let shown := if path.isEmpty then "''" else path
        complain "realpath" (shown ++ ": " ++ reason cause)
      return 1

end ScenarioBench.Rehearsal.Shell.Utility

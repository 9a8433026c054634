import ScenarioBench.Rehearsal.Shell.Condition
import ScenarioBench.Rehearsal.Shell.Machine

/-! Opening files for descriptors. -/

set_option autoImplicit false

namespace ScenarioBench.Rehearsal.Shell.Opening

def complaint (verb target missing : String) (cause : OsError) : String :=
  let why := match cause with
    | .notFound | .notADirectory => missing
    | other => reason other
  "cannot " ++ verb ++ " " ++ target ++ ": " ++ why

def isDescriptor (target : String) : Bool :=
  match target.toList with
  | [letter] => letter = '-' || letter.isDigit
  | _ => false

def copied? (channels : List (Nat × Channel)) (target : String) : Doing (Option Channel) := do
  if target = "-" then return none
  match target.toNat?.bind fun descriptor => channels.lookup descriptor with
  | some channel => return some channel
  | none => Doing.fail (target ++ ": Bad file descriptor")

def ofSystem? (target : String) : Option Nat :=
  match target with
  | "/dev/stdin" => some 0
  | "/dev/stdout" => some 1
  | "/dev/stderr" => some 2
  | _ => if target.startsWith "/dev/fd/" then (String.ofList (target.toList.drop 8)).toNat? else none

def writable (tree : FileTree) (path : Path) : Except OsError (Location × FileTree) := do
  match ← tree.followNew path with
  | .free directory name => return (name :: directory, tree.place (name :: directory) (.file [] false))
  | .taken location (.file ..) => return (location, tree)
  | .taken .. => throw .isADirectory

def touch (path : Path) : Doing (Except OsError Location) := do
  let before := (← Doing.machine).tree
  match writable before path with
  | .ok (location, tree) =>
    Doing.change fun machine =>
      -- A file that is made anew is no twin of what stood at its place before.
      let twins := if (before.node? location).isSome then machine.twins
        else machine.twins.map fun names => names.filter (· ≠ location)
      { machine with tree := tree, twins := twins }
    return .ok location
  | .error cause => return .error cause

def openFile (opening : Opening) (target : String) : Doing Channel := do
  let tree := (← Doing.machine).tree
  let path := Doing.path target
  if opening = .read then
    match tree.nodeAt path with
    | .ok (location, .file ..) => Doing.openFile ⟨location, 0, true, false, false⟩
    | .ok _ => return .directory
    | .error cause => Doing.fail (complaint "open" target "No such file" cause)
  else
    -- Under `noclobber`, only `>|` replaces a file.
    if opening = .write && (← Doing.machine).hasOption 'C' && tree.isFile path then
      Doing.fail (complaint "create" target "Directory nonexistent" .alreadyExists)
    match ← touch path with
    | .ok location =>
      if opening = .write || opening = .replace then Doing.setContent location []
      Doing.openFile ⟨location, 0, opening = .update, true, opening = .append⟩
    | .error cause => Doing.fail (complaint "create" target "Directory nonexistent" cause)

def channel? (channels : List (Nat × Channel)) (opening : Opening) (target : String) :
    Doing (Option Channel) := do
  match opening with
  | .duplicate => copied? channels target
  | .document => (some ∘ Channel.outlet) <$> Doing.newPipe target
  | _ =>
    if target = Condition.nowhere then return some .nowhere
    match (ofSystem? target).bind fun descriptor => channels.lookup descriptor with
    | some channel => return some channel
    | none => some <$> openFile opening target

def openAll (channels : List (Nat × Channel)) :
    List (Nat × Opening × Doing String) → Doing (List (Nat × Channel))
  | [] => return channels
  | (descriptor, opening, target) :: rest => do
    let others := channels.filter (·.1 ≠ descriptor)
    match ← channel? channels opening (← target) with
    | some channel => openAll ((descriptor, channel) :: others) rest
    | none => openAll others rest

end ScenarioBench.Rehearsal.Shell.Opening

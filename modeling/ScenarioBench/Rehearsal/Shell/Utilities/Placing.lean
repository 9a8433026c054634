import ScenarioBench.Rehearsal.Shell.Builtin.Plain
import ScenarioBench.Rehearsal.Shell.Opening
import ScenarioBench.Rehearsal.Shell.Utilities.Naming

/-! Utilities that make, copy, move and remove files and directories. -/

set_option autoImplicit false

namespace ScenarioBench.Rehearsal.Shell.Utility

def spot (tree : FileTree) (path : String) : Except OsError Spot := do
  FileTree.checkPath (Doing.path path)
  FileTree.walk tree false FileTree.maximumLinks (tree.start (Doing.path path))
    (FileTree.steps (Doing.path path))

def placeOf (path : String) : Doing (Except OsError (Location × Node)) := do
  match spot (← Doing.machine).tree path with
  | .ok (.taken location node) => return .ok (location, node)
  | .ok (.free ..) => return .error .notFound
  | .error cause => return .error cause

def remove (location : Location) : Doing Unit :=
  Doing.change fun machine =>
    let isGone (other : Location) : Bool := location.isSuffixOf other
    let tree := machine.tree
    { machine with
      tree := tree.keep fun entry => !isGone entry.1
      twins := machine.twins.map fun names => names.filter fun name => !isGone name }

def put (location : Location) (node : Node) : Doing Unit :=
  Doing.change fun machine => { machine with tree := machine.tree.place location node }

def movedLocation (source target location : Location) : Location :=
  if source.isSuffixOf location then location.take (location.length - source.length) ++ target
  else location

def relocate (source target : Location) : Doing Unit := do
  if source = target then return
  -- What stood at the target would otherwise stand there twice.
  remove target
  Doing.change fun machine =>
    { machine with
      tree := machine.tree.move (movedLocation source target)
      twins := machine.twins.map fun names => names.map (movedLocation source target) }

def areTwins (machine : Machine) (first second : Location) : Bool :=
  first = second || machine.twins.any fun names => names.contains first && names.contains second

/-! ### Directories -/

def mkdirUsage : Usage where
  name := "mkdir"
  letters := [('p', .nothing), ('v', .nothing), ('m', .value), ('Z', .nothing)]
  words := [("parents", 'p'), ("verbose", 'v'), ("mode", 'm')]
  stops := false
  misuse := 1

def makeDirectory (path : String) : Doing (Except OsError Unit) := do
  let trimmed := if (trimSlashes path).isEmpty then path else trimSlashes path
  match spot (← Doing.machine).tree trimmed with
  | .ok (.free directory name) => do
    put (name :: directory) .directory
    return .ok ()
  | .ok (.taken ..) => return .error .alreadyExists
  | .error cause => return .error cause

def stages (path : String) : List String :=
  let parts := (trimSlashes path).splitOn "/"
  let whole (count : Nat) : String := "/".intercalate (parts.take (count + 1))
  ((List.range parts.length).map whole).filter fun stage => !stage.isEmpty && !stage.endsWith "/"

/-- Make a directory and the missing ones above it: the ones that were made, and the one that could
not be made. -/
def makeAll : List String → Doing (List String × Option (String × OsError))
  | [] => return ([], none)
  | stage :: rest => do
    match ← makeDirectory stage with
    | .ok () => do
      let (made, failed) ← makeAll rest
      return (stage :: made, failed)
    | .error .alreadyExists =>
      if (← Doing.machine).tree.isDirectory (Doing.path stage) then makeAll rest
      else return ([], some (stage, if rest.isEmpty then .alreadyExists else .notADirectory))
    | .error cause => return ([], some (stage, cause))

def mkdir : Utility := fun arguments => do
  let given ← given mkdirUsage arguments
  if given.operands.isEmpty then missingOperand mkdirUsage "operand"
  forAll given.operands fun path => do
    let (made, failed) ←
      if given.has 'p' && !path.isEmpty then makeAll (stages path)
      else do
        match ← makeDirectory path with
        | .ok () => pure ([path], none)
        | .error cause => pure ([], some (path, cause))
    if given.has 'v' then
      Doing.write 1 (unlines (← made.mapM fun directory => do
        return "mkdir: created directory " ++ (← quote directory)))
    match failed with
    | none => return 0
    | some (place, cause) => do
      complain "mkdir" ("cannot create directory " ++ (← quoteName place) ++ ": " ++ reason cause)
      return 1

def notEmpty : String := "Directory not empty"

def removeDirectory (path : String) : Doing (Option String) := do
  let tree := (← Doing.machine).tree
  match ← placeOf path with
  | .ok (location, .directory) =>
    if lastName path = "." then return some "Invalid argument"
    else if lastName path = ".." || !(tree.children location).isEmpty then return some notEmpty
    else do
      remove location
      return none
  | .ok _ => return some (reason .notADirectory)
  | .error cause => return some (reason cause)

def ancestry (path : String) : List String :=
  (stages path).reverse

def removeInTurn (isVerbose toleratesContent : Bool) : List String → Doing Nat
  | [] => return 0
  | path :: rest => do
    if isVerbose then
      Doing.write 1 ("rmdir: removing directory, " ++ (← quote path) ++ "\n")
    match ← removeDirectory path with
    | none => removeInTurn isVerbose toleratesContent rest
    | some why => do
      if toleratesContent && why = notEmpty then return 0
      complain "rmdir" ("failed to remove " ++ (← quote path) ++ ": " ++ why)
      return 1

def rmdir : Utility := fun arguments => do
  let usage : Usage := ⟨"rmdir", [('p', .nothing), ('v', .nothing), ('i', .nothing)],
    [("parents", 'p'), ("verbose", 'v'), ("ignore-fail-on-non-empty", 'i')], false, 1⟩
  let given ← given usage arguments
  if given.operands.isEmpty then missingOperand usage "operand"
  forAll given.operands fun path =>
    removeInTurn (given.has 'v') (given.has 'i') (if given.has 'p' then ancestry path else [path])

/-! ### Removing -/

def namesIn (tree : FileTree) (directory : Location) : List String :=
  ((tree.children directory).map fun child => Octetwise.ofOctets child.1).mergeSort
    fun first second => decide (first ≤ second)

def below (directory : Location) (name : String) : Location :=
  Octetwise.toOctets name :: directory

def removeTree (isVerbose : Bool) : Nat → String → Location → Node → Doing Unit
  | 0, _, _, _ => return
  | depth + 1, path, location, node => do
    if node.isDirectory then
      let tree := (← Doing.machine).tree
      (namesIn tree location).forM fun name =>
        match tree.node? (below location name) with
        | some inner => removeTree isVerbose depth (inside path name) (below location name) inner
        | none => pure ()
    remove location
    if isVerbose then
      let what := if node.isDirectory then "removed directory " else "removed "
      Doing.write 1 (what ++ (← quote path) ++ "\n")

def rmUsage : Usage where
  name := "rm"
  letters := ['d', 'f', 'i', 'I', 'r', 'R', 'v'].map fun letter => (letter, .nothing)
  words := [("dir", 'd'), ("force", 'f'), ("recursive", 'r'), ("verbose", 'v')]
  stops := false
  misuse := 1

def treeDepth : Nat := 1000

def rm : Utility := fun arguments => do
  let given ← given rmUsage arguments
  let isForced := given.has 'f'
  let isDeep := given.has 'r' || given.has 'R'
  if given.operands.isEmpty then
    if isForced then return 0 else missingOperand rmUsage "operand"
  forAll given.operands fun path => do
    let refuse (why : String) : Doing Nat := do
      complain "rm" ("cannot remove " ++ (← quote path) ++ ": " ++ why)
      return 1
    match ← placeOf path with
    | .error cause =>
      if isForced && (cause = .notFound || cause = .notADirectory) then return 0
      else refuse (reason cause)
    | .ok (location, node) =>
      if !node.isDirectory then
        removeTree (given.has 'v') 1 path location node
        return 0
      if !isDeep && !given.has 'd' then return (← refuse (reason .isADirectory))
      if lastName path = "." || lastName path = ".." then
        complain "rm" ("refusing to remove '.' or '..' directory: skipping " ++ (← quote path))
        return 1
      let tree := (← Doing.machine).tree
      if !isDeep && !(tree.children location).isEmpty then return (← refuse notEmpty)
      removeTree (given.has 'v') treeDepth (if isDeep then trimSlashes path else path) location node
      return 0

/-! ### Copying -/

structure Copying where
  isDeep : Bool
  keepsLinks : Bool
  keepsModes : Bool
  keepsTargets : Bool
  isVerbose : Bool

def cannotCopy (message : String) : Doing Nat := do
  complain "cp" message
  return 1

def Copying.announce (copying : Copying) (source target : String) : Doing Unit := do
  if copying.isVerbose then
    Doing.write 1 ((← quote source) ++ " -> " ++ (← quote target) ++ "\n")

def Copying.file (copying : Copying) (source target : String) (location : Location)
    (content : Octets) (executable : Bool) : Doing Nat := do
  let machine ← Doing.machine
  match spot machine.tree target, machine.tree.follow (Doing.path target) with
  | .ok (.free directory name), _ => do
    copying.announce source target
    put (name :: directory) (.file content executable)
    return 0
  | .ok (.taken _ (.link _)), .ok (.free ..) =>
    cannotCopy ("not writing through dangling symlink " ++ (← quote target))
  | _, .ok (.taken other node) =>
    if areTwins machine location other then
      cannotCopy ((← quote source) ++ " and " ++ (← quote target) ++ " are the same file")
    else if copying.keepsTargets then return 0
    else match node with
      | .directory =>
        cannotCopy ("cannot overwrite directory " ++ (← quote target) ++ " with non-directory")
      | .file _ held => do
        copying.announce source target
        Doing.setContent other content
        if copying.keepsModes && held ≠ executable then put other (.file content executable)
        return 0
      | .link _ => return 0
  | .error .notFound, _ =>
    let why := if target.endsWith "/" then reason .notADirectory else reason .notFound
    cannotCopy ("cannot create regular file " ++ (← quote target) ++ ": " ++ why)
  | .error cause, _ | _, .error cause =>
    cannotCopy ("cannot create regular file " ++ (← quote target) ++ ": " ++ reason cause)
  | .ok (.taken ..), .ok (.free ..) =>
    cannotCopy ("cannot create regular file " ++ (← quote target) ++ ": " ++ reason .notADirectory)

def Copying.link (copying : Copying) (source target : String) (destination : Path) :
    Doing Nat := do
  let machine ← Doing.machine
  match spot machine.tree target with
  | .ok (.free directory name) => do
    copying.announce source target
    put (name :: directory) (.link destination)
    return 0
  | .ok (.taken _ .directory) =>
    cannotCopy ("cannot overwrite directory " ++ (← quote target) ++ " with non-directory")
  | .ok (.taken other _) => do
    if copying.keepsTargets then return 0
    copying.announce source target
    remove other
    put other (.link destination)
    return 0
  | .error cause =>
    cannotCopy ("cannot create symbolic link " ++ (← quote target) ++ ": " ++ reason cause)

/-- Copy what is at a path, within a depth; the directories that have been made are not copied into
themselves. -/
def Copying.copy (copying : Copying) : Nat → List Location → (isNamed : Bool) →
    (source target : String) → Doing Nat
  | 0, _, _, _, _ => return 1
  | depth + 1, made, isNamed, source, target => do
    let found ← if copying.keepsLinks then placeOf source
      else pure ((← Doing.machine).tree.nodeAt (Doing.path source))
    match found with
    | .error cause => cannotCopy ("cannot stat " ++ (← quote source) ++ ": " ++ reason cause)
    | .ok (location, .file content executable) =>
      copying.file source target location content executable
    | .ok (_, .link destination) => copying.link source target destination
    | .ok (location, .directory) => do
      if !copying.isDeep then
        return (← cannotCopy ("-r not specified; omitting directory " ++ (← quote source)))
      -- The copy lies inside of the original: it is met again, and left alone.
      if made.contains location then return 0
      let tree := (← Doing.machine).tree
      let copyInside (place : Location) : Doing Nat := do
        let statuses ← (namesIn tree location).mapM fun name =>
          copying.copy depth (place :: made) false (inside source name) (inside target name)
        if isNamed && location.isSuffixOf place && location ≠ place then
          cannotCopy ("cannot copy a directory, " ++ (← quote source) ++ ", into itself, "
            ++ (← quote target))
        else return worst statuses
      match tree.follow (Doing.path (trimSlashes target)) with
      | .ok (.free directory name) => do
        copying.announce source target
        put (name :: directory) .directory
        copyInside (name :: directory)
      | .ok (.taken place .directory) => copyInside place
      | .ok (.taken ..) =>
        cannotCopy ("cannot overwrite non-directory " ++ (← quote target) ++ " with directory "
          ++ (← quote source))
      | .error cause =>
        cannotCopy ("cannot create directory " ++ (← quote target) ++ ": " ++ reason cause)

def destinations (usage : Usage) (given : Given) : Doing (List (String × String)) := do
  let tree := (← Doing.machine).tree
  let into (directory source : String) : String × String :=
    (source, inside directory (lastName source))
  let refuse {α : Type} (what target : String) : Doing α := do
    let why := match tree.nodeAt (Doing.path target) with
      | .error cause => reason cause
      | .ok _ => reason .notADirectory
    fail usage.name (what ++ " " ++ (← quote target) ++ ": " ++ why) 1
  match given.value? 't' with
  | some directory =>
    if given.operands.isEmpty then missingOperand usage "file operand"
    if !tree.isDirectory (Doing.path directory) then refuse "target directory" directory
    return given.operands.map (into directory)
  | none =>
    match given.operands.reverse with
    | [] => missingOperand usage "file operand"
    | [only] =>
      misused usage ("missing destination file operand after " ++ (← quote only))
    | [target, source] =>
      if !given.has 'T' && tree.isDirectory (Doing.path target) then return [into target source]
      else return [(source, target)]
    | target :: sources =>
      if given.has 'T' then
        let extra := sources.reverse.getD 2 target
        misused usage ("extra operand " ++ (← quote extra))
      if !tree.isDirectory (Doing.path target) then refuse "target" target
      return sources.reverse.map (into target)

def cpUsage : Usage where
  name := "cp"
  letters := (['a', 'b', 'd', 'f', 'H', 'i', 'l', 'L', 'n', 'p', 'P', 'r', 'R', 's', 'T', 'u', 'v',
    'x'].map fun letter => (letter, Need.nothing)) ++ [('t', .value), ('S', .value)]
  words := [("archive", 'a'), ("force", 'f'), ("dereference", 'L'), ("no-clobber", 'n'),
    ("no-dereference", 'P'), ("recursive", 'r'), ("no-target-directory", 'T'),
    ("target-directory", 't'), ("update", 'u'), ("verbose", 'v')]
  stops := false
  misuse := 1

def cp : Utility := fun arguments => do
  let given ← given cpUsage arguments
  if given.has 'n' then
    complain "cp" ("warning: behavior of -n is non-portable and may change in future; " ++
      "use --update=none instead")
  let isDeep := ['a', 'r', 'R'].any given.has
  let keepsLinks := match given.lastOf ['a', 'd', 'H', 'L', 'P'] with
    | some 'L' | some 'H' => false
    | some _ => true
    | none => isDeep
  let copying : Copying := {
    isDeep := isDeep, keepsLinks := keepsLinks, keepsModes := given.has 'a' || given.has 'p'
    keepsTargets := given.has 'n', isVerbose := given.has 'v' }
  forAll (← destinations cpUsage given) fun (source, target) =>
    copying.copy treeDepth [] true source target

/-! ### Moving -/

def mvUsage : Usage where
  name := "mv"
  letters := (['b', 'f', 'i', 'n', 'T', 'u', 'v'].map fun letter => (letter, Need.nothing))
    ++ [('t', .value), ('S', .value)]
  words := [("force", 'f'), ("no-clobber", 'n'), ("no-target-directory", 'T'),
    ("target-directory", 't'), ("update", 'u'), ("verbose", 'v')]
  stops := false
  misuse := 1

def moveRefusal (machine : Machine) (source target : String) (moved : Location × Node)
    (standing : Location × Node) : Doing (Option String) := do
  let shown ← quote source
  let other ← quote target
  if areTwins machine moved.1 standing.1 && moved.1 = standing.1 && !moved.2.isDirectory then
    return some (shown ++ " and " ++ other ++ " are the same file")
  else if moved.2.isDirectory && !standing.2.isDirectory then
    return some ("cannot overwrite non-directory " ++ other ++ " with directory " ++ shown)
  else if !moved.2.isDirectory && standing.2.isDirectory then
    return some ("cannot overwrite directory " ++ other ++ " with non-directory")
  else if moved.2.isDirectory && !(machine.tree.children standing.1).isEmpty then
    return some ("cannot overwrite " ++ other ++ ": " ++ notEmpty)
  else return none

def mv : Utility := fun arguments => do
  let given ← given mvUsage arguments
  let refuse (message : String) : Doing Nat := do
    complain "mv" message
    return 1
  forAll (← destinations mvUsage given) fun (source, target) => do
    let machine ← Doing.machine
    let move (location place : Location) : Doing Nat := do
      if given.has 'v' then
        Doing.write 1 ("renamed " ++ (← quote source) ++ " -> " ++ (← quote target) ++ "\n")
      if location ≠ place && areTwins machine location place then remove location
      else relocate location place
      return 0
    match ← placeOf source with
    | .error cause =>
      let why := if cause = .notADirectory then reason .notADirectory else reason cause
      refuse ("cannot stat " ++ (← quote source) ++ ": " ++ why)
    | .ok (location, node) =>
      let asked := if node.isDirectory then trimSlashes target else target
      match spot machine.tree asked with
      | .error cause =>
        let why := if target.endsWith "/" && cause = .notFound then .notADirectory else cause
        refuse ("cannot move " ++ (← quote source) ++ " to " ++ (← quote target) ++ ": "
          ++ reason why)
      | .ok found =>
        let place := match found with
          | .free directory name => name :: directory
          | .taken place _ => place
        if node.isDirectory && location.isSuffixOf place then
          refuse ("cannot move " ++ (← quote source) ++ " to a subdirectory of itself, "
            ++ (← quote target))
        else match found with
          | .free .. => move location place
          | .taken _ other =>
            if given.has 'n' then return 0
            match ← moveRefusal machine source target (location, node) (place, other) with
            | some message => refuse message
            | none => move location place

/-! ### Links -/

def lnUsage : Usage where
  name := "ln"
  letters := (['b', 'f', 'i', 'L', 'n', 'P', 'r', 's', 'T', 'v'].map
    fun letter => (letter, Need.nothing)) ++ [('t', .value), ('S', .value)]
  words := [("force", 'f'), ("logical", 'L'), ("no-dereference", 'n'), ("physical", 'P'),
    ("relative", 'r'), ("symbolic", 's'), ("no-target-directory", 'T'), ("target-directory", 't'),
    ("verbose", 'v')]
  stops := false
  misuse := 1

def linkTwin (source : Location) (node : Node) (target : Location) : Doing Unit :=
  Doing.change fun machine =>
    let others := machine.twins.filter fun names => !names.contains source
    let own := (machine.twins.find? fun names => names.contains source).getD [source]
    { machine with tree := machine.tree.place target node, twins := (target :: own) :: others }

def makeOneLink (given : Given) (source target : String) : Doing Nat := do
  let refuse (message : String) : Doing Nat := do
    complain "ln" message
    return 1
  let isSymbolic := given.has 's'
  let sourceFound ← if given.has 'L' then pure ((← Doing.machine).tree.nodeAt (Doing.path source))
    else placeOf source
  let announce : Doing Unit := do
    if given.has 'v' then
      let arrow := if isSymbolic then " -> " else " => "
      Doing.write 1 ((← quote target) ++ arrow ++ (← quote source) ++ "\n")
  let failed (cause : OsError) : Doing Nat := do
    if isSymbolic then
      let what := "failed to create symbolic link " ++ (← quote target)
      if source.isEmpty then refuse (what ++ " -> '': " ++ reason .notFound)
      else refuse (what ++ ": " ++ reason cause)
    else
      let what := "failed to create hard link " ++ (← quote target)
      if cause = .alreadyExists then refuse (what ++ ": " ++ reason cause)
      else refuse (what ++ " => " ++ (← quote source) ++ ": " ++ reason cause)
  let make (place : Location) : Doing Nat := do
    announce
    match sourceFound with
    | .ok (location, node) =>
      if isSymbolic then put place (.link (Doing.path source)) else linkTwin location node place
    | .error _ => put place (.link (Doing.path source))
    return 0
  match isSymbolic, sourceFound with
  | false, .error cause => refuse ("failed to access " ++ (← quote source) ++ ": " ++ reason cause)
  | false, .ok (_, .directory) => refuse (source ++ ": hard link not allowed for directory")
  | _, _ =>
    if isSymbolic && source.isEmpty then return (← failed .notFound)
    let machine ← Doing.machine
    match spot machine.tree target with
    | .error cause => failed cause
    | .ok (.free directory name) => make (name :: directory)
    | .ok (.taken place node) =>
      if !given.has 'f' then failed .alreadyExists
      else if node.isDirectory then
        refuse (target ++ ": cannot overwrite directory")
      else
        let isSame := match sourceFound with
          | .ok (location, _) => areTwins machine location place
          | .error _ => false
        if isSame && (!isSymbolic || sourceFound.toOption.any fun found => found.1 = place) then
          refuse ((← quote source) ++ " and " ++ (← quote target) ++ " are the same file")
        else do
          remove place
          make place

def ln : Utility := fun arguments => do
  let given ← given lnUsage arguments
  let tree := (← Doing.machine).tree
  let isTarget (path : String) : Bool :=
    tree.isDirectory (Doing.path path) &&
      !(given.has 'n' && Condition.isLink tree (Doing.path path))
  let links ← match given.value? 't', given.operands.reverse with
    | none, [only] => pure [(only, lastName only)]
    | none, [target, source] =>
      pure [(source, if !given.has 'T' && isTarget target then inside target (lastName source)
        else target)]
    | _, [] => missingOperand lnUsage "file operand"
    | _, _ => destinations lnUsage given
  forAll links fun (source, target) => makeOneLink given source target

/-! ### Marks of files -/

def touch : Utility := fun arguments => do
  let usage : Usage := ⟨"touch",
    (['a', 'c', 'f', 'h', 'm'].map fun letter => (letter, Need.nothing))
      ++ [('d', .value), ('r', .value), ('t', .value)],
    [("no-create", 'c'), ("date", 'd'), ("reference", 'r'), ("no-dereference", 'h')], false, 1⟩
  let given ← given usage arguments
  match given.value? 'r' with
  | some model =>
    match (← Doing.machine).tree.nodeAt (Doing.path model) with
    | .ok _ => pure ()
    | .error cause =>
      fail "touch" ("failed to get attributes of " ++ (← quote model) ++ ": " ++ reason cause) 1
  | none => pure ()
  if given.operands.isEmpty then missingOperand usage "file operand"
  forAll given.operands fun path => do
    if (← Doing.machine).tree.pathExists (Doing.path path) || path = "-" then return 0
    if given.has 'c' then return 0
    match ← Opening.touch (Doing.path path) with
    | .ok _ => return 0
    | .error cause => do
      if path.endsWith "/" && cause ≠ .notADirectory then
        complain "touch" ("setting times of " ++ (← quote path) ++ ": " ++ reason .notFound)
      else complain "touch" ("cannot touch " ++ (← quote path) ++ ": " ++ reason cause)
      return 1

def modeAfter? (held : Nat) (text : String) : Option Nat :=
  if text.toList.head?.any Char.isDigit then
    if text.toList.all Format.isOctal && text.length ≤ 5 then
      let value := Arithmetic.valueOf 8 text.toList
      if value < 4096 then some (value % 512) else none
    else none
  else (text.splitOn ",").foldlM Builtin.changedMode held

def allowsRunning (mode : Nat) : Bool :=
  mode % 2 = 1 || mode / 8 % 2 = 1 || mode / 64 % 2 = 1

def changeModes (isDeep : Bool) (change : Nat → Nat) (location : Location) : Doing Unit :=
  Doing.change fun machine =>
    let isMeant (other : Location) : Bool :=
      other = location || (isDeep && location.isSuffixOf other)
    let isTwin (other : Location) : Bool :=
      machine.twins.any fun names => names.contains other && names.any isMeant
    let changed (other : Location) : Node → Node
      | .file content executable =>
        if isMeant other || isTwin other then
          .file content (allowsRunning (change (if executable then 493 else 420)))
        else .file content executable
      | node => node
    { machine with tree := machine.tree.change changed }

def chmod : Utility := fun arguments => do
  let usage : Usage := ⟨"chmod", ['R', 'v', 'c', 'f'].map fun letter => (letter, .nothing),
    [("recursive", 'R'), ("verbose", 'v'), ("changes", 'c'), ("quiet", 'f'), ("silent", 'f')],
    false, 1⟩
  let isMode (argument : String) : Bool := match argument.toList with
    | '-' :: letter :: rest => (letter :: rest).all ['r', 'w', 'x', 'X', 's', 't', ',', '+', '-',
        '=', 'u', 'g', 'o', 'a'].contains
    | _ => false
  let modes := arguments.filter isMode
  let given ← given usage (arguments.filter fun argument => !isMode argument)
  let (mode, files) := match modes.head?, given.operands with
    | some mode, files => (some mode, files)
    | none, mode :: files => (some mode, files)
    | none, [] => (none, [])
  match mode, files with
  | none, _ => missingOperand usage "operand"
  | some mode, [] => misused usage ("missing operand after " ++ (← quoteName mode))
  | some mode, files =>
    if (modeAfter? 420 mode).isNone then
      misused usage ("invalid mode: " ++ (← quoteName mode))
    forAll files fun path => do
      match (← Doing.machine).tree.nodeAt (Doing.path path), ← placeOf path with
      | .ok (location, _), _ => do
        changeModes (given.has 'R') (fun held => (modeAfter? held mode).getD held) location
        return 0
      | .error _, .ok (_, .link _) => do
        if !given.has 'f' then
          complain "chmod" ("cannot operate on dangling symlink " ++ (← quote path))
        return 1
      | .error cause, _ => do
        if !given.has 'f' then
          complain "chmod" ("cannot access " ++ (← quote path) ++ ": " ++ reason cause)
        return 1

def tee : Utility := fun arguments => do
  let given ← given ⟨"tee", [('a', .nothing), ('i', .nothing), ('p', .nothing)],
    [("append", 'a'), ("ignore-interrupts", 'i')], false, 1⟩ arguments
  let text ← match ← Doing.takeInput with
    | .ok text => pure text
    | .error cause => fail "tee" ("read error: " ++ reason cause) 1
  Doing.write 1 text
  forAll given.operands fun path => do
    if path = "/dev/null" then return 0
    match Opening.ofSystem? path with
    | some descriptor => do
      Doing.write descriptor text
      return 0
    | none =>
      match ← Opening.touch (Doing.path path) with
      | .ok location => do
        if !given.has 'a' then Doing.setContent location []
        let channel ← Doing.openFile ⟨location, 0, false, true, true⟩
        let _ ← Doing.writeTo channel text
        return 0
      | .error cause => do
        complain "tee" ((← quoteIfNeeded path) ++ ": " ++ reason cause)
        return 1

end ScenarioBench.Rehearsal.Shell.Utility

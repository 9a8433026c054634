import ScenarioBench.Data.Results
import ScenarioBench.Files.Path

/-! A directory tree as a finite map from locations to nodes.

A location lists the names from a node up to the root directory, innermost first, so that the
directory of `name :: directory` is `directory`. Relative paths are read from the base of the tree.
Following a path goes name by name, steps through directories, follows symbolic links (at most 40 of
them) and refuses for the reasons that the operating system has.
-/

set_option autoImplicit false

namespace ScenarioBench

abbrev Location := List Octets

inductive Node where
  | file (content : Octets) (executable : Bool)
  | directory
  | link (target : Path)
  deriving DecidableEq, Repr

namespace Node

def isFile : Node → Bool
  | .file .. => true
  | _ => false

def isDirectory : Node → Bool
  | .directory => true
  | _ => false

end Node

structure FileTree.LookedUp (name : Octets) : Prop where
  notDot : name ≠ Path.dot
  notDotDot : name ≠ Path.dotDot

instance (name : Octets) : Decidable (FileTree.LookedUp name) :=
  decidable_of_iff (name ≠ Path.dot ∧ name ≠ Path.dotDot)
    ⟨fun ⟨notDot, notDotDot⟩ => ⟨notDot, notDotDot⟩, fun ⟨notDot, notDotDot⟩ => ⟨notDot, notDotDot⟩⟩

def FileTree.Named (location : Location) : Prop :=
  ∀ name ∈ location, Path.IsName name ∧ LookedUp name

instance (location : Location) : Decidable (FileTree.Named location) :=
  List.decidableBAll (fun name => Path.IsName name ∧ FileTree.LookedUp name) location

/-- A directory tree with the directory that relative paths are read from. A location has one node,
and only names that can be looked up make a location. -/
@[ext]
structure FileTree where
  entries : List (Location × Node)
  base : Location
  distinct : (entries.map (·.1)).Nodup
  named : ∀ entry ∈ entries, FileTree.Named entry.1
  baseNamed : FileTree.Named base

/-- Where a path leads: to a node, or to a free name in a directory. -/
inductive Spot where
  | taken (location : Location) (node : Node)
  | free (directory : Location) (name : Octets)
  deriving DecidableEq, Repr

def Spot.location : Spot → Location
  | .taken location _ => location
  | .free directory name => name :: directory

namespace FileTree

@[simp] theorem named_nil : Named [] :=
  List.forall_mem_nil _

theorem Named.cons {name : Octets} {directory : Location} (isName : Path.IsName name)
    (lookedUp : LookedUp name) (named : Named directory) : Named (name :: directory) :=
  List.forall_mem_cons.2 ⟨⟨isName, lookedUp⟩, named⟩

theorem Named.tail {location : Location} (named : Named location) : Named location.tail :=
  fun name member => named name (List.mem_of_mem_tail member)

def empty : FileTree where
  entries := []
  base := []
  distinct := .nil
  named := List.forall_mem_nil _
  baseNamed := named_nil

instance : Inhabited FileTree := ⟨empty⟩

def node? (tree : FileTree) (location : Location) : Option Node :=
  if location = [] then some .directory else tree.entries.lookup location

def keep (tree : FileTree) (isKept : Location × Node → Bool) : FileTree where
  entries := tree.entries.filter isKept
  base := tree.base
  distinct := tree.distinct.sublist (List.filter_sublist.map _)
  named := fun entry member => tree.named entry (List.mem_filter.1 member).1
  baseNamed := tree.baseNamed

def erase (tree : FileTree) (location : Location) : FileTree :=
  tree.keep fun entry => entry.1 ≠ location

def put (tree : FileTree) (location : Location) (node : Node) (named : Named location) :
    FileTree where
  entries := (tree.erase location).entries ++ [(location, node)]
  base := tree.base
  distinct := by
    rw [List.map_append, List.nodup_append]
    refine ⟨(tree.erase location).distinct, by simp, fun other among last isLast same => ?_⟩
    obtain ⟨entry, kept, rfl⟩ := List.mem_map.1 among
    obtain rfl := List.mem_singleton.1 isLast
    -- What stood at the location is filtered out.
    exact of_decide_eq_true (List.mem_filter.1 kept).2 same
  named := by
    intro entry member
    rcases List.mem_append.1 member with kept | last
    · exact (tree.erase location).named entry kept
    · rw [List.mem_singleton.1 last]
      exact named
  baseNamed := tree.baseNamed

def children (tree : FileTree) (directory : Location) : List (Octets × Node) :=
  tree.entries.filterMap fun (location, node) =>
    match location with
    | [] => none
    | name :: parent => if parent = directory then some (name, node) else none

def maximumPath : Nat := 4095
def maximumName : Nat := 255
def maximumLinks : Nat := 40

/-- Follow names from a directory. A link in the middle is always followed, one at the end only when
`through` is set. -/
def walk (tree : FileTree) (through : Bool) (links : Nat) (here : Location) :
    List Octets → Except OsError Spot
  | [] => .ok (.taken here ((tree.node? here).getD .directory))
  | name :: rest =>
    if name = Path.dot then walk tree through links here rest
    else if name = Path.dotDot then walk tree through links here.tail rest
    else if maximumName < name.length then .error .nameTooLong
    else match tree.node? (name :: here) with
      | none => if rest.isEmpty then .ok (.free here name) else .error .notFound
      | some .directory => walk tree through links (name :: here) rest
      -- More names behind a file, be it a dot, make the way a dead end.
      | some (.file content executable) =>
        if rest.isEmpty then .ok (.taken (name :: here) (.file content executable))
        else .error .notADirectory
      | some (.link target) =>
        if rest.isEmpty && !through then .ok (.taken (name :: here) (.link target))
        else match links with
          | 0 => .error .tooManyLinks
          | links + 1 =>
            -- The names of the target are gone before those that are left.
            walk tree through links (if target.isAbsolute then [] else here)
              (target.names ++ (if target.endsWithSlash then [Path.dot] else []) ++ rest)
termination_by names => (links, names.length)

theorem walk_cons_directory {tree : FileTree} {through : Bool} {links : Nat} {here : Location}
    {name : Octets} {rest : List Octets} (notDot : name ≠ Path.dot) (notDotDot : name ≠ Path.dotDot)
    (short : name.length ≤ maximumName) (there : tree.node? (name :: here) = some .directory) :
    walk tree through links here (name :: rest) = walk tree through links (name :: here) rest := by
  rw [walk, if_neg notDot, if_neg notDotDot, if_neg (Nat.not_lt.2 short), there]

def checkPath (path : Path) : Except OsError Unit :=
  if path.octets.contains 0 then .error .nulInPath
  else if path.octets.isEmpty then .error .notFound
  else if maximumPath < path.octets.length then .error .nameTooLong
  else .ok ()

def steps (path : Path) : List Octets :=
  -- A separator at the end asks for a directory, as a dot behind it does.
  path.names ++ if path.endsWithSlash then [Path.dot] else []

def start (tree : FileTree) (path : Path) : Location :=
  if path.isAbsolute then [] else tree.base

theorem isName_of_mem_steps {path : Path} {name : Octets} (member : name ∈ steps path) :
    Path.IsName name := by
  rcases List.mem_append.1 member with piece | last
  · exact Path.isName_of_mem_names piece
  · split at last
    · rw [List.mem_singleton.1 last]
      exact ⟨by decide, by decide⟩
    · cases last

/-- Wherever a way ends, the names of its location can be looked up: it takes them from the pieces
of paths and puts no special one of them into a location. -/
theorem named_of_walk {tree : FileTree} {through : Bool} {links : Nat} {here : Location}
    {names : List Octets} {spot : Spot} (start : Named here)
    (pieces : ∀ name ∈ names, Path.IsName name)
    (led : tree.walk through links here names = .ok spot) : Named spot.location := by
  fun_induction walk tree through links here names with
  | case1 =>
    cases led
    exact start
  | case2 links here rest ih => exact ih start (List.forall_mem_cons.1 pieces).2 led
  | case3 links here rest _ ih => exact ih start.tail (List.forall_mem_cons.1 pieces).2 led
  | case5 links here name rest notDot notDotDot =>
    cases led
    exact start.cons (pieces name List.mem_cons_self) ⟨notDot, notDotDot⟩
  | case7 links here name rest notDot notDotDot _ _ ih =>
    obtain ⟨piece, others⟩ := List.forall_mem_cons.1 pieces
    exact ih (start.cons piece ⟨notDot, notDotDot⟩) others led
  | case8 links here name rest notDot notDotDot | case10 links here name rest notDot notDotDot =>
    cases led
    exact start.cons (pieces name List.mem_cons_self) ⟨notDot, notDotDot⟩
  | case12 here name rest notDot notDotDot _ target _ _ links ih =>
    refine ih ?_ ?_ led
    · split
      · exact named_nil
      · exact start
    · intro piece member
      rcases List.mem_append.1 member with within | later
      · exact isName_of_mem_steps within
      · exact pieces piece (List.mem_cons_of_mem _ later)
  | _ => cases led

@[simp] theorem named_start (tree : FileTree) (path : Path) : Named (tree.start path) := by
  unfold start
  split
  · exact named_nil
  · exact tree.baseNamed

def follow (tree : FileTree) (path : Path) : Except OsError Spot := do
  checkPath path
  walk tree true maximumLinks (tree.start path) (steps path)

theorem follow_eq_ok_iff {tree : FileTree} {path : Path} {spot : Spot} :
    tree.follow path = .ok spot ↔ checkPath path = .ok () ∧
      tree.walk true maximumLinks (tree.start path) (steps path) = .ok spot := by
  rw [follow]
  rcases checkPath path with cause | value <;> simp

theorem named_of_follow {tree : FileTree} {path : Path} {spot : Spot}
    (followed : tree.follow path = .ok spot) : Named spot.location :=
  named_of_walk (tree.named_start path) (fun _ => isName_of_mem_steps) (follow_eq_ok_iff.1 followed).2

def nodeAt (tree : FileTree) (path : Path) : Except OsError (Location × Node) := do
  match ← tree.follow path with
  | .taken location node => .ok (location, node)
  | .free .. => .error .notFound

theorem nodeAt_eq_ok_iff_follow {tree : FileTree} {path : Path} {location : Location} {node : Node} :
    tree.nodeAt path = .ok (location, node) ↔ tree.follow path = .ok (.taken location node) := by
  rw [nodeAt]
  rcases tree.follow path with cause | ⟨there, found⟩ | _ <;> simp

theorem nodeAt_eq_ok_iff {tree : FileTree} {path : Path} {location : Location} {node : Node} :
    tree.nodeAt path = .ok (location, node) ↔ checkPath path = .ok () ∧
      tree.walk true maximumLinks (tree.start path) (steps path) = .ok (.taken location node) :=
  nodeAt_eq_ok_iff_follow.trans follow_eq_ok_iff

theorem named_of_nodeAt {tree : FileTree} {path : Path} {location : Location} {node : Node}
    (found : tree.nodeAt path = .ok (location, node)) : Named location :=
  named_of_follow (nodeAt_eq_ok_iff_follow.1 found)

def pathExists (tree : FileTree) (path : Path) : Bool :=
  (tree.nodeAt path).isOk

def isDirectory (tree : FileTree) (path : Path) : Bool :=
  match tree.nodeAt path with
  | .ok (_, .directory) => true
  | _ => false

theorem isDirectory_of_walk {tree : FileTree} {path : Path} {location : Location}
    (accepted : checkPath path = .ok ())
    (led : walk tree true maximumLinks (tree.start path) (steps path) =
      .ok (.taken location .directory)) : tree.isDirectory path = true := by
  rw [isDirectory, nodeAt_eq_ok_iff.2 ⟨accepted, led⟩]

def isFile (tree : FileTree) (path : Path) : Bool :=
  match tree.nodeAt path with
  | .ok (_, .file ..) => true
  | _ => false

def read (tree : FileTree) (path : Path) : Except OsError Octets := do
  match ← tree.nodeAt path with
  | (_, .file content _) => .ok content
  | _ => .error .isADirectory

theorem read_eq_ok_iff {tree : FileTree} {path : Path} {content : Octets} :
    tree.read path = .ok content ↔
      ∃ location executable, tree.nodeAt path = .ok (location, .file content executable) := by
  rw [read]
  rcases tree.nodeAt path with cause | ⟨location, held | _ | target⟩ <;> simp

def readText (tree : FileTree) (path : Path) : Except OsError String := do
  match (← tree.read path).toText? with
  | some text => .ok text
  | none => .error .invalidText

def list (tree : FileTree) (path : Path) : Except OsError (Location × List (Octets × Node)) := do
  match ← tree.nodeAt path with
  | (location, .directory) => .ok (location, tree.children location)
  | _ => .error .notADirectory

theorem list_eq_ok_iff {tree : FileTree} {path : Path} {directory : Location}
    {entries : List (Octets × Node)} :
    tree.list path = .ok (directory, entries) ↔
      tree.nodeAt path = .ok (directory, .directory) ∧ tree.children directory = entries := by
  rw [list]
  rcases tree.nodeAt path with cause | ⟨location, held | _ | target⟩ <;> simp +contextual
/-- Unlink the name that a path ends with, without following it. A directory is refused, and so is a
name with a separator after it. -/
def unlink (tree : FileTree) (path : Path) : Except OsError FileTree := do
  checkPath path
  match path.names.getLast? with
  | none => .error .isADirectory
  | some last =>
    -- A path that ends with a dot names no entry; what is in the way is told all the same.
    if last = Path.dot ∨ last = Path.dotDot then
      match ← walk tree true maximumLinks (tree.start path) path.names.dropLast with
      | .taken _ .directory => .error .isADirectory
      | .taken .. => .error .notADirectory
      | .free .. => .error .notFound
    else
      match ← walk tree false maximumLinks (tree.start path) path.names with
      | .free .. => .error .notFound
      | .taken _ .directory => .error .isADirectory
      | .taken location _ =>
        if path.endsWithSlash then .error .notADirectory else .ok (tree.erase location)

/-- Where a path leads whose file may have to be created; a separator at the end names no file. -/
def followNew (tree : FileTree) (path : Path) : Except OsError Spot := do
  if path.endsWithSlash then
    checkPath path
    match ← walk tree true maximumLinks (tree.start path) path.names.dropLast with
    | .taken _ .directory => .error .isADirectory
    | .taken .. => .error .notADirectory
    | .free .. => .error .notFound
  else tree.follow path

theorem follow_of_followNew {tree : FileTree} {path : Path} {spot : Spot}
    (followed : tree.followNew path = .ok spot) : tree.follow path = .ok spot := by
  unfold followNew at followed
  split at followed
  · obtain ⟨_, -, followed⟩ := exists_of_bind_ok followed
    obtain ⟨above, -, followed⟩ := exists_of_bind_ok followed
    split at followed <;> cases followed
  · exact followed

def write (tree : FileTree) (path : Path) (content : Octets) : Except OsError FileTree :=
  match followed : tree.followNew path with
  | .error cause => .error cause
  | .ok (.free directory name) =>
    .ok (tree.put (name :: directory) (.file content false)
      (named_of_follow (follow_of_followNew followed)))
  | .ok (.taken location (.file _ executable)) =>
    .ok (tree.put location (.file content executable)
      (named_of_follow (follow_of_followNew followed)))
  | .ok (.taken ..) => .error .isADirectory

def makeExecutable (tree : FileTree) (path : Path) : Except OsError FileTree :=
  match found : tree.nodeAt path with
  | .error cause => .error cause
  | .ok (location, .file content _) =>
    .ok (tree.put location (.file content true) (named_of_nodeAt found))
  | .ok _ => .ok tree

def makeDirectory (tree : FileTree) (path : Path) : Except OsError FileTree :=
  match followed : tree.follow path with
  | .error cause => .error cause
  | .ok (.free directory name) =>
    .ok (tree.put (name :: directory) .directory (named_of_follow followed))
  | .ok (.taken _ .directory) => .ok tree
  | .ok (.taken ..) => .error .notADirectory

def makeDirectories (tree : FileTree) (path : Path) : Except OsError FileTree := do
  checkPath path
  let absolute : Octets := if path.isAbsolute then [Path.slash] else []
  let stages := path.names.foldl
    (fun (stages : List Path × Path) name =>
      let next := stages.2.join ⟨name⟩
      (stages.1 ++ [next], next)) ([], ⟨absolute⟩)
  stages.1.foldlM makeDirectory tree

def makeLink (tree : FileTree) (path target : Path) : Except OsError FileTree := do
  checkPath path
  match led : walk tree false maximumLinks (tree.start path) (steps path) with
  | .error cause => .error cause
  | .ok (.free directory name) =>
    .ok (tree.put (name :: directory) (.link target)
      (named_of_walk (tree.named_start path) (fun _ => isName_of_mem_steps) led))
  | .ok (.taken ..) => .error .alreadyExists

def pathOf : Location → Path
  | [] => ⟨[Path.slash]⟩
  | name :: directory => (pathOf directory).join ⟨name⟩

def basePath (tree : FileTree) : Path :=
  pathOf tree.base

def absolute (tree : FileTree) (path : Path) : Except OsError Path :=
  Path.absolute tree.basePath path

def rebase (tree : FileTree) (path : Path) : Except OsError FileTree :=
  match found : tree.nodeAt path with
  | .error cause => .error cause
  | .ok (location, .directory) =>
    .ok { tree with base := location, baseNamed := named_of_nodeAt found }
  | .ok _ => .error .notADirectory

end FileTree

end ScenarioBench

import ScenarioBench.Files.Tree

/-! Placing files, directories and links in a tree.

The directories above a placement are made as needed. A placement that the system refuses leaves the
tree as it was.
-/

set_option autoImplicit false

namespace ScenarioBench

inductive Placement where
  | directory (path : Path)
  | link (path target : Path)
  | file (path : Path) (content : Octets) (executable : Bool)
  deriving DecidableEq, Repr

namespace Placement

def parentOf (path : Path) : Path :=
  let start : Path := if path.isAbsolute then ⟨[Path.slash]⟩ else ⟨[]⟩
  path.names.dropLast.foldl (fun whole name => whole.join ⟨name⟩) start

def makeParents (tree : FileTree) (path : Path) : Except OsError FileTree :=
  if (parentOf path).octets.isEmpty then .ok tree else tree.makeDirectories (parentOf path)

def place? (tree : FileTree) (placement : Placement) : Except OsError FileTree :=
  match placement with
  | directory path => tree.makeDirectories path
  | link path target => do
    let tree ← makeParents tree path
    tree.makeLink path target
  | file path content executable => do
    let tree ← makeParents tree path
    let tree ← tree.write path content
    if executable then tree.makeExecutable path else return tree

def below (directory : Path) : Placement → Placement
  | .directory path => .directory (directory.join path)
  | .link path target => .link (directory.join path) target
  | .file path content executable => .file (directory.join path) content executable

def placeAll (tree : FileTree) (placements : List Placement) : FileTree :=
  -- Each placement stands for itself: one that is refused does not keep the others out.
  placements.foldl (fun tree placement => (placement.place? tree).toOption.getD tree) tree

end Placement

end ScenarioBench

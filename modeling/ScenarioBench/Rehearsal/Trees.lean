import ScenarioBench.Files.Tree

/-! Trees that are changed at locations rather than at paths. -/

set_option autoImplicit false

namespace ScenarioBench.FileTree

def place (tree : FileTree) (location : Location) (node : Node) : FileTree :=
  if named : Named location then tree.put location node named else tree

def seenFrom (tree : FileTree) (base : Location) : FileTree :=
  if named : Named base then { tree with base := base, baseNamed := named } else tree

def move (tree : FileTree) (elsewhere : Location → Location) : FileTree :=
  (tree.entries.foldl (fun moved (location, node) => moved.place (elsewhere location) node) empty).seenFrom
    (elsewhere tree.base)

def change (tree : FileTree) (other : Location → Node → Node) : FileTree where
  entries := tree.entries.map fun (location, node) => (location, other location node)
  base := tree.base
  distinct := by
    rw [List.map_map]
    exact tree.distinct
  named := by
    intro entry member
    obtain ⟨held, listed, rfl⟩ := List.mem_map.1 member
    exact tree.named held listed
  baseNamed := tree.baseNamed

end ScenarioBench.FileTree

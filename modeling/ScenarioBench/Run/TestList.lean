import ScenarioBench.Bench.Failure
import ScenarioBench.Files.Tree
import ScenarioBench.Text.Lines

/-! Files that list the names of scenarios, one a line.

Blanks at the end of a line do not count. Empty lines name nothing, and neither do lines whose first
character that is not blank is `#`.
-/

set_option autoImplicit false

namespace ScenarioBench.TestList

def isName (line : List Char) : Bool :=
  !line.isEmpty && (Text.trimStart line).head? ≠ some '#'

def names (characters : List Char) : List (List Char) :=
  ((Text.lines characters).map Text.trimEnd).filter isName

def ofText (text : String) : List String :=
  (names text.toList).map String.ofList

def read (tree : FileTree) (path : Path) : Except HarnessError (List String) :=
  match tree.readText path with
  | .ok text => .ok (ofText text)
  | .error cause => .error (.testList path cause)

end ScenarioBench.TestList

import ScenarioBench.Bench.World
import ScenarioBench.Glob

/-! Sentinels and scratch files.

Removing a file that is not there succeeds. Removing by pattern concerns the regular files directly
inside a directory whose names are text; directories, symbolic links and everything deeper stay.
-/

set_option autoImplicit false

namespace ScenarioBench.ScratchFiles

def removeFrom (tree : FileTree) (path : Path) : Except OsError FileTree :=
  match tree.unlink path with
  -- Only the lack of the file itself is forgiven, no other refusal.
  | .error .notFound => .ok tree
  | result => result

def remove (path : Path) : Act HarnessError Unit :=
  Act.changeTree .io fun tree => (removeFrom tree path).map (·, ())

theorem remove_apply (path : Path) (world : World) :
    remove path world = match removeFrom world.tree path with
      | .ok tree => (.ok (), { world with tree := tree })
      | .error cause => (.error (.io cause), world) := by
  simp only [remove, Act.changeTree]
  rcases removeFrom world.tree path with cause | tree <;> rfl

theorem remove_silent (path : Path) : Action.Follows (remove path) World.Silent :=
  Act.changeTree_silent _ _

theorem remove_extends (path : Path) : Action.Follows (remove path) World.Extends :=
  (remove_silent path).mono fun _ _ => World.Silent.extends

def isMatch (pattern : String) (entry : Octets × Node) : Bool :=
  -- The kind is that of the entry itself, so a link to a file is no file.
  entry.2.isFile && match entry.1.toText? with
    | some name => Glob.accepts pattern name
    | none => false

def removeEach (directory : Path) : List Octets → Act HarnessError Nat
  | [] => pure 0
  | name :: rest => do
    remove (directory.join ⟨name⟩)
    return (← removeEach directory rest) + 1

theorem removeEach_follows {relation : World → World → Prop} [Std.Refl relation]
    [Trans relation relation relation]
    (changed : ∀ world tree, relation world { world with tree := tree })
    (directory : Path) (names : List Octets) :
    Action.Follows (removeEach directory names) relation := by
  induction names with
  | nil => exact .pure 0
  | cons name rest ih =>
    exact .bind (Act.changeTree_follows changed _ _) fun _ => .bind ih fun _ => .pure _

/-- Remove the regular files directly inside a directory whose names fit a pattern. A missing
directory holds none. -/
def removeMatching (directory : Path) (pattern : String) : Act HarnessError Nat := do
  match (← Action.look).tree.list directory with
  | .ok (_, entries) => removeEach directory ((entries.filter (isMatch pattern)).map (·.1))
  | .error .notFound => return 0
  | .error cause => throw (.io cause)

theorem removeMatching_apply (directory : Path) (pattern : String) (world : World) :
    removeMatching directory pattern world = match world.tree.list directory with
      | .ok (_, entries) =>
        removeEach directory ((entries.filter (isMatch pattern)).map (·.1)) world
      | .error .notFound => (.ok 0, world)
      | .error cause => (.error (.io cause), world) := by
  have looked : (Action.look : Act HarnessError World) world = (.ok world, world) := rfl
  refine (Action.bind_of_ok looked _).trans ?_
  rcases world.tree.list directory with (_ | _) | _ <;> rfl

theorem removeMatching_follows {relation : World → World → Prop} [Std.Refl relation]
    [Trans relation relation relation]
    (changed : ∀ world tree, relation world { world with tree := tree })
    (directory : Path) (pattern : String) :
    Action.Follows (removeMatching directory pattern) relation := by
  refine .bind .look fun world => ?_
  split
  · exact removeEach_follows changed _ _
  · exact .pure 0
  · exact .throw _

theorem removeMatching_silent (directory : Path) (pattern : String) :
    Action.Follows (removeMatching directory pattern) World.Silent :=
  removeMatching_follows (fun _ _ => rfl) directory pattern

theorem removeMatching_extends (directory : Path) (pattern : String) :
    Action.Follows (removeMatching directory pattern) World.Extends :=
  (removeMatching_silent directory pattern).mono fun _ _ => World.Silent.extends

/-- 0 if the file that a path leads to can be read, whatever it holds, and 1 otherwise. -/
def resultCode (tree : FileTree) (path : Path) : Nat :=
  if (tree.read path).isOk then 0 else 1

end ScenarioBench.ScratchFiles

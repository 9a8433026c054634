import ScenarioBench.Proofs.Entries

/-! What is written is read.

A way through a tree passes directories and links only, so that it does not matter to it what a file holds or whether
the file was there before: where a path led to a free name or to a file, it leads to the file that was written.
-/

set_option autoImplicit false

namespace ScenarioBench

def Spot.Writable : Spot → Prop
  | .taken _ node => node.isFile = true
  | .free .. => True

namespace FileTree

variable {tree after : FileTree} {through : Bool} {links : Nat} {here location : Location} {names : List Octets}
  {spot : Spot} {path : Path} {content : Octets} {executable : Bool}

@[simp] theorem node?_put_self (tree : FileTree) (below : location ≠ []) (node : Node) (named : Named location) :
    (tree.put location node named).node? location = some node := by
  have gone := tree.node?_erase_self below
  rw [node?, if_neg below] at gone ⊢
  show ((tree.erase location).entries ++ [(location, node)]).lookup location = some node
  rw [List.lookup_append, gone]
  simp

@[simp] theorem node?_put_of_ne (tree : FileTree) {other : Location} (different : other ≠ location) (node : Node)
    (named : Named location) : (tree.put location node named).node? other = tree.node? other := by
  rw [← tree.node?_erase_of_ne different, node?, node?]
  split
  · rfl
  · show ((tree.erase location).entries ++ [(location, node)]).lookup other = _
    rw [List.lookup_append, List.lookup_cons, beq_false_of_ne different]
    exact Option.or_none

theorem node?_put (tree : FileTree) (below : location ≠ []) (node : Node) (named : Named location) (other : Location) :
    (tree.put location node named).node? other = if other = location then some node else tree.node? other := by
  split
  · next same => rw [same, node?_put_self tree below]
  · next different => exact node?_put_of_ne tree different node named

theorem ne_nil_of_standing (standing : ∀ node, tree.node? location = some node → node.isFile = true) :
    location ≠ [] := by
  rintro rfl
  cases standing .directory (if_pos rfl)

theorem isFile_of_writable (led : tree.walk through links here names = .ok spot) (writable : spot.Writable) :
    ∀ node, tree.node? spot.location = some node → node.isFile = true := by
  fun_induction walk tree through links here names with
  | case1 links here =>
    cases led
    intro node (there : tree.node? here = some node)
    rw [Spot.Writable, there] at writable
    exact writable
  | case2 links here rest ih => exact ih led
  | case3 links here rest _ ih => exact ih led
  | case5 links here name rest _ _ _ free =>
    cases led
    intro node there
    rw [Spot.location, free] at there
    cases there
  | case7 links here name rest _ _ _ there ih => exact ih led
  | case8 links here name rest _ _ _ content executable there =>
    cases led
    intro node found
    rw [Spot.location, there] at found
    cases found
    rfl
  | case10 =>
    cases led
    cases writable
  | case12 here name rest _ _ _ target there _ links ih => exact ih led
  | _ => cases led

/-- A way leads where it led before, and to the file where that was written. -/
theorem walk_put (standing : ∀ node, tree.node? location = some node → node.isFile = true)
    (led : tree.walk through links here names = .ok spot) (named : Named location) :
    (tree.put location (.file content executable) named).walk through links here names =
      .ok (if spot.location = location then .taken location (.file content executable) else spot) := by
  have put := tree.node?_put (ne_nil_of_standing standing) (.file content executable) named
  -- What is gone through is no file, so nothing is written there.
  have passed {other : Location} {there : Node} (found : tree.node? other = some there)
      (passing : there.isFile = false) : other ≠ location := by
    rintro rfl
    cases passing.symm.trans (standing there found)
  fun_induction walk tree through links here names with
  | case1 links here =>
    cases led
    show _ = Except.ok (if here = location then _ else _)
    rw [walk, put]
    by_cases same : here = location
    · rw [if_pos same, if_pos same, same]
      rfl
    · rw [if_neg same, if_neg same]
  | case2 links here rest ih =>
    rw [walk, if_pos rfl]
    exact ih led
  | case3 links here rest notDot ih =>
    rw [walk, if_neg notDot, if_pos rfl]
    exact ih led
  | case5 links here name rest notDot notDotDot short free last =>
    cases led
    show _ = Except.ok (if name :: here = location then _ else _)
    rw [walk, if_neg notDot, if_neg notDotDot, if_neg short, put, free]
    by_cases same : name :: here = location
    · rw [if_pos same, if_pos same]
      exact (if_pos last).trans (by rw [same])
    · rw [if_neg same, if_neg same]
      exact if_pos last
  | case7 links here name rest notDot notDotDot short there ih =>
    rw [walk, if_neg notDot, if_neg notDotDot, if_neg short, put, if_neg (passed there rfl), there]
    exact ih led
  | case8 links here name rest notDot notDotDot short held runs there last =>
    cases led
    show _ = Except.ok (if name :: here = location then _ else _)
    rw [walk, if_neg notDot, if_neg notDotDot, if_neg short, put, there]
    by_cases same : name :: here = location
    · rw [if_pos same, if_pos same]
      exact (if_pos last).trans (by rw [same])
    · rw [if_neg same, if_neg same]
      exact if_pos last
  | case10 links here name rest notDot notDotDot short target there stays =>
    cases led
    show _ = Except.ok (if name :: here = location then _ else _)
    have elsewhere := passed there rfl
    rw [walk, if_neg notDot, if_neg notDotDot, if_neg short, put, if_neg elsewhere, if_neg elsewhere, there]
    exact if_pos stays
  | case12 here name rest notDot notDotDot short target there goesOn links ih =>
    rw [walk, if_neg notDot, if_neg notDotDot, if_neg short, put, if_neg (passed there rfl), there]
    exact (if_neg goesOn).trans (ih led)
  | _ => cases led

theorem follow_put (followed : tree.follow path = .ok spot) (writable : spot.Writable) (named : Named spot.location)
    {elsewhere : Path} {other : Spot} (led : tree.follow elsewhere = .ok other) (content : Octets) (executable : Bool) :
    (tree.put spot.location (.file content executable) named).follow elsewhere =
      .ok (if other.location = spot.location then .taken spot.location (.file content executable) else other) := by
  obtain ⟨accepted, way⟩ := follow_eq_ok_iff.1 led
  exact follow_eq_ok_iff.2
    ⟨accepted, walk_put (isFile_of_writable (follow_eq_ok_iff.1 followed).2 writable) way named⟩

theorem read_put (followed : tree.follow path = .ok spot) (writable : spot.Writable)
    (named : Named spot.location) :
    (tree.put spot.location (.file content executable) named).read path = .ok content := by
  have led := follow_put followed writable named followed content executable
  rw [if_pos rfl] at led
  exact read_eq_ok_iff.2 ⟨_, _, nodeAt_eq_ok_iff_follow.2 led⟩

theorem read_put_of_ne {elsewhere : Path} {other : Spot} (followed : tree.follow path = .ok spot)
    (writable : spot.Writable) (led : tree.follow elsewhere = .ok other) (different : other.location ≠ spot.location)
    (named : Named spot.location) :
    (tree.put spot.location (.file content executable) named).read elsewhere = tree.read elsewhere := by
  have kept := follow_put followed writable named led content executable
  rw [if_neg different] at kept
  rw [read, read, nodeAt, nodeAt, kept, led]

/-! ### Whole files -/

theorem readText_of_read {text : String} (held : tree.read path = .ok (Octets.ofText text)) :
    tree.readText path = .ok text := by
  simp [readText, held]

theorem put_of_write (written : tree.write path content = .ok after) : ∃ spot executable named,
    tree.follow path = .ok spot ∧ spot.Writable ∧
      after = tree.put spot.location (.file content executable) named := by
  unfold write at written
  split at written
  all_goals cases written
  all_goals
    next followed =>
    have followed := follow_of_followNew followed
    first
    | exact ⟨_, _, named_of_follow followed, followed, trivial, rfl⟩
    | exact ⟨_, _, named_of_follow followed, followed, rfl, rfl⟩

/-- A path without a separator at its end can be written where it leads to a free name or to a file. -/
theorem exists_write (content : Octets) (unslashed : path.endsWithSlash = false)
    (followed : tree.follow path = .ok spot) (writable : spot.Writable) :
    ∃ after, tree.write path content = .ok after := by
  have led : tree.followNew path = .ok spot := by
    rw [followNew, if_neg (by simp [unslashed])]
    exact followed
  unfold write
  split
  case h_1 failed => exact nomatch failed.symm.trans led
  case h_2 | h_3 => exact ⟨_, rfl⟩
  case h_4 location node notFile taken =>
    cases taken.symm.trans led
    cases node with
    | file content executable => exact absurd rfl (notFile content executable)
    | directory | link => cases writable

theorem read_of_write (written : tree.write path content = .ok after) : after.read path = .ok content := by
  obtain ⟨spot, executable, named, followed, writable, rfl⟩ := put_of_write written
  exact read_put followed writable named

theorem read_of_write_of_ne {elsewhere : Path} {other : Spot} (written : tree.write path content = .ok after)
    (followed : tree.follow path = .ok spot) (led : tree.follow elsewhere = .ok other)
    (different : other.location ≠ spot.location) : after.read elsewhere = tree.read elsewhere := by
  obtain ⟨_, executable, named, same, writable, rfl⟩ := put_of_write written
  cases followed.symm.trans same
  exact read_put_of_ne followed writable led different named

end FileTree

end ScenarioBench

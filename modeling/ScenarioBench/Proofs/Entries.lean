import ScenarioBench.Proofs.AbsolutePaths
import ScenarioBench.Proofs.Removal

/-! The entries of a directory.

A name that is looked up inside a directory leads to the entry of that name, wherever the directory's path
leads and through which links it went; so what is unlinked there is that entry and nothing else. A directory is
reached through directories only, from the root directory down.
-/

set_option autoImplicit false

namespace ScenarioBench

namespace Path

theorem IsName.relative {name : Octets} (isName : IsName name) : (⟨name⟩ : Path).isAbsolute = false := by
  rcases name with _ | ⟨head, rest⟩
  · rfl
  · have different : head ≠ slash := fun same => isName.single (same ▸ List.mem_cons_self)
    simpa [isAbsolute] using different

@[simp] theorem names_join_relative (path : Path) {addition : Path} (relative : addition.isAbsolute = false) :
    (path.join addition).names = path.names ++ addition.names := by
  simp only [join, relative, Bool.false_eq_true, if_false]
  split
  · rename_i bare
    rcases Bool.or_eq_true_iff.1 bare with empty | slashed
    · simp [names, List.isEmpty_iff.1 empty, splitNames]
    · obtain ⟨before, whole⟩ := List.getLast?_eq_some_iff.1 (by simpa [endsWithSlash] using slashed)
      simp [names, whole, splitNames]
  · simp [names]

theorem names_join (path : Path) {name : Octets} (isName : IsName name) :
    (path.join ⟨name⟩).names = path.names ++ [name] ∧ path.octets <+: (path.join ⟨name⟩).octets := by
  have kept : (!name.isEmpty) = true := by simpa using isName.notEmpty
  have single : (⟨name⟩ : Path).names = [name] := by simp [names, splitNames_of_not_mem isName.single, kept]
  refine ⟨by rw [names_join_relative path isName.relative, single], ?_⟩
  simp only [join, isName.relative, Bool.false_eq_true, if_false]
  split <;> exact List.prefix_append _ _

@[simp] theorem isAbsolute_join_relative (path : Path) {addition : Path} (relative : addition.isAbsolute = false) :
    (path.join addition).isAbsolute = path.isAbsolute := by
  simp only [join, relative, Bool.false_eq_true, if_false]
  rcases path with ⟨_ | ⟨head, rest⟩⟩
  · exact relative
  · split <;> rfl

theorem endsWithSlash_join_relative (path : Path) {addition : Path} (relative : addition.isAbsolute = false)
    (nonempty : addition.octets ≠ []) : (path.join addition).endsWithSlash = addition.endsWithSlash := by
  obtain ⟨last, ends⟩ := Option.ne_none_iff_exists'.1 (mt List.getLast?_eq_none_iff.1 nonempty)
  simp only [join, relative, Bool.false_eq_true, if_false]
  split <;> simp [endsWithSlash, List.getLast?_append, List.getLast?_cons, ends]

end Path

namespace FileTree

/-! ### Nodes that are listed -/

theorem mem_of_node? {tree : FileTree} {location : Location} {node : Node} (below : location ≠ [])
    (there : tree.node? location = some node) : (location, node) ∈ tree.entries := by
  rw [node?, if_neg below, List.lookup_eq_some_iff] at there
  obtain ⟨before, after, whole, -⟩ := there
  rw [whole]
  exact List.mem_append_right _ List.mem_cons_self

theorem node?_of_mem {tree : FileTree} {location : Location} {node : Node} (below : location ≠ [])
    (listed : (location, node) ∈ tree.entries) : tree.node? location = some node := by
  rw [node?, if_neg below, List.lookup_eq_some_iff]
  obtain ⟨before, after, whole⟩ := List.append_of_mem listed
  refine ⟨before, after, whole, fun earlier among => bne_iff_ne.2 fun same => ?_⟩
  have distinct := tree.distinct
  rw [whole, List.map_append, List.map_cons, List.nodup_append] at distinct
  exact distinct.2.2 _ (List.mem_map_of_mem among) _ List.mem_cons_self same.symm

theorem node?_of_mem_children {tree : FileTree} {directory : Location} {name : Octets} {node : Node}
    (child : (name, node) ∈ tree.children directory) :
    tree.node? (name :: directory) = some node ∧ Path.IsName name ∧ LookedUp name := by
  have listed : (name :: directory, node) ∈ tree.entries := by
    obtain ⟨⟨location, other⟩, member, read⟩ := List.mem_filterMap.1 child
    rcases location with _ | ⟨first, parent⟩
    · cases read
    · dsimp only at read
      split at read
      · next same =>
        cases read
        exact same ▸ member
      · cases read
  exact ⟨node?_of_mem (List.cons_ne_nil _ _) listed, tree.named _ listed name List.mem_cons_self⟩

/-! ### Ways to a directory -/

/-- A directory, and all directories above it. -/
def Solid (tree : FileTree) (location : Location) : Prop :=
  ∀ above, above <:+ location → tree.node? above = some .directory

variable {tree smaller : FileTree} {through : Bool} {links : Nat} {here location : Location}
  {names : List Octets}

theorem solid_nil (tree : FileTree) : tree.Solid [] := by
  intro above suffix
  rw [List.suffix_nil.1 suffix, node?, if_pos rfl]

theorem Solid.tail (solid : tree.Solid here) : tree.Solid here.tail :=
  fun above suffix => solid above (suffix.trans (List.tail_suffix here))

theorem Solid.cons {name : Octets} (solid : tree.Solid here)
    (there : tree.node? (name :: here) = some .directory) : tree.Solid (name :: here) := by
  intro above suffix
  rcases List.suffix_cons_iff.1 suffix with rfl | above
  · exact there
  · exact solid _ above

theorem Solid.directory (solid : tree.Solid location) : tree.node? location = some .directory :=
  solid location (List.suffix_refl location)

/-- A way with more names behind it goes somewhere first, all links followed, and on from there with the links that
are left. -/
theorem Leads.split {rest : List Octets} (more : rest ≠ [])
    (leads : Leads tree through links here (names ++ rest) location) :
    ∃ fewer middle, fewer ≤ links ∧ Leads tree true links here names middle ∧
      (tree.Solid here → tree.Solid middle) ∧ Leads tree through fewer middle rest location := by
  generalize whole : names ++ rest = steps at leads
  induction leads generalizing names with
  | arrived => exact absurd (List.append_eq_nil_iff.1 whole).2 more
  | stay leads ih =>
    rcases names with _ | ⟨first, names⟩
    · cases whole
      exact ⟨_, _, Nat.le_refl _, .arrived, id, .stay leads⟩
    · obtain ⟨rfl, others⟩ := List.cons.inj whole
      obtain ⟨fewer, middle, atMost, led, solid, further⟩ := ih others
      exact ⟨fewer, middle, atMost, .stay led, solid, further⟩
  | up leads ih =>
    rcases names with _ | ⟨first, names⟩
    · cases whole
      exact ⟨_, _, Nat.le_refl _, .arrived, id, .up leads⟩
    · obtain ⟨rfl, others⟩ := List.cons.inj whole
      obtain ⟨fewer, middle, atMost, led, solid, further⟩ := ih others
      exact ⟨fewer, middle, atMost, .up led, fun start => solid start.tail, further⟩
  | into known short there leads ih =>
    rcases names with _ | ⟨first, names⟩
    · cases whole
      exact ⟨_, _, Nat.le_refl _, .arrived, id, .into known short there leads⟩
    · obtain ⟨rfl, others⟩ := List.cons.inj whole
      obtain ⟨fewer, middle, atMost, led, solid, further⟩ := ih others
      exact ⟨fewer, middle, atMost, .into known short there led, fun start => solid (start.cons there), further⟩
  -- A file or a link that is not followed ends the way, so that no name comes before it.
  | file known short there =>
    rcases names with _ | ⟨first, names⟩
    · cases whole
      exact ⟨_, _, Nat.le_refl _, .arrived, id, .file known short there⟩
    · exact absurd (List.append_eq_nil_iff.1 (List.cons.inj whole).2).2 more
  | link itself known short there =>
    rcases names with _ | ⟨first, names⟩
    · cases whole
      exact ⟨_, _, Nat.le_refl _, .arrived, id, .link itself known short there⟩
    · exact absurd (List.append_eq_nil_iff.1 (List.cons.inj whole).2).2 more
  | @follow _ here _ _ _ target goesOn known short there leads ih =>
    rcases names with _ | ⟨first, names⟩
    · cases whole
      exact ⟨_, _, Nat.le_refl _, .arrived, id, .follow goesOn known short there leads⟩
    · obtain ⟨rfl, rfl⟩ := List.cons.inj whole
      obtain ⟨fewer, middle, atMost, led, solid, further⟩ := ih (List.append_assoc _ _ _)
      refine ⟨fewer, middle, Nat.le_succ_of_le atMost, .follow (by simp) known short there led, fun start => solid ?_,
        further⟩
      split
      · exact tree.solid_nil
      · exact start

theorem Leads.single {last : Octets} (lookedUp : LookedUp last)
    (leads : Leads tree false links here [last] location) :
    last.length ≤ maximumName ∧ location = last :: here := by
  cases leads with
  | stay => exact absurd rfl lookedUp.notDot
  | up => exact absurd rfl lookedUp.notDotDot
  | into _ short _ leads =>
    cases leads
    exact ⟨short, rfl⟩
  | file _ short | link _ _ short => exact ⟨short, rfl⟩
  | follow goesOn => cases goesOn

/-- A way that ends with a looked-up name goes to a directory first, links followed, and then to the entry of
that name. -/
theorem Leads.toEntry {last : Octets} (lookedUp : LookedUp last) (solid : tree.Solid here)
    (leads : Leads tree false links here (names ++ [last]) location) :
    ∃ directory, Leads tree true links here names directory ∧ tree.Solid directory ∧
      location = last :: directory := by
  obtain ⟨fewer, directory, -, led, kept, further⟩ := leads.split (List.cons_ne_nil _ _)
  exact ⟨directory, led, kept solid, (further.single lookedUp).2⟩

theorem Leads.dot (leads : Leads tree true links here names location)
    (there : tree.node? location = some .directory) :
    Leads tree true links here (names ++ [Path.dot]) location := by
  induction leads with
  | arrived => exact .stay .arrived
  | stay _ ih => exact .stay (ih there)
  | up _ ih => exact .up (ih there)
  | into known short entered _ ih => exact .into known short entered (ih there)
  | file _ _ found =>
    rw [found] at there
    cases there
  | link itself => cases itself
  | follow goesOn known short found _ ih =>
    have led := ih there
    rw [List.append_assoc] at led
    exact .follow (by simp) known short found led

theorem node_of_walk {node : Node} (led : tree.walk through links here names = .ok (.taken location node)) :
    node = (tree.node? location).getD .directory := by
  fun_induction walk tree through links here names with
  | case1 =>
    cases led
    rfl
  | case2 links here rest ih => exact ih led
  | case3 links here rest _ ih => exact ih led
  | case7 links here name rest _ _ _ there ih => exact ih led
  | case8 links here name rest _ _ _ content executable there =>
    cases led
    rw [there]
    rfl
  | case10 links here name rest _ _ _ target there =>
    cases led
    rw [there]
    rfl
  | case12 here name rest _ _ _ target there _ links ih => exact ih led
  | _ => cases led

theorem Leads.solid_or_file (solid : tree.Solid here) (leads : Leads tree true links here names location) :
    tree.Solid location ∨ ∃ content executable, tree.node? location = some (.file content executable) := by
  induction leads with
  | arrived => exact .inl solid
  | stay _ ih => exact ih solid
  | up _ ih => exact ih solid.tail
  | into _ _ there _ ih => exact ih (solid.cons there)
  | file _ _ there => exact .inr ⟨_, _, there⟩
  | link itself => cases itself
  | follow _ _ _ _ _ ih =>
    apply ih
    split
    · exact tree.solid_nil
    · exact solid

structure DirectoryAt (tree : FileTree) (path : Path) (directory : Location) : Prop where
  accepted : checkPath path = .ok ()
  leads : Leads tree true maximumLinks (tree.start path) (steps path) directory
  there : tree.node? directory = some .directory

theorem DirectoryAt.nodeAt {path : Path} {directory : Location} (found : tree.DirectoryAt path directory) :
    tree.nodeAt path = .ok (directory, .directory) := by
  obtain ⟨node, led⟩ := found.leads.walk
  obtain rfl : node = .directory := by rw [node_of_walk led, found.there]; rfl
  exact nodeAt_eq_ok_iff.2 ⟨found.accepted, led⟩

theorem directoryAt_of_nodeAt {path : Path} {directory : Location} (absolute : path.isAbsolute = true)
    (found : tree.nodeAt path = .ok (directory, .directory)) : tree.DirectoryAt path directory := by
  obtain ⟨accepted, led⟩ := nodeAt_eq_ok_iff.1 found
  have leads := leads_of_walk led
  have top : tree.Solid (tree.start path) := by
    rw [FileTree.start, if_pos absolute]
    exact tree.solid_nil
  rcases leads.solid_or_file top with solid | ⟨content, executable, there⟩
  · exact ⟨accepted, leads, solid.directory⟩
  · have standing := node_of_walk led
    rw [there] at standing
    cases standing

theorem DirectoryAt.mono {path : Path} {directory : Location} (within : smaller.Within tree)
    (found : smaller.DirectoryAt path directory) : tree.DirectoryAt path directory := by
  have start : smaller.start path = tree.start path := by rw [FileTree.start, FileTree.start, within.base]
  exact ⟨found.accepted, start ▸ found.leads.mono within, within.node? _ _ found.there⟩

theorem checkPath_of_shorter {path longer : Path} (within : path.octets <+: longer.octets)
    (nonempty : path.octets ≠ []) (accepted : checkPath longer = .ok ()) : checkPath path = .ok () := by
  unfold checkPath at accepted ⊢
  split at accepted
  · cases accepted
  · split at accepted
    · cases accepted
    · split at accepted
      · cases accepted
      · rename_i noNul _ short
        have fewer := within.length_le
        have clean : ¬ path.octets.contains 0 = true := fun nul =>
          noNul (List.contains_iff_mem.2 (within.subset (List.contains_iff_mem.1 nul)))
        rw [if_neg clean, if_neg (by simpa using nonempty), if_neg (by omega)]

theorem checkPath_of_unlink {path : Path} {after : FileTree} (unlinked : tree.unlink path = .ok after) :
    checkPath path = .ok () := by
  rw [unlink] at unlinked
  rcases accepted : checkPath path with cause | value
  · rw [accepted] at unlinked
    cases unlinked
  · rfl

/-- What is unlinked below a directory is the entry of the name, in the directory that the path leads to. -/
theorem unlink_join {after : FileTree} {path : Path} {name : Octets} (absolute : path.isAbsolute = true)
    (isName : Path.IsName name) (lookedUp : LookedUp name)
    (unlinked : tree.unlink (path.join ⟨name⟩) = .ok after) :
    ∃ directory node, tree.DirectoryAt path directory ∧ tree.node? (name :: directory) = some node ∧
      node ≠ .directory ∧ after = tree.erase (name :: directory) := by
  have entry := namesEntry_join path isName lookedUp
  have accepted := checkPath_of_unlink unlinked
  obtain ⟨names, before⟩ := path.names_join isName
  have nonempty : path.octets ≠ [] := by
    intro empty
    simp [Path.isAbsolute, empty] at absolute
  have top : tree.start path = [] := by rw [FileTree.start, if_pos absolute]
  have topToo : tree.start (path.join ⟨name⟩) = [] := by
    rw [FileTree.start, if_pos (Path.isAbsolute_join absolute _)]
  rw [entry.unlink_eq accepted, entry.steps_eq, names, topToo] at unlinked
  split at unlinked
  · cases unlinked
  · cases unlinked
  · rename_i location node led
    split at unlinked
    · cases unlinked
    · rename_i notDirectory
      cases unlinked
      obtain ⟨directory, leads, solid, rfl⟩ := (leads_of_walk led).toEntry lookedUp tree.solid_nil
      refine ⟨directory, node, ⟨checkPath_of_shorter before nonempty accepted, ?_, solid.directory⟩, ?_,
        notDirectory, rfl⟩
      · rw [top, steps]
        split
        · exact leads.dot solid.directory
        · rwa [List.append_nil]
      · have standing := node_of_walk led
        rcases found : tree.node? (name :: directory) with _ | other
        · rw [found] at standing
          exact absurd standing notDirectory
        · rw [found] at standing
          exact congrArg some standing.symm

structure Loses (tree after : FileTree) (location : Location) : Prop where
  gone : after.node? location = none
  kept : ∀ other, other ≠ location → after.node? other = tree.node? other
  base : after.base = tree.base

theorem loses_erase (tree : FileTree) {location : Location} (below : location ≠ []) :
    tree.Loses (tree.erase location) location :=
  ⟨tree.node?_erase_self below, fun _ different => tree.node?_erase_of_ne different, rfl⟩

end FileTree

end ScenarioBench

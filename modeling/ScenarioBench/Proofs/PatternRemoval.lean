import Mathlib
import ScenarioBench.Proofs.GlobSearch
import ScenarioBench.Proofs.PathResolution

/-! Removal by pattern.

A pattern concerns the regular files directly inside a directory whose names are text in its language. Files stand on
no way to a directory, so each of them can go without any other path being led elsewhere. Main statement: exactly the
concerned files go, in whatever order they are listed, and their number is the result; a second removal finds nothing;
a missing directory holds nothing, and whatever else is no directory is refused.
-/

set_option autoImplicit false

namespace ScenarioBench

namespace FileTree

def without (tree : FileTree) (locations : List Location) : FileTree :=
  tree.keep fun entry => entry.1 ∉ locations

inductive Misses (tree : FileTree) : Nat → Location → List Octets → Prop where
  | here {links : Nat} {here : Location} {name : Octets} {rest : List Octets} :
      LookedUp name → name.length ≤ maximumName → tree.node? (name :: here) = none →
      Misses tree links here (name :: rest)
  | stay {links : Nat} {here : Location} {rest : List Octets} :
      Misses tree links here rest → Misses tree links here (Path.dot :: rest)
  | up {links : Nat} {here : Location} {rest : List Octets} :
      Misses tree links here.tail rest → Misses tree links here (Path.dotDot :: rest)
  | into {links : Nat} {here : Location} {name : Octets} {rest : List Octets} :
      LookedUp name → name.length ≤ maximumName → tree.node? (name :: here) = some .directory →
      Misses tree links (name :: here) rest → Misses tree links here (name :: rest)
  | follow {links : Nat} {here : Location} {name : Octets} {rest : List Octets} {target : Path} :
      LookedUp name → name.length ≤ maximumName → tree.node? (name :: here) = some (.link target) →
      Misses tree links (if target.isAbsolute then [] else here) (steps target ++ rest) →
      Misses tree (links + 1) here (name :: rest)

/-- A path that is empty or leads to where nothing stands. -/
def Missing (tree : FileTree) (path : Path) : Prop :=
  path.octets = [] ∨ checkPath path = .ok () ∧ Misses tree maximumLinks (tree.start path) (steps path)

section
variable {tree other after : FileTree} {links : Nat} {here location : Location} {names : List Octets} {name : Octets}
  {path : Path} {locations : List Location}

/-! ### Ways to a directory -/

/-- No file stands on a way to a directory. -/
theorem Leads.kept {through : Bool} (leads : Leads tree through links here names location)
    (kept : ∀ passed node, tree.node? passed = some node → node.isFile = false → other.node? passed = some node)
    (notFile : ∀ node, tree.node? location = some node → node.isFile = false) :
    Leads other through links here names location := by
  induction leads with
  | arrived => exact .arrived
  | stay _ ih => exact .stay (ih notFile)
  | up _ ih => exact .up (ih notFile)
  | into lookedUp short there _ ih => exact .into lookedUp short (kept _ _ there rfl) (ih notFile)
  | file _ _ there => exact nomatch notFile _ there
  | link itself lookedUp short there => exact .link itself lookedUp short (kept _ _ there rfl)
  | follow goesOn lookedUp short there _ ih =>
    exact .follow goesOn lookedUp short (kept _ _ there rfl) (ih notFile)

theorem isFile_of_node? {node : Node} (led : tree.nodeAt path = .ok (location, .directory))
    (there : tree.node? location = some node) : node.isFile = false := by
  have standing := node_of_walk (nodeAt_eq_ok_iff.1 led).2
  rw [there] at standing
  cases standing
  rfl

structure Removable (tree : FileTree) (directory : Path) (location : Location) (name : Octets) : Prop where
  isName : Path.IsName name
  lookedUp : LookedUp name
  short : name.length ≤ maximumName
  accepted : checkPath (directory.join ⟨name⟩) = .ok ()
  file : ∃ content executable, tree.node? (name :: location) = some (.file content executable)

theorem Removable.unlink {directory : Path} (removable : Removable tree directory location name)
    (found : tree.nodeAt directory = .ok (location, .directory)) :
    tree.unlink (directory.join ⟨name⟩) = .ok (tree.erase (name :: location)) := by
  obtain ⟨isName, lookedUp, short, accepted, content, executable, there⟩ := removable
  have entry := namesEntry_join directory isName lookedUp
  have start : tree.start (directory.join ⟨name⟩) = tree.start directory := by
    rw [FileTree.start, FileTree.start, directory.isAbsolute_join_relative isName.relative]
  obtain ⟨used, atMost, further⟩ := walk_append (walk_names (nodeAt_eq_ok_iff.1 found).2)
  obtain ⟨more, whole⟩ := Nat.exists_eq_add_of_le atMost
  have led : tree.walk false maximumLinks (tree.start directory) (directory.names ++ [name]) =
      .ok (.taken (name :: location) (.file content executable)) := by
    rw [whole, further false more [name] rfl, walk, if_neg lookedUp.notDot, if_neg lookedUp.notDotDot,
      if_neg (Nat.not_lt.2 short), there]
    rfl
  rw [entry.unlink_eq accepted, entry.steps_eq, (directory.names_join isName).1, start, led]
  rfl

/-! ### Several files -/

@[simp] theorem without_nil (tree : FileTree) : tree.without [] = tree :=
  FileTree.ext (by simp [without, keep]) rfl

@[simp] theorem erase_without (tree : FileTree) (location : Location) (locations : List Location) :
    (tree.erase location).without locations = tree.without (location :: locations) := by
  refine FileTree.ext ?_ rfl
  simp only [without, erase, keep, List.filter_filter]
  congr 1
  funext entry
  simp [List.mem_cons, Bool.and_comm]

theorem without_within (tree : FileTree) (locations : List Location) : (tree.without locations).Within tree := by
  induction locations generalizing tree with
  | nil =>
    rw [without_nil]
    exact .refl tree
  | cons location rest ih =>
    rw [← erase_without]
    exact (ih _).trans (tree.erase_within location)

@[simp] theorem node?_without (tree : FileTree) (kept : location ∉ locations) :
    (tree.without locations).node? location = tree.node? location := by
  induction locations generalizing tree with
  | nil => rw [without_nil]
  | cons first rest ih =>
    obtain ⟨different, others⟩ := not_or.1 (mt List.mem_cons.2 kept)
    rw [← erase_without, ih _ others, node?_erase_of_ne tree different]

/-- A path leads to the same directory once files are gone. -/
theorem nodeAt_without (found : tree.nodeAt path = .ok (location, .directory))
    (files : ∀ gone ∈ locations, ∀ node, tree.node? gone = some node → node.isFile = true) :
    (tree.without locations).nodeAt path = .ok (location, .directory) := by
  obtain ⟨accepted, led⟩ := nodeAt_eq_ok_iff.1 found
  -- What a way passes is no file, and only files are gone.
  have standing : ∀ passed node, tree.node? passed = some node → node.isFile = false →
      (tree.without locations).node? passed = some node := by
    intro passed node there passing
    rw [node?_without, there]
    intro gone
    rw [files _ gone _ there] at passing
    cases passing
  obtain ⟨node, still⟩ := ((leads_of_walk led).kept standing fun _ => isFile_of_node? found).walk
  refine nodeAt_eq_ok_iff.2 ⟨accepted, ?_⟩
  have same : node = .directory := by
    rw [node_of_walk still]
    -- A way that is empty takes its start for a directory even where nothing stands; what is left stood there before.
    rcases there : (tree.without locations).node? location with _ | other
    · rfl
    · have before := (tree.without_within locations).node? _ _ there
      have directory := node_of_walk led
      rw [before] at directory
      exact directory.symm
  rw [same] at still
  exact still

theorem Removable.without (removable : Removable tree path location name)
    (kept : name :: location ∉ locations) : Removable (tree.without locations) path location name :=
  ⟨removable.isName, removable.lookedUp, removable.short, removable.accepted,
    (tree.node?_without kept).symm ▸ removable.file⟩

/-! ### Missing directories -/

theorem misses_of_walk (led : tree.walk true links here names = .error .notFound ∨
      ∃ directory name, tree.walk true links here names = .ok (.free directory name)) :
    Misses tree links here names := by
  generalize itself : true = through at led
  fun_induction walk tree through links here names with
  | case1 => simp at led
  | case2 links here rest ih => exact .stay (ih led)
  | case3 links here rest _ ih => exact .up (ih led)
  | case5 links here name rest notDot notDotDot short free | case6 links here name rest notDot notDotDot short free =>
    exact .here ⟨notDot, notDotDot⟩ (Nat.not_lt.1 short) free
  | case7 links here name rest notDot notDotDot short there ih =>
    exact .into ⟨notDot, notDotDot⟩ (Nat.not_lt.1 short) there (ih led)
  | case12 here name rest notDot notDotDot short target there goesOn links ih =>
    exact .follow ⟨notDot, notDotDot⟩ (Nat.not_lt.1 short) there (ih led)
  | _ => simp at led

theorem Misses.walk (misses : Misses tree links here names) : tree.walk true links here names = .error .notFound ∨
    ∃ directory name, tree.walk true links here names = .ok (.free directory name) := by
  induction misses with
  | @here _ _ _ rest lookedUp short free =>
    rw [FileTree.walk, if_neg lookedUp.notDot, if_neg lookedUp.notDotDot, if_neg (Nat.not_lt.2 short), free]
    cases rest
    · exact .inr ⟨_, _, rfl⟩
    · exact .inl rfl
  | stay _ ih => simpa [FileTree.walk] using ih
  | up _ ih =>
    rw [FileTree.walk, if_neg (by decide), if_pos rfl]
    exact ih
  | into lookedUp short there _ ih =>
    rw [walk_cons_directory lookedUp.notDot lookedUp.notDotDot short there]
    exact ih
  | follow lookedUp short there _ ih =>
    rw [FileTree.walk, if_neg lookedUp.notDot, if_neg lookedUp.notDotDot, if_neg (Nat.not_lt.2 short), there]
    simp only [Bool.not_true, Bool.and_false, Bool.false_eq_true, if_false]
    exact ih

@[simp] theorem checkPath_notFound_iff : checkPath path = .error .notFound ↔ path.octets = [] := by
  unfold checkPath
  constructor
  · intro refused
    split at refused
    · cases refused
    · split at refused
      · rename_i empty
        exact List.isEmpty_iff.1 empty
      · split at refused <;> cases refused
  · intro empty
    rw [empty]
    rfl

theorem list_of_error {cause : OsError} (failed : tree.nodeAt path = .error cause) : tree.list path = .error cause := by
  rw [list, failed, error_bind]

theorem missing_iff : tree.Missing path ↔ tree.nodeAt path = .error .notFound := by
  simp only [nodeAt, follow, bind, Except.bind]
  constructor
  · rintro (empty | ⟨accepted, misses⟩)
    · rw [checkPath_notFound_iff.2 empty]
    · rw [accepted]
      rcases misses.walk with missed | ⟨directory, name, free⟩
      · simp only [missed]
      · simp only [free]
  · intro missed
    rcases accepted : checkPath path with cause | value
    · rw [accepted] at missed
      cases missed
      exact .inl (checkPath_notFound_iff.1 accepted)
    · refine .inr ⟨accepted, misses_of_walk ?_⟩
      rw [accepted] at missed
      rcases led : tree.walk true maximumLinks (tree.start path) (steps path)
        with cause | ⟨location, node⟩ | ⟨free, name⟩
      · rw [led] at missed
        cases missed
        exact .inl rfl
      · rw [led] at missed
        cases missed
      · exact .inr ⟨free, name, rfl⟩

end

end FileTree

namespace ScratchFiles

open FileTree (Removable)

/-- What a pattern concerns: a regular file directly inside a directory whose name is text in the language of the
pattern. -/
structure Concerned (pattern : String) (directory : Location) (entry : Location × Node) : Prop where
  file : entry.2.isFile = true
  named : ∃ name : String, entry.1 = Octets.ofText name :: directory ∧ name.toList ∈ Glob.language pattern.toList

section
variable {pattern : String} {directory : Path} {location : Location} {world : World} {names : List Octets}

theorem concerned_iff {name : Octets} {parent : Location} {node : Node} :
    Concerned pattern location (name :: parent, node) ↔ parent = location ∧ isMatch pattern (name, node) = true := by
  unfold isMatch
  constructor
  · rintro ⟨file, text, named, fits⟩
    obtain ⟨rfl, rfl⟩ := List.cons.inj named
    dsimp only
    rw [Octets.toText?_ofText]
    exact ⟨rfl, Bool.and_eq_true_iff.2 ⟨file, Glob.accepts_iff.2 fits⟩⟩
  · rintro ⟨rfl, fits⟩
    obtain ⟨file, fits⟩ := Bool.and_eq_true_iff.1 fits
    dsimp only at fits
    split at fits
    · rename_i text read
      exact ⟨file, text, by rw [Octets.ofText_of_toText? read], Glob.accepts_iff.1 fits⟩
    · cases fits

theorem not_concerned_nil (node : Node) : ¬ Concerned pattern location ([], node) := by
  rintro ⟨-, name, root, -⟩
  cases root

instance : DecidablePred (Concerned pattern location)
  | ([], node) => .isFalse (not_concerned_nil node)
  | (_ :: _, _) => decidable_of_iff _ concerned_iff.symm

theorem locations_eq (tree : FileTree) :
    (((tree.children location).filter (isMatch pattern)).map (·.1)).map (· :: location) =
      (tree.entries.filter (Concerned pattern location)).map (·.1) := by
  rw [FileTree.children, List.filter_filterMap, List.map_filterMap, List.map_filterMap, ← List.filterMap_eq_filter,
    List.map_filterMap]
  refine List.filterMap_congr fun entry _ => ?_
  obtain ⟨place, node⟩ := entry
  rcases place with _ | ⟨name, parent⟩
  · simp [Option.guard, not_concerned_nil]
  · by_cases same : parent = location
    · by_cases fits : isMatch pattern (name, node) = true <;> simp [Option.guard, concerned_iff, same, fits]
    · simp [Option.guard, concerned_iff, same]

theorem removeEach_apply (found : world.tree.nodeAt directory = .ok (location, .directory)) (distinct : names.Nodup)
    (removable : ∀ name ∈ names, Removable world.tree directory location name) :
    removeEach directory names world =
      (.ok names.length, { world with tree := world.tree.without (names.map (· :: location)) }) := by
  induction names generalizing world with
  | nil =>
    rw [List.map_nil, FileTree.without_nil]
    rfl
  | cons name rest ih =>
    obtain ⟨fresh, others⟩ := List.nodup_cons.1 distinct
    obtain ⟨first, later⟩ := List.forall_mem_cons.1 removable
    have removed : removeFrom world.tree (directory.join ⟨name⟩) = .ok (world.tree.erase (name :: location)) := by
      rw [removeFrom, first.unlink found]
    have single : world.tree.erase (name :: location) = world.tree.without [name :: location] := by
      rw [← FileTree.erase_without, FileTree.without_nil]
    -- The directory is still found in the tree that is left, since what went was a file.
    have still : (world.tree.erase (name :: location)).nodeAt directory = .ok (location, .directory) := by
      rw [single]
      refine FileTree.nodeAt_without found ?_
      obtain ⟨content, executable, file⟩ := first.file
      intro gone only node there
      rw [List.mem_singleton.1 only, file] at there
      cases there
      rfl
    have rest := @ih { world with tree := world.tree.erase (name :: location) } still others ?_
    · rw [removeEach, Action.bind_apply, remove_apply, removed]
      dsimp only
      rw [Action.bind_apply, rest]
      dsimp only
      rw [FileTree.erase_without]
      rfl
    · intro other among
      rw [single]
      refine (later other among).without ?_
      intro same
      cases List.mem_singleton.1 same
      exact fresh among

/-- The concerned files can be unlinked. -/
def Unlinkable (tree : FileTree) (directory : Path) (pattern : String) (location : Location) : Prop :=
  ∀ entry ∈ tree.entries, Concerned pattern location entry →
    ∃ name after, entry.1 = name :: location ∧ tree.unlink (directory.join ⟨name⟩) = .ok after

def spared (tree : FileTree) (pattern : String) (location : Location) : FileTree :=
  tree.keep fun entry => ¬ Concerned pattern location entry

theorem without_eq_spared (tree : FileTree) :
    tree.without ((tree.entries.filter (Concerned pattern location)).map (·.1)) = spared tree pattern location := by
  refine FileTree.ext (List.filter_congr fun entry member => ?_) rfl
  rw [decide_eq_decide]
  refine not_congr ⟨fun gone => ?_, fun concerned => ?_⟩
  · -- No two entries have one location.
    obtain ⟨other, among, same⟩ := List.mem_map.1 gone
    obtain ⟨listed, concerned⟩ := List.mem_filter.1 among
    rw [← List.inj_on_of_nodup_map tree.distinct listed member same]
    exact of_decide_eq_true concerned
  · exact List.mem_map_of_mem (List.mem_filter.2 ⟨member, decide_eq_true concerned⟩)

theorem removable_of_unlinkable {tree : FileTree} (unlinkable : Unlinkable tree directory pattern location) :
    ∀ name ∈ ((tree.children location).filter (isMatch pattern)).map (·.1),
      Removable tree directory location name := by
  intro name among
  obtain ⟨⟨octets, node⟩, chosen, rfl⟩ := List.mem_map.1 among
  obtain ⟨child, fits⟩ := List.mem_filter.1 chosen
  obtain ⟨there, isName, lookedUp⟩ := FileTree.node?_of_mem_children child
  have concerned : Concerned pattern location (octets :: location, node) := concerned_iff.2 ⟨rfl, fits⟩
  obtain ⟨name, after, named, unlinked⟩ :=
    unlinkable _ (FileTree.mem_of_node? (List.cons_ne_nil _ _) there) concerned
  obtain rfl := (List.cons.inj named).1
  have accepted := FileTree.checkPath_of_unlink unlinked
  have entry := FileTree.namesEntry_join directory isName lookedUp
  refine ⟨isName, lookedUp, ?_, accepted, ?_⟩
  · -- The last step of a way that was found is looked up, so its name is not too long.
    rw [entry.unlink_eq accepted, entry.steps_eq, (directory.names_join isName).1] at unlinked
    split at unlinked
    · cases unlinked
    · cases unlinked
    · rename_i led
      obtain ⟨_, _, -, -, -, last⟩ := (FileTree.leads_of_walk led).split (List.cons_ne_nil _ _)
      exact (last.single lookedUp).1
  · cases node with
    | file content executable => exact ⟨content, executable, there⟩
    | directory | link => cases concerned.file

theorem removeEach_order {order : List (Octets × Node)}
    (found : world.tree.nodeAt directory = .ok (location, .directory))
    (unlinkable : Unlinkable world.tree directory pattern location)
    (listed : order.Perm (world.tree.children location)) :
    removeEach directory ((order.filter (isMatch pattern)).map (·.1)) world =
      (.ok (world.tree.entries.countP (Concerned pattern location)),
        { world with tree := spared world.tree pattern location }) := by
  -- In any order the same locations go, and the tree that is left only depends on which they are.
  have names := (listed.filter (isMatch pattern)).map (·.1)
  have locations := names.map (· :: location)
  rw [locations_eq] at locations
  have distinct : ((order.filter (isMatch pattern)).map (·.1)).Nodup := by
    refine List.Nodup.of_map (· :: location) (locations.nodup_iff.2 ?_)
    exact world.tree.distinct.sublist (List.filter_sublist.map _)
  rw [removeEach_apply found distinct]
  · have same : world.tree.without (((order.filter (isMatch pattern)).map (·.1)).map (· :: location)) =
        spared world.tree pattern location := by
      rw [← without_eq_spared]
      refine FileTree.ext (List.filter_congr fun entry _ => ?_) rfl
      rw [decide_eq_decide, locations.mem_iff]
    have count := locations.length_eq
    rw [List.length_map, List.length_map (Prod.fst : Location × Node → Location), ← List.countP_eq_length_filter]
      at count
    rw [same, count]
  · intro name among
    exact removable_of_unlinkable unlinkable name (names.mem_iff.1 among)

@[simp] theorem spared_spared (tree : FileTree) : spared (spared tree pattern location) pattern location =
    spared tree pattern location :=
  FileTree.ext (by simp [spared, FileTree.keep, List.filter_filter]) rfl

theorem spared_concerns_nothing {tree : FileTree} {entry : Location × Node}
    (member : entry ∈ (spared tree pattern location).entries) : ¬ Concerned pattern location entry :=
  of_decide_eq_true (List.mem_filter.1 member).2

theorem nodeAt_spared {tree : FileTree} (found : tree.nodeAt directory = .ok (location, .directory)) :
    (spared tree pattern location).nodeAt directory = .ok (location, .directory) := by
  rw [← without_eq_spared]
  refine FileTree.nodeAt_without found fun gone among node there => ?_
  obtain ⟨entry, chosen, rfl⟩ := List.mem_map.1 among
  obtain ⟨listed, concerned⟩ := List.mem_filter.1 chosen
  have concerned := of_decide_eq_true concerned
  obtain ⟨file, name, named, -⟩ := id concerned
  rw [FileTree.node?_of_mem (named ▸ List.cons_ne_nil _ _) listed] at there
  cases there
  exact file

theorem unlinkable_spared (tree : FileTree) :
    Unlinkable (spared tree pattern location) directory pattern location :=
  fun _ member concerned => absurd concerned (spared_concerns_nothing member)

theorem removeMatching_of_unlinkable (found : world.tree.nodeAt directory = .ok (location, .directory))
    (unlinkable : Unlinkable world.tree directory pattern location) :
    removeMatching directory pattern world =
      (.ok (world.tree.entries.countP (Concerned pattern location)),
        { world with tree := spared world.tree pattern location }) := by
  rw [removeMatching_apply, FileTree.list_eq_ok_iff.2 ⟨found, rfl⟩]
  exact removeEach_order found unlinkable (.refl _)

theorem removeMatching_of_missing (missing : world.tree.Missing directory) :
    removeMatching directory pattern world = (.ok 0, world) := by
  rw [removeMatching_apply, FileTree.list_of_error (FileTree.missing_iff.1 missing)]

theorem removeMatching_of_error {cause : OsError} (failed : world.tree.nodeAt directory = .error cause)
    (present : ¬ world.tree.Missing directory) :
    removeMatching directory pattern world = (.error (.io cause), world) := by
  rw [FileTree.missing_iff, failed] at present
  rw [removeMatching_apply, FileTree.list_of_error failed]
  cases cause with
  | notFound => exact absurd rfl present
  | _ => rfl

theorem removeMatching_of_other {node : Node} (found : world.tree.nodeAt directory = .ok (location, node))
    (other : node ≠ .directory) : removeMatching directory pattern world = (.error (.io .notADirectory), world) := by
  have listed : world.tree.list directory = .error .notADirectory := by
    rw [FileTree.list, found, ok_bind]
    cases node with
    | directory => exact absurd rfl other
    | file | link => rfl
  rw [removeMatching_apply, listed]

end

/-- The concerned files go and nothing else does, in whatever order the directory is listed; their number is the
result, and a second removal finds none of them. A missing directory holds nothing; any other path that leads to no
directory is refused, and the world stays as it is. -/
theorem removeMatching_removes_concerned (directory : Path) (pattern : String) (world : World) :
    (∀ location, world.tree.nodeAt directory = .ok (location, .directory) →
      Unlinkable world.tree directory pattern location →
      ∃ after, after = { world with tree := spared world.tree pattern location } ∧
        removeMatching directory pattern world =
          (.ok (world.tree.entries.countP (Concerned pattern location)), after) ∧
        (∀ order : List (Octets × Node), order.Perm (world.tree.children location) →
          removeEach directory ((order.filter (isMatch pattern)).map (·.1)) world =
            removeMatching directory pattern world) ∧
        removeMatching directory pattern after = (.ok 0, after)) ∧
    (world.tree.Missing directory → removeMatching directory pattern world = (.ok 0, world)) ∧
    (∀ location node, world.tree.nodeAt directory = .ok (location, node) → node ≠ .directory →
      removeMatching directory pattern world = (.error (.io .notADirectory), world)) ∧
    (¬ world.tree.Missing directory → world.tree.isDirectory directory = false →
      ∃ cause, removeMatching directory pattern world = (.error (.io cause), world)) := by
  refine ⟨fun location found unlinkable => ?_, fun missing => ?_, fun location node found other => ?_,
    fun present undirected => ?_⟩
  · have removed := removeMatching_of_unlinkable found unlinkable
    refine ⟨_, rfl, removed, fun order listed => ?_, ?_⟩
    · rw [removed, removeEach_order found unlinkable listed]
    · -- Nothing of what was spared is concerned.
      have again := @removeMatching_of_unlinkable pattern directory location
        { world with tree := spared world.tree pattern location }
        (nodeAt_spared found) (unlinkable_spared world.tree)
      have none : (spared world.tree pattern location).entries.countP (Concerned pattern location) = 0 :=
        List.countP_eq_zero.2 fun entry member => by simpa using spared_concerns_nothing member
      rwa [none, spared_spared] at again
  · exact removeMatching_of_missing missing
  · exact removeMatching_of_other found other
  · rcases found : world.tree.nodeAt directory with cause | ⟨location, node⟩
    · exact ⟨cause, removeMatching_of_error found present⟩
    · refine ⟨_, removeMatching_of_other found ?_⟩
      rintro rfl
      rw [FileTree.isDirectory, found] at undirected
      cases undirected

/-- A directory behind a link. Two files in it fit a pattern; beside them stand a directory and a link with fitting
names, a name that is no text, a file that does not fit, and a file deeper down. -/
def crowdedTree : FileTree where
  entries := [
    ([Octets.ofText "logs"], .directory),
    ([Octets.ofText "a1.tgz", Octets.ofText "logs"], .file [] false),
    ([Octets.ofText "a2.tgz", Octets.ofText "logs"], .directory),
    ([Octets.ofText "a3.tgz", Octets.ofText "a2.tgz", Octets.ofText "logs"], .file [] false),
    ([Octets.ofText "a4.tgz", Octets.ofText "logs"], .link (.ofText "a1.tgz")),
    ([[0x61, 0xFF] ++ Octets.ofText ".tgz", Octets.ofText "logs"], .file [] false),
    ([Octets.ofText "keep.log", Octets.ofText "logs"], .file [] false),
    ([Octets.ofText "a.tgz", Octets.ofText "logs"], .file [] true),
    ([Octets.ofText "way"], .link (.ofText "logs/"))]
  base := []
  distinct := by decide
  named := by decide
  baseNamed := by decide

theorem removeMatching_removes_concerned_crowdedTree :
    crowdedTree.nodeAt (.ofText "way/") = .ok ([Octets.ofText "logs"], .directory) ∧
      Unlinkable crowdedTree (.ofText "way/") "a*.tgz" [Octets.ofText "logs"] ∧
      crowdedTree.entries.countP (Concerned "a*.tgz" [Octets.ofText "logs"]) = 2 ∧
      removeMatching (.ofText "way/") "a*.tgz" (.fresh crowdedTree) =
        (.ok 2, .fresh (spared crowdedTree "a*.tgz" [Octets.ofText "logs"])) ∧
      removeMatching (.ofText "way/old") "*" (.fresh crowdedTree) = (.ok 0, .fresh crowdedTree) ∧
      removeMatching (.ofText "logs/keep.log") "*" (.fresh crowdedTree) =
        (.error (.io .notADirectory), .fresh crowdedTree) ∧
      ∃ cause, removeMatching (.ofText "logs/keep.log/old") "*" (.fresh crowdedTree) =
        (.error (.io cause), .fresh crowdedTree) := by
  have found : crowdedTree.nodeAt (.ofText "way/") = .ok ([Octets.ofText "logs"], .directory) := by cbv
  have concerned : crowdedTree.entries.filter (Concerned "a*.tgz" [Octets.ofText "logs"]) = [
      ([Octets.ofText "a1.tgz", Octets.ofText "logs"], .file [] false),
      ([Octets.ofText "a.tgz", Octets.ofText "logs"], .file [] true)] := by decide
  have unlinkable : Unlinkable crowdedTree (.ofText "way/") "a*.tgz" [Octets.ofText "logs"] := by
    intro entry member fits
    have among : entry ∈ crowdedTree.entries.filter (Concerned "a*.tgz" [Octets.ofText "logs"]) :=
      List.mem_filter.2 ⟨member, decide_eq_true fits⟩
    rw [concerned, List.mem_cons, List.mem_singleton] at among
    rcases among with rfl | rfl
    · have removable : Removable crowdedTree (.ofText "way/") [Octets.ofText "logs"] (Octets.ofText "a1.tgz") :=
        ⟨by decide, by decide, by decide, by decide, [], false, rfl⟩
      exact ⟨_, _, rfl, removable.unlink found⟩
    · have removable : Removable crowdedTree (.ofText "way/") [Octets.ofText "logs"] (Octets.ofText "a.tgz") :=
        ⟨by decide, by decide, by decide, by decide, [], true, rfl⟩
      exact ⟨_, _, rfl, removable.unlink found⟩
  have count : crowdedTree.entries.countP (Concerned "a*.tgz" [Octets.ofText "logs"]) = 2 := by
    rw [List.countP_eq_length_filter, concerned]
    rfl
  obtain ⟨after, rfl, removed, -⟩ :=
    (removeMatching_removes_concerned (.ofText "way/") "a*.tgz" (.fresh crowdedTree)).1 _ found unlinkable
  have missing : crowdedTree.Missing (.ofText "way/old") := FileTree.missing_iff.2 (by cbv)
  have file : crowdedTree.nodeAt (.ofText "logs/keep.log") =
      .ok ([Octets.ofText "keep.log", Octets.ofText "logs"], .file [] false) := by cbv
  have blocked : crowdedTree.nodeAt (.ofText "logs/keep.log/old") = .error .notADirectory := by cbv
  have present : ¬ crowdedTree.Missing (.ofText "logs/keep.log/old") := by
    rw [FileTree.missing_iff, blocked]
    decide
  have undirected : crowdedTree.isDirectory (.ofText "logs/keep.log/old") = false := by
    rw [FileTree.isDirectory, blocked]
  exact ⟨found, unlinkable, count, count ▸ removed,
    (removeMatching_removes_concerned _ _ (.fresh crowdedTree)).2.1 missing,
    (removeMatching_removes_concerned _ _ (.fresh crowdedTree)).2.2.1 _ _ file (by decide),
    (removeMatching_removes_concerned _ _ (.fresh crowdedTree)).2.2.2 present undirected⟩

end ScratchFiles

end ScenarioBench

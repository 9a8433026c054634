import ScenarioBench.Bench.Context

/-! What stands at a path after a file was removed.

Names lead to a node step by step, or they lead nowhere. Taking a node away can only break such a way, so
removing files never makes anything appear at a path; and no way ends at a name whose file was removed, no
matter through which links it went.
-/

set_option autoImplicit false

namespace ScenarioBench

namespace FileTree

/-! ### Taking a node away -/

@[simp] theorem node?_erase_self (tree : FileTree) {location : Location} (below : location ≠ []) :
    (tree.erase location).node? location = none := by
  rw [node?, if_neg below, erase, keep, List.lookup_eq_none_iff]
  intro entry member
  have kept : entry.1 ≠ location := by simpa using (List.mem_filter.1 member).2
  exact bne_iff_ne.2 (Ne.symm kept)

@[simp] theorem node?_erase_of_ne (tree : FileTree) {location other : Location}
    (different : other ≠ location) : (tree.erase location).node? other = tree.node? other := by
  unfold node?
  split
  · rfl
  · show (tree.entries.filter _).lookup other = tree.entries.lookup other
    induction tree.entries with
    | nil => rfl
    | cons entry rest ih =>
      by_cases gone : entry.1 = location
      · have missed : (other == entry.1) = false := beq_false_of_ne (gone ▸ different)
        rw [List.filter_cons_of_neg (by simpa using gone), ih, List.lookup_cons, missed]
      · rw [List.filter_cons_of_pos (by simpa using gone), List.lookup_cons, List.lookup_cons, ih]

structure Within (smaller tree : FileTree) : Prop where
  base : smaller.base = tree.base
  node? : ∀ location node, smaller.node? location = some node → tree.node? location = some node

theorem Within.refl (tree : FileTree) : tree.Within tree :=
  ⟨rfl, fun _ _ there => there⟩

theorem Within.trans {smaller tree larger : FileTree} (first : smaller.Within tree)
    (second : tree.Within larger) : smaller.Within larger :=
  ⟨first.base.trans second.base, fun location node there => second.node? _ _ (first.node? location node there)⟩

theorem erase_within (tree : FileTree) (location : Location) : (tree.erase location).Within tree := by
  refine ⟨rfl, fun other node there => ?_⟩
  by_cases same : other = location
  · subst same
    by_cases root : other = []
    · -- The root directory stands in every tree.
      rw [FileTree.node?, if_pos root] at there ⊢
      exact there
    · rw [node?_erase_self tree root] at there
      cases there
  · rwa [node?_erase_of_ne tree same] at there

/-! ### Ways through a tree -/

/-- Names lead from a directory to a location where something stands. -/
inductive Leads (tree : FileTree) (through : Bool) :
    Nat → Location → List Octets → Location → Prop where
  | arrived {links : Nat} {here : Location} : Leads tree through links here [] here
  | stay {links : Nat} {here location : Location} {rest : List Octets} :
      Leads tree through links here rest location →
      Leads tree through links here (Path.dot :: rest) location
  | up {links : Nat} {here location : Location} {rest : List Octets} :
      Leads tree through links here.tail rest location →
      Leads tree through links here (Path.dotDot :: rest) location
  | into {links : Nat} {here location : Location} {name : Octets} {rest : List Octets} :
      LookedUp name → name.length ≤ maximumName → tree.node? (name :: here) = some .directory →
      Leads tree through links (name :: here) rest location →
      Leads tree through links here (name :: rest) location
  | file {links : Nat} {here : Location} {name content : Octets} {executable : Bool} :
      LookedUp name → name.length ≤ maximumName →
      tree.node? (name :: here) = some (.file content executable) →
      Leads tree through links here [name] (name :: here)
  | link {links : Nat} {here : Location} {name : Octets} {target : Path} : through = false →
      LookedUp name → name.length ≤ maximumName → tree.node? (name :: here) = some (.link target) →
      Leads tree through links here [name] (name :: here)
  | follow {links : Nat} {here location : Location} {name : Octets} {rest : List Octets}
      {target : Path} : (rest.isEmpty && !through) = false →
      LookedUp name → name.length ≤ maximumName → tree.node? (name :: here) = some (.link target) →
      Leads tree through links (if target.isAbsolute then [] else here) (steps target ++ rest)
        location →
      Leads tree through (links + 1) here (name :: rest) location

section
variable {tree smaller : FileTree} {through : Bool} {links : Nat} {here location : Location}
  {names : List Octets} {node : Node}

theorem leads_of_walk (led : tree.walk through links here names = .ok (.taken location node)) :
    Leads tree through links here names location := by
  -- The cases that are named go on or arrive; the others end in an error or at a free name.
  fun_induction walk tree through links here names with
  | case1 =>
    cases led
    exact .arrived
  | case2 links here rest ih => exact .stay (ih led)
  | case3 links here rest _ ih => exact .up (ih led)
  | case7 links here name rest notDot notDotDot short there ih =>
    exact .into ⟨notDot, notDotDot⟩ (Nat.not_lt.1 short) there (ih led)
  | case8 links here name rest notDot notDotDot short content executable there last =>
    cases led
    rw [List.isEmpty_iff.1 last]
    exact .file ⟨notDot, notDotDot⟩ (Nat.not_lt.1 short) there
  | case10 links here name rest notDot notDotDot short target there last =>
    cases led
    obtain ⟨last, itself⟩ := Bool.and_eq_true_iff.1 last
    rw [List.isEmpty_iff.1 last]
    exact .link (by simpa using itself) ⟨notDot, notDotDot⟩ (Nat.not_lt.1 short) there
  | case12 here name rest notDot notDotDot short target there goesOn links ih =>
    exact .follow (Bool.eq_false_iff.2 goesOn) ⟨notDot, notDotDot⟩ (Nat.not_lt.1 short) there
      (ih led)
  | _ => cases led

namespace Leads

theorem walk (leads : Leads tree through links here names location) :
    ∃ node, tree.walk through links here names = .ok (.taken location node) := by
  induction leads with
  | arrived => exact ⟨_, by rw [FileTree.walk]⟩
  | stay _ ih => simpa [FileTree.walk] using ih
  | up _ ih =>
    obtain ⟨node, led⟩ := ih
    refine ⟨node, ?_⟩
    rw [FileTree.walk, if_neg (by decide), if_pos rfl, led]
  | into lookedUp short there _ ih =>
    rw [walk_cons_directory lookedUp.notDot lookedUp.notDotDot short there]
    exact ih
  | @file _ _ _ content executable lookedUp short there =>
    refine ⟨.file content executable, ?_⟩
    rw [FileTree.walk, if_neg lookedUp.notDot, if_neg lookedUp.notDotDot,
      if_neg (Nat.not_lt.2 short), there]
    rfl
  | @link _ _ _ target itself lookedUp short there =>
    refine ⟨.link target, ?_⟩
    rw [FileTree.walk, if_neg lookedUp.notDot, if_neg lookedUp.notDotDot,
      if_neg (Nat.not_lt.2 short), there, itself]
    rfl
  | follow goesOn lookedUp short there _ ih =>
    obtain ⟨node, led⟩ := ih
    refine ⟨node, ?_⟩
    rw [FileTree.walk, if_neg lookedUp.notDot, if_neg lookedUp.notDotDot,
      if_neg (Nat.not_lt.2 short), there]
    simp only [goesOn, Bool.false_eq_true, if_false]
    exact led

theorem mono (within : smaller.Within tree) (leads : Leads smaller through links here names location) :
    Leads tree through links here names location := by
  induction leads with
  | arrived => exact .arrived
  | stay _ ih => exact .stay ih
  | up _ ih => exact .up ih
  | into lookedUp short there _ ih => exact .into lookedUp short (within.node? _ _ there) ih
  | file lookedUp short there => exact .file lookedUp short (within.node? _ _ there)
  | link itself lookedUp short there => exact .link itself lookedUp short (within.node? _ _ there)
  | follow goesOn lookedUp short there _ ih =>
    exact .follow goesOn lookedUp short (within.node? _ _ there) ih

theorem itself (leads : Leads tree true links here names location) :
    ∃ other, Leads tree false links here names other := by
  -- The two ways part at a link that is the last name, and only there.
  induction leads with
  | @arrived _ here => exact ⟨here, .arrived⟩
  | stay _ ih =>
    obtain ⟨other, leads⟩ := ih
    exact ⟨other, .stay leads⟩
  | up _ ih =>
    obtain ⟨other, leads⟩ := ih
    exact ⟨other, .up leads⟩
  | into lookedUp short there _ ih =>
    obtain ⟨other, leads⟩ := ih
    exact ⟨other, .into lookedUp short there leads⟩
  | file lookedUp short there => exact ⟨_, .file lookedUp short there⟩
  | link itself => cases itself
  | @follow _ _ _ _ rest _ _ lookedUp short there _ ih =>
    cases rest with
    | nil => exact ⟨_, .link rfl lookedUp short there⟩
    | cons next rest =>
      obtain ⟨other, leads⟩ := ih
      exact ⟨other, .follow rfl lookedUp short there leads⟩

theorem stands {last : Octets} (leads : Leads tree false links here names location)
    (ends : names.getLast? = some last) (lookedUp : LookedUp last) :
    location ≠ [] ∧ tree.node? location ≠ none := by
  -- A way that ends by staying or going up may end at the root, which no entry stands for.
  induction leads with
  | arrived => cases ends
  | @stay _ _ _ rest _ ih =>
    cases rest with
    | nil =>
      cases ends
      exact absurd rfl lookedUp.notDot
    | cons next rest => exact ih ends
  | @up _ _ _ rest _ ih =>
    cases rest with
    | nil =>
      cases ends
      exact absurd rfl lookedUp.notDotDot
    | cons next rest => exact ih ends
  | @into _ _ _ _ rest _ _ there leads ih =>
    cases rest with
    | nil =>
      cases leads
      exact ⟨List.cons_ne_nil _ _, by rw [there]; exact Option.some_ne_none _⟩
    | cons next rest => exact ih ends
  | file _ _ there => exact ⟨List.cons_ne_nil _ _, by rw [there]; exact Option.some_ne_none _⟩
  | link _ _ _ there => exact ⟨List.cons_ne_nil _ _, by rw [there]; exact Option.some_ne_none _⟩
  | @follow _ _ _ _ rest _ goesOn _ _ _ _ ih =>
    cases rest with
    | nil => cases goesOn
    | cons next rest => exact ih (by simpa [List.getLast?_append] using ends)

end Leads

end

/-! ### What a path holds -/

/-- Something stands at a path itself; a link at its end is not followed. -/
def Holds (tree : FileTree) (path : Path) : Prop :=
  checkPath path = .ok () ∧
    ∃ location node, tree.walk false maximumLinks (tree.start path) (steps path) =
      .ok (.taken location node)

theorem holds_iff_leads (tree : FileTree) (path : Path) :
    tree.Holds path ↔ checkPath path = .ok () ∧
      ∃ location, Leads tree false maximumLinks (tree.start path) (steps path) location :=
  and_congr_right fun _ => exists_congr fun _ =>
    ⟨fun ⟨_, led⟩ => leads_of_walk led, fun leads => leads.walk⟩

theorem Within.holds {smaller tree : FileTree} (within : smaller.Within tree) {path : Path}
    (held : smaller.Holds path) : tree.Holds path := by
  obtain ⟨accepted, location, leads⟩ := (holds_iff_leads smaller path).1 held
  have start : smaller.start path = tree.start path := by
    unfold FileTree.start
    rw [within.base]
  exact (holds_iff_leads tree path).2 ⟨accepted, location, start ▸ leads.mono within⟩

theorem holds_of_read {tree : FileTree} {path : Path} {content : Octets}
    (readable : tree.read path = .ok content) : tree.Holds path := by
  obtain ⟨location, executable, found⟩ := read_eq_ok_iff.1 readable
  obtain ⟨accepted, led⟩ := nodeAt_eq_ok_iff.1 found
  exact (holds_iff_leads tree path).2 ⟨accepted, (leads_of_walk led).itself⟩

theorem within_of_unlink {tree after : FileTree} {path : Path} (unlinked : tree.unlink path = .ok after) :
    after.Within tree := by
  simp only [unlink, bind, Except.bind] at unlinked
  repeat' split at unlinked
  all_goals cases unlinked
  exact tree.erase_within _

/-- A path ends with a name that is looked up. -/
structure NamesEntry (path : Path) (last : Octets) : Prop where
  ends : path.names.getLast? = some last
  lookedUp : LookedUp last
  unslashed : path.endsWithSlash = false

namespace NamesEntry

variable {tree after : FileTree} {path : Path} {last : Octets}

theorem steps_eq (entry : NamesEntry path last) : steps path = path.names := by
  simp [steps, entry.unslashed]

theorem unlink_eq (entry : NamesEntry path last) (accepted : checkPath path = .ok ()) :
    tree.unlink path = match tree.walk false maximumLinks (tree.start path) (steps path) with
      | .error cause => .error cause
      | .ok (.free _ _) => .error .notFound
      | .ok (.taken location node) =>
        if node = .directory then .error .isADirectory else .ok (tree.erase location) := by
  have neither : ¬ (last = Path.dot ∨ last = Path.dotDot) :=
    not_or.2 ⟨entry.lookedUp.notDot, entry.lookedUp.notDotDot⟩
  rw [entry.steps_eq]
  simp only [unlink, accepted, bind, Except.bind, entry.ends, if_neg neither, entry.unslashed]
  rcases tree.walk false maximumLinks (tree.start path) path.names with cause | spot
  · rfl
  · rcases spot with ⟨location, _ | _ | _⟩ | _ <;> rfl

/-- A file that was unlinked stands nowhere any more, and nothing else was touched. -/
theorem vacated (entry : NamesEntry path last) (unlinked : tree.unlink path = .ok after) :
    ¬ after.Holds path := by
  intro held
  obtain ⟨accepted, other, leads⟩ := (FileTree.holds_iff_leads after path).1 held
  rw [entry.unlink_eq accepted] at unlinked
  split at unlinked
  · cases unlinked
  · cases unlinked
  · rename_i location node led
    split at unlinked
    · cases unlinked
    · cases unlinked
      -- Both trees lead to the same location, and in the smaller one nothing stands there.
      obtain ⟨below, stands⟩ := leads.stands (entry.steps_eq ▸ entry.ends) entry.lookedUp
      obtain ⟨_, before⟩ := (leads.mono (tree.erase_within location)).walk
      have same : location = other := by
        rw [show (tree.erase location).start path = tree.start path from rfl, led] at before
        cases before
        rfl
      subst same
      exact stands (tree.node?_erase_self below)

theorem not_holds_of_notFound (entry : NamesEntry path last)
    (missing : tree.unlink path = .error .notFound) : ¬ tree.Holds path := by
  rintro ⟨accepted, location, node, led⟩
  rw [entry.unlink_eq accepted, led] at missing
  cases node <;> cases missing

end NamesEntry

theorem namesEntry_join (directory : Path) {name : Octets} (isName : Path.IsName name)
    (lookedUp : LookedUp name) : NamesEntry (directory.join ⟨name⟩) name :=
  ⟨directory.getLast?_names_join isName, lookedUp, directory.endsWithSlash_join isName⟩

end FileTree

def World.Clears (before after : World) : Prop :=
  ∀ path, after.tree.Holds path → before.tree.Holds path

instance : Std.Refl World.Clears :=
  ⟨fun _ _ held => held⟩

instance : Trans World.Clears World.Clears World.Clears :=
  ⟨fun first second path held => first path (second path held)⟩

namespace ScratchFiles

open FileTree (NamesEntry)

theorem within_of_removeFrom {tree after : FileTree} {path : Path}
    (removed : removeFrom tree path = .ok after) : after.Within tree := by
  unfold removeFrom at removed
  split at removed
  · cases removed
    exact .refl tree
  · exact FileTree.within_of_unlink removed

theorem not_holds_of_removeFrom {tree after : FileTree} {path : Path} {last : Octets}
    (entry : NamesEntry path last) (removed : removeFrom tree path = .ok after) :
    ¬ after.Holds path := by
  unfold removeFrom at removed
  split at removed
  · rename_i missing
    cases removed
    exact entry.not_holds_of_notFound missing
  · exact entry.vacated removed

theorem remove_clears (path : Path) : Action.Follows (remove path) World.Clears := by
  intro world
  rw [remove_apply]
  split
  · rename_i tree removed
    exact fun _ held => (within_of_removeFrom removed).holds held
  · exact Std.Refl.refl world

theorem removeEach_clears (directory : Path) (names : List Octets) :
    Action.Follows (removeEach directory names) World.Clears := by
  induction names with
  | nil => exact .pure 0
  | cons name rest ih => exact .bind (remove_clears _) fun _ => .bind ih fun _ => .pure _

theorem removeMatching_clears (directory : Path) (pattern : String) :
    Action.Follows (removeMatching directory pattern) World.Clears := by
  refine .bind .look fun world => ?_
  split
  · exact removeEach_clears _ _
  · exact .pure 0
  · exact .throw _

end ScratchFiles

end ScenarioBench

import ScenarioBench.Proofs.Entries

/-! Where paths lead.

The links that a way follows are counted, and more of them than are needed change nothing, so a path leads from a
directory to one spot at most. A way that passes a directory goes on from there as if it had started there. What a
path stands for is told apart from the limits that are set on the length of a path and on the number of its links.
Main statements: a path below a directory leads where its end leads from that directory, and so does the absolute form
of a path, which leaves out every `.` on the way.
-/

set_option autoImplicit false

namespace ScenarioBench

namespace FileTree

variable {tree : FileTree} {through : Bool} {links : Nat} {here place middle : Location} {names : List Octets}
  {spot : Spot} {path : Path}

theorem walk_lift {most : Nat} (led : tree.walk through links here names = .ok spot) (atMost : links ≤ most) :
    tree.walk through most here names = .ok spot := by
  fun_induction walk tree through links here names generalizing most with
  | case1 => rwa [walk]
  | case2 links here rest ih =>
    rw [walk, if_pos rfl]
    exact ih led atMost
  | case3 links here rest notDot ih =>
    rw [walk, if_neg notDot, if_pos rfl]
    exact ih led atMost
  | case5 links here name rest notDot notDotDot short free last =>
    rw [walk, if_neg notDot, if_neg notDotDot, if_neg short, free]
    exact (if_pos last).trans led
  | case7 links here name rest notDot notDotDot short there ih =>
    rw [walk, if_neg notDot, if_neg notDotDot, if_neg short, there]
    exact ih led atMost
  | case8 links here name rest notDot notDotDot short content executable there last =>
    rw [walk, if_neg notDot, if_neg notDotDot, if_neg short, there]
    exact (if_pos last).trans led
  | case10 links here name rest notDot notDotDot short target there last =>
    rw [walk, if_neg notDot, if_neg notDotDot, if_neg short, there]
    exact (if_pos last).trans led
  | case12 here name rest notDot notDotDot short target there goesOn links ih =>
    obtain ⟨most, rfl⟩ := Nat.exists_eq_add_of_le' (Nat.one_le_of_lt atMost)
    rw [walk, if_neg notDot, if_neg notDotDot, if_neg short, there]
    exact (if_neg goesOn).trans (ih led (Nat.le_of_succ_le_succ atMost))
  | _ => cases led

theorem walk_append (led : tree.walk true links here names = .ok (.taken middle .directory)) :
    ∃ used, used ≤ links ∧ ∀ through more rest, (rest.isEmpty && !through) = false →
      tree.walk through (used + more) here (names ++ rest) = tree.walk through more middle rest := by
  generalize itself : true = followed at led
  fun_induction walk tree followed links here names with
  | case1 links here =>
    obtain ⟨rfl, -⟩ := Spot.taken.inj (Except.ok.inj led)
    exact ⟨0, Nat.zero_le _, fun _ more _ _ => by rw [Nat.zero_add, List.nil_append]⟩
  | case2 links here rest ih =>
    obtain ⟨used, atMost, further⟩ := ih led
    refine ⟨used, atMost, fun through more last goesOn => ?_⟩
    rw [List.cons_append, walk, if_pos rfl]
    exact further through more last goesOn
  | case3 links here rest notDot ih =>
    obtain ⟨used, atMost, further⟩ := ih led
    refine ⟨used, atMost, fun through more last goesOn => ?_⟩
    rw [List.cons_append, walk, if_neg notDot, if_pos rfl]
    exact further through more last goesOn
  | case7 links here name rest notDot notDotDot short there ih =>
    obtain ⟨used, atMost, further⟩ := ih led
    refine ⟨used, atMost, fun through more last goesOn => ?_⟩
    rw [List.cons_append, walk, if_neg notDot, if_neg notDotDot, if_neg short, there]
    exact further through more last goesOn
  | case12 here name rest notDot notDotDot short target there _ links ih =>
    obtain ⟨used, atMost, further⟩ := ih led
    refine ⟨used + 1, Nat.succ_le_succ atMost, fun through more last goesOn => ?_⟩
    -- A link that ended the way was followed, and one that no longer ends it is followed too.
    have passed : ((rest ++ last).isEmpty && !through) = false := by
      rcases rest with _ | ⟨next, rest⟩
      · exact goesOn
      · rfl
    rw [List.cons_append, walk, if_neg notDot, if_neg notDotDot, if_neg short, there, Nat.succ_add]
    refine (if_neg (Bool.eq_false_iff.1 passed)).trans ?_
    have led := further through more last goesOn
    rwa [List.append_assoc] at led
  | _ => cases led

@[simp] theorem walk_stay (tree : FileTree) (through : Bool) (links : Nat) (here : Location) (rest : List Octets) :
    tree.walk through links here (Path.dot :: rest) = tree.walk through links here rest := by
  rw [walk, if_pos rfl]

theorem walk_dot {rest : List Octets} (more : rest ≠ []) (links : Nat) (here : Location) (front : List Octets) :
    tree.walk through links here (front ++ Path.dot :: rest) = tree.walk through links here (front ++ rest) := by
  -- A link puts its own steps in front, so that the front may grow; the number of links that may be followed does not.
  match front with
  | [] => exact walk_stay tree through links here rest
  | name :: front =>
    have goesOn : (front ++ rest).isEmpty = false := by simp [more]
    have goesOnToo : (front ++ Path.dot :: rest).isEmpty = false := by simp
    rw [List.cons_append, List.cons_append, walk.eq_def, walk.eq_def tree through links here (name :: (front ++ rest))]
    dsimp only
    rw [goesOn, goesOnToo]
    split
    · exact walk_dot more links here front
    · split
      · exact walk_dot more links here.tail front
      · split
        · rfl
        · split
          · rfl
          · exact walk_dot more links (name :: here) front
          · rfl
          · simp only [Bool.false_and, Bool.false_eq_true, if_false]
            split
            · rfl
            · rw [← List.append_assoc, ← List.append_assoc]
              exact walk_dot more _ _ _
termination_by (links, front.length)

theorem Leads.undot (leads : Leads tree true links here (names ++ [Path.dot]) place) :
    Leads tree true links here names place := by
  obtain ⟨fewer, middle, -, led, -, last⟩ := leads.split (List.cons_ne_nil _ _)
  cases last with
  | stay arrived =>
    cases arrived
    exact led
  | into lookedUp | file lookedUp | link _ lookedUp | follow _ lookedUp => exact absurd rfl lookedUp.notDot

theorem walk_names (led : tree.walk true links here (steps path) = .ok (.taken place .directory)) :
    tree.walk true links here path.names = .ok (.taken place .directory) := by
  have leads := leads_of_walk led
  rw [steps] at leads
  have bare : Leads tree true links here path.names place := by
    split at leads
    · exact leads.undot
    · rwa [List.append_nil] at leads
  obtain ⟨node, ledToo⟩ := bare.walk
  rw [ledToo, node_of_walk ledToo, ← node_of_walk led]

/-! ### What paths stand for -/

/-- Names lead from a directory to a spot, however many links they go through. -/
def Arrives (tree : FileTree) (here : Location) (names : List Octets) (spot : Spot) : Prop :=
  ∃ links, tree.walk true links here names = .ok spot

/-- What a path stands for where it is read in a directory: a node, or where one can be made. -/
def Denotes (tree : FileTree) (here : Location) (path : Path) (spot : Spot) : Prop :=
  tree.Arrives (if path.isAbsolute then [] else here) (steps path) spot

theorem Arrives.unique {other : Spot} (arrives : tree.Arrives here names spot)
    (arrivesToo : tree.Arrives here names other) : spot = other := by
  obtain ⟨links, led⟩ := arrives
  obtain ⟨others, ledToo⟩ := arrivesToo
  have led := walk_lift led (Nat.le_max_left links others)
  rw [walk_lift ledToo (Nat.le_max_right links others)] at led
  cases led
  rfl

theorem arrives_append {rest : List Octets} (arrives : tree.Arrives here names (.taken middle .directory)) :
    tree.Arrives here (names ++ rest) spot ↔ tree.Arrives middle rest spot := by
  obtain ⟨links, led⟩ := arrives
  obtain ⟨used, -, further⟩ := walk_append led
  have further (more : Nat) : tree.walk true (used + more) here (names ++ rest) = tree.walk true more middle rest :=
    further true more rest (Bool.and_false _)
  constructor
  · rintro ⟨links, led⟩
    exact ⟨links, further links ▸ walk_lift led (Nat.le_add_left _ _)⟩
  · rintro ⟨links, led⟩
    exact ⟨used + links, (further links).trans led⟩

theorem Denotes.arrives (denotes : tree.Denotes here path (.taken place .directory)) :
    tree.Arrives (if path.isAbsolute then [] else here) path.names (.taken place .directory) := by
  obtain ⟨links, led⟩ := denotes
  exact ⟨links, walk_names led⟩

theorem arrives_dot (here : Location) : tree.Arrives here [Path.dot] spot ↔ tree.Arrives here [] spot :=
  exists_congr fun links => by rw [walk_stay]

/-- A path below another one stands for what its end stands for in that directory. -/
theorem denotes_join (denotes : tree.Denotes here path (.taken place .directory)) (addition : Path) :
    tree.Denotes here (path.join addition) spot ↔ tree.Denotes place addition spot := by
  by_cases absolute : addition.isAbsolute = true
  · have alone : path.join addition = addition := if_pos absolute
    rw [alone, Denotes, Denotes, if_pos absolute, if_pos absolute]
  · have relative : addition.isAbsolute = false := Bool.eq_false_iff.2 absolute
    rw [Denotes, Denotes, path.isAbsolute_join_relative relative, relative, if_neg Bool.false_ne_true]
    by_cases nothing : addition.octets = []
    · -- At most a separator is added, which asks for the directory that is there.
      obtain rfl : addition = ⟨[]⟩ := congrArg Path.mk nothing
      rw [steps, path.names_join_relative relative, List.append_assoc, arrives_append denotes.arrives]
      split
      · exact arrives_dot place
      · exact Iff.rfl
    · rw [steps, path.names_join_relative relative, path.endsWithSlash_join_relative relative nothing,
        List.append_assoc, arrives_append denotes.arrives]
      rfl

theorem walk_filter {last : Octets} (ends : names.getLast? = some last) (named : last ≠ Path.dot) (links : Nat)
    (here : Location) (front : List Octets) :
    tree.walk through links here (front ++ names.filter (· ≠ Path.dot)) =
      tree.walk through links here (front ++ names) := by
  induction names generalizing front with
  | nil => rfl
  | cons name rest ih =>
    rcases rest with _ | ⟨next, rest⟩
    · cases ends
      rw [List.filter_cons_of_pos (by simpa using named)]
      rfl
    · by_cases dot : name = Path.dot
      · subst dot
        rw [List.filter_cons_of_neg (by simp), ih ends, walk_dot (List.cons_ne_nil _ _)]
      · have further := ih ends (front ++ [name])
        rw [List.append_assoc, List.append_assoc] at further
        rw [List.filter_cons_of_pos (by simpa using dot)]
        exact further

end FileTree

/-! ### Absolute forms -/

namespace Path

theorem partOfName_of_ne {name : Octets} (named : name ≠ dot) :
    ∃ part, partOfName name = some part ∧ part.toPath = ⟨name⟩ := by
  obtain ⟨part, read⟩ : ∃ part, partOfName name = some part := by
    unfold partOfName
    rw [if_neg named]
    split <;> exact ⟨_, rfl⟩
  exact ⟨part, read, congrArg Path.mk (toPath_of_partOfName read)⟩

theorem names_joinParts {names : List Octets} (pieces : ∀ name ∈ names, IsName name) (path : Path) :
    (path.joinParts (names.filterMap partOfName)).names = path.names ++ names.filter (· ≠ dot) := by
  induction names generalizing path with
  | nil => exact (List.append_nil _).symm
  | cons name rest ih =>
    obtain ⟨isName, others⟩ := List.forall_mem_cons.1 pieces
    by_cases here : name = dot
    · have none : partOfName name = none := if_pos here
      rw [List.filterMap_cons_none none, ih others, List.filter_cons_of_neg (by simpa using here)]
    · obtain ⟨part, read, same⟩ := partOfName_of_ne here
      rw [List.filterMap_cons_some read, List.filter_cons_of_pos (by simpa using here)]
      show ((path.join part.toPath).joinParts (rest.filterMap partOfName)).names = _
      rw [ih others, same, (path.names_join isName).1, List.append_assoc]
      rfl

theorem endsWithSlash_joinParts {names : List Octets} {last : Octets} (isName : IsName last)
    (ends : names.getLast? = some last) (named : last ≠ dot) (path : Path) :
    (path.joinParts (names.filterMap partOfName)).endsWithSlash = false := by
  obtain ⟨front, rfl⟩ := List.getLast?_eq_some_iff.1 ends
  obtain ⟨part, read, same⟩ := partOfName_of_ne named
  rw [List.filterMap_append, List.filterMap_cons_some read, List.filterMap_nil, joinParts, List.foldl_append]
  show (Path.join _ part.toPath).endsWithSlash = false
  rw [same]
  exact endsWithSlash_join _ isName

theorem joined_of_absolute {directory path whole : Path} (made : absolute directory path = .ok whole)
    (unslashed : path.endsWithSlash = false) :
    ∃ front, whole = front.joinParts (path.names.filterMap partOfName) ∧
      (path.isAbsolute = true ∧ front.names = [] ∨ path.isAbsolute = false ∧ front = directory) := by
  unfold absolute at made
  split at made
  · cases made
  · simp only [unslashed, Bool.false_eq_true, if_false] at made
    cases made
    split
    · rename_i absolute
      have rooted : path.parts = .root :: path.names.filterMap partOfName := by rw [parts, if_pos absolute]
      rw [rooted]
      split
      · exact ⟨⟨[slash, slash]⟩, rfl, .inl ⟨absolute, by decide⟩⟩
      · exact ⟨⟨[slash]⟩, rfl, .inl ⟨absolute, by decide⟩⟩
    · rename_i relative
      refine ⟨directory, ?_, .inr ⟨Bool.eq_false_iff.2 relative, rfl⟩⟩
      rw [parts, if_neg relative]
      rcases path.names with _ | ⟨first, rest⟩
      · rfl
      · -- A `.` at the start is a part of its own, which is left out here.
        by_cases here : first = dot
        · subst here
          rfl
        · by_cases above : first = dotDot
          · subst above
            rfl
          · simp [here, above, partOfName]

end Path

namespace FileTree

variable {tree : FileTree} {here : Location} {spot : Spot} {path whole : Path} {last : Octets}

/-- The absolute form of a path stands for what the path stands for in the directory that it was read in. -/
theorem denotes_absolute (made : tree.absolute path = .ok whole) (ends : path.names.getLast? = some last)
    (named : last ≠ Path.dot) (unslashed : path.endsWithSlash = false)
    (known : path.isAbsolute = true ∨ tree.Denotes [] tree.basePath (.taken tree.base .directory)) :
    tree.Denotes here whole spot ↔ tree.Denotes tree.base path spot := by
  have isName : Path.IsName last := Path.isName_of_mem_names (List.mem_of_getLast? ends)
  have absolute := isAbsolute_of_absolute made
  obtain ⟨front, joined, begins⟩ := Path.joined_of_absolute made unslashed
  have stepsWhole : steps whole = front.names ++ path.names.filter (· ≠ Path.dot) := by
    rw [steps, joined, Path.endsWithSlash_joinParts isName ends named,
      Path.names_joinParts fun _ => Path.isName_of_mem_names]
    exact List.append_nil _
  have stepsPath : steps path = path.names := by
    rw [steps, unslashed]
    exact List.append_nil _
  have filtered (here : Location) : tree.Arrives here (path.names.filter (· ≠ Path.dot)) spot ↔
      tree.Arrives here path.names spot := by
    refine exists_congr fun links => ?_
    have same := @walk_filter tree true path.names last ends named links here []
    rw [List.nil_append, List.nil_append] at same
    rw [same]
  rw [Denotes, Denotes, if_pos absolute, stepsWhole, stepsPath]
  rcases begins with ⟨rooted, top⟩ | ⟨relative, rfl⟩
  · rw [top, List.nil_append, if_pos rooted]
    exact filtered []
  · have base := (known.resolve_left (Bool.eq_false_iff.1 relative)).arrives
    rw [ite_self] at base
    rw [arrives_append base, relative, if_neg Bool.false_ne_true]
    exact filtered tree.base

def Grounded (tree : FileTree) : Prop :=
  tree.Denotes [] tree.basePath (.taken tree.base .directory)

theorem Grounded.denotes (grounded : tree.Grounded) :
    tree.Denotes tree.base (.ofText ".") (.taken tree.base .directory) := by
  obtain ⟨links, led⟩ := grounded
  have directory := node_of_walk led
  have there : tree.Arrives tree.base [] (.taken tree.base .directory) := ⟨0, by rw [walk, ← directory]⟩
  exact (arrives_dot tree.base).2 there

end FileTree

end ScenarioBench

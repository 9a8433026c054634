import ScenarioBench.Text.Octets
import ScenarioBench.Files.OsError

/-! Paths as written.

A path is the octets it was written with; nothing is normalised until an operation asks for its
parts. Two paths are the same path when their parts agree, so `a`, `a/` and `a//` are one path while
`./a` and `a` are two.
-/

set_option autoImplicit false

namespace ScenarioBench

structure Path where
  octets : Octets
  deriving DecidableEq, Repr, Inhabited

inductive Path.Part where
  | root
  | here
  | parent
  | name (octets : Octets)
  deriving DecidableEq, Repr

namespace Path

def slash : UInt8 := 0x2F

def dot : Octets := [0x2E]

def dotDot : Octets := [0x2E, 0x2E]

def ofText (text : String) : Path :=
  ⟨Octets.ofText text⟩

def display (path : Path) : String :=
  path.octets.lossy

def toText? (path : Path) : Option String :=
  path.octets.toText?

def isAbsolute (path : Path) : Bool :=
  path.octets.head? == some slash

def endsWithSlash (path : Path) : Bool :=
  path.octets.getLast? == some slash

/-- Put `addition` below `path`. An absolute addition stands alone; otherwise a separator comes
between them unless the path is empty or ends with one. -/
def join (path addition : Path) : Path :=
  if addition.isAbsolute then addition
  else if path.octets.isEmpty || path.endsWithSlash then ⟨path.octets ++ addition.octets⟩
  else ⟨path.octets ++ slash :: addition.octets⟩

def splitNames : Octets → List Octets
  | [] => [[]]
  | head :: rest =>
    if head = slash then [] :: splitNames rest
    else match splitNames rest with
      | [] => [[head]]
      | first :: others => (head :: first) :: others

def names (path : Path) : List Octets :=
  (splitNames path.octets).filter fun piece => !piece.isEmpty

@[simp] theorem splitNames_ne_nil (octets : Octets) : splitNames octets ≠ [] := by
  cases octets with
  | nil => exact List.cons_ne_nil _ _
  | cons head rest =>
    rw [splitNames]
    split
    · exact List.cons_ne_nil _ _
    · split <;> exact List.cons_ne_nil _ _

@[simp] theorem splitNames_append_slash (before after : Octets) :
    splitNames (before ++ slash :: after) = splitNames before ++ splitNames after := by
  induction before with
  | nil => simp [splitNames]
  | cons head rest ih =>
    by_cases separator : head = slash
    · simp [splitNames, separator, ih]
    · obtain ⟨first, others, split⟩ := List.exists_cons_of_ne_nil (splitNames_ne_nil rest)
      simp [splitNames, separator, ih, split]

theorem splitNames_of_not_mem {octets : Octets} (single : slash ∉ octets) :
    splitNames octets = [octets] := by
  induction octets with
  | nil => rfl
  | cons head rest ih =>
    obtain ⟨different, others⟩ := not_or.1 (fun either => single (List.mem_cons.2 either))
    simp [splitNames, ih others, Ne.symm different]

theorem not_mem_of_mem_splitNames {octets piece : Octets} (member : piece ∈ splitNames octets) :
    slash ∉ piece := by
  induction octets generalizing piece with
  | nil =>
    rw [List.mem_singleton.1 member]
    exact List.not_mem_nil
  | cons head rest ih =>
    rw [splitNames] at member
    split at member
    · rcases List.mem_cons.1 member with rfl | later
      · exact List.not_mem_nil
      · exact ih later
    · next different =>
      obtain ⟨first, others, split⟩ := List.exists_cons_of_ne_nil (splitNames_ne_nil rest)
      rw [split] at member ih
      rcases List.mem_cons.1 member with rfl | later
      · have clean := ih List.mem_cons_self
        simp [Ne.symm different, clean]
      · exact ih (List.mem_cons_of_mem _ later)

structure IsName (name : Octets) : Prop where
  notEmpty : name ≠ []
  single : slash ∉ name

instance (name : Octets) : Decidable (IsName name) :=
  decidable_of_iff (name ≠ [] ∧ slash ∉ name)
    ⟨fun ⟨notEmpty, single⟩ => ⟨notEmpty, single⟩, fun ⟨notEmpty, single⟩ => ⟨notEmpty, single⟩⟩

theorem isName_of_mem_names {path : Path} {name : Octets} (member : name ∈ path.names) :
    IsName name := by
  obtain ⟨piece, kept⟩ := List.mem_filter.1 member
  exact ⟨by simpa using kept, not_mem_of_mem_splitNames piece⟩

theorem join_name (path : Path) {name : Octets} (isName : IsName name) :
    (path.join ⟨name⟩).octets = name ∨
      ∃ before, (path.join ⟨name⟩).octets = before ++ slash :: name := by
  have relative : (⟨name⟩ : Path).isAbsolute = false := by
    rcases name with _ | ⟨head, rest⟩
    · rfl
    · have different : head ≠ slash := fun same => isName.single (same ▸ List.mem_cons_self)
      simpa [isAbsolute] using different
  simp only [join, relative, Bool.false_eq_true, if_false]
  rcases ends : path.octets.getLast? with _ | last
  · left
    simp [List.getLast?_eq_none_iff.1 ends]
  · right
    obtain ⟨before, whole⟩ := List.getLast?_eq_some_iff.1 ends
    by_cases slashed : last = slash
    · exact ⟨before, by simp [endsWithSlash, whole, slashed]⟩
    · exact ⟨path.octets, by simp [endsWithSlash, whole, slashed]⟩

theorem octets_join_ne_nil (path : Path) {name : Octets} (isName : IsName name) :
    (path.join ⟨name⟩).octets ≠ [] := by
  rcases path.join_name isName with only | ⟨before, whole⟩
  · rw [only]
    exact isName.notEmpty
  · rw [whole]
    exact List.append_ne_nil_of_right_ne_nil before (List.cons_ne_nil _ _)

@[simp] theorem getLast?_names_join (path : Path) {name : Octets} (isName : IsName name) :
    (path.join ⟨name⟩).names.getLast? = some name := by
  have kept : (!name.isEmpty) = true := by simpa using isName.notEmpty
  rcases path.join_name isName with only | ⟨before, whole⟩
  · simp [names, only, splitNames_of_not_mem isName.single, kept]
  · simp [names, whole, splitNames_of_not_mem isName.single, kept]

@[simp] theorem endsWithSlash_join (path : Path) {name : Octets} (isName : IsName name) :
    (path.join ⟨name⟩).endsWithSlash = false := by
  have last : (path.join ⟨name⟩).octets.getLast? = name.getLast? := by
    rcases path.join_name isName with only | ⟨before, whole⟩
    · rw [only]
    · obtain ⟨last, ends⟩ := Option.ne_none_iff_exists'.1 (mt List.getLast?_eq_none_iff.1 isName.notEmpty)
      simp [whole, List.getLast?_append, List.getLast?_cons, ends]
  rw [endsWithSlash, last]
  refine Bool.eq_false_iff.2 fun slashed => ?_
  have ends : name.getLast? = some slash := by simpa using slashed
  exact isName.single (List.mem_of_getLast? ends)

def partOfName (piece : Octets) : Option Part :=
  if piece = dot then none else if piece = dotDot then some .parent else some (.name piece)

/-- The parts of a path. Repeated separators, a separator at the end and `.` do not count, except a
`.` that starts a relative path. -/
def parts (path : Path) : List Part :=
  if path.isAbsolute then .root :: path.names.filterMap partOfName
  else match path.names with
    | [] => []
    | first :: rest =>
      -- Only a leading dot counts: it tells a file here from one found elsewhere.
      if first = dot then .here :: rest.filterMap partOfName
      else (first :: rest).filterMap partOfName

def same (first second : Path) : Bool :=
  decide (first.parts = second.parts)

def Part.toPath : Part → Path
  | .root => ⟨[slash]⟩
  | .here => ⟨dot⟩
  | .parent => ⟨dotDot⟩
  | .name octets => ⟨octets⟩

def joinParts (path : Path) (parts : List Part) : Path :=
  parts.foldl (fun whole part => whole.join part.toPath) path

/-- The absolute form of a path that is read in `directory`: `.` and repeated separators disappear,
`..` and a separator at the end stay, and exactly two leading separators stay two. -/
def absolute (directory path : Path) : Except OsError Path :=
  if path.octets.isEmpty then .error .emptyPath
  else
    let parts := path.parts
    let whole :=
      -- Two leading separators may mean something of their own, three or more do not.
      if path.isAbsolute then
        if [slash, slash].isPrefixOf path.octets
            && !([slash, slash, slash].isPrefixOf path.octets) then
          (⟨[slash, slash]⟩ : Path).joinParts (parts.drop 1)
        else (⟨[]⟩ : Path).joinParts parts
      else match parts with
        | .here :: rest => directory.joinParts rest
        | all => directory.joinParts all
    .ok (if path.endsWithSlash then whole.join ⟨[]⟩ else whole)

def lastSegment (text : String) : String :=
  String.ofList ((text.toList.reverse.takeWhile (· ≠ '/')).reverse)

end Path

end ScenarioBench

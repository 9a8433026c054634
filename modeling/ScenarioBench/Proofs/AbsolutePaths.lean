import ScenarioBench.Files.Tree

/-! Absolute forms of paths.

The absolute form of a path starts at the root directory. It is text where the path and the directory that
it is read in are text: a path is divided at separators only, and no character but the separator itself is
written with that octet.
-/

set_option autoImplicit false

namespace ScenarioBench

namespace Octets

def IsText (octets : Octets) : Prop :=
  ∃ characters : List Char, octets = characters.flatMap String.utf8EncodeChar

theorem ofText_eq_flatMap (text : String) :
    ofText text = text.toList.flatMap String.utf8EncodeChar := by
  rw [ofText, ← String.utf8Encode_toList]
  simp [List.utf8Encode]

@[simp] theorem ofText_append (first second : String) : ofText (first ++ second) = ofText first ++ ofText second := by
  rw [ofText_eq_flatMap, ofText_eq_flatMap, ofText_eq_flatMap, String.toList_append, List.flatMap_append]

theorem isText_ofText (text : String) : (ofText text).IsText :=
  ⟨text.toList, ofText_eq_flatMap text⟩

theorem isText_iff_toText? (octets : Octets) : octets.IsText ↔ octets.toText?.isSome := by
  constructor
  · rintro ⟨characters, rfl⟩
    have whole := ofText_eq_flatMap (String.ofList characters)
    rw [String.toList_ofList] at whole
    rw [← whole, toText?_ofText]
    rfl
  · intro some
    obtain ⟨text, read⟩ := Option.isSome_iff_exists.1 some
    rw [← ofText_of_toText? read]
    exact isText_ofText text

theorem IsText.append {first second : Octets} (firstText : first.IsText) (secondText : second.IsText) :
    (first ++ second).IsText := by
  obtain ⟨characters, rfl⟩ := firstText
  obtain ⟨others, rfl⟩ := secondText
  exact ⟨characters ++ others, by simp⟩

theorem IsText.ofText_lossy {octets : Octets} (text : octets.IsText) : ofText octets.lossy = octets := by
  obtain ⟨whole, read⟩ := Option.isSome_iff_exists.1 ((isText_iff_toText? octets).1 text)
  rw [lossy, read]
  exact ofText_of_toText? read

/-- Only the separator is written with its octet. -/
theorem eq_of_slash_mem {character : Char} (member : Path.slash ∈ String.utf8EncodeChar character) :
    String.utf8EncodeChar character = [Path.slash] := by
  have octet : ∀ number : Nat, Path.slash = UInt8.ofNat number ↔ number % 256 = 0x2F := by
    intro number
    rw [← UInt8.toNat_inj, UInt8.toNat_ofNat', eq_comm]
    rfl
  unfold String.utf8EncodeChar at member ⊢
  dsimp only at member ⊢
  split at member
  · rename_i single
    rw [if_pos single, ← List.mem_singleton.1 member]
  · -- The octets of a longer form are all above those of single characters.
    exfalso
    repeat' split at member
    all_goals
      simp only [List.mem_cons, List.not_mem_nil, or_false, octet] at member
      omega

end Octets

namespace Path

theorem isText_slash : Octets.IsText [slash] :=
  Octets.isText_ofText "/"

@[simp] theorem splitNames_append_of_not_mem {before : Octets} (after : Octets) (single : slash ∉ before) :
    splitNames (before ++ after) = (splitNames after).modifyHead (before ++ ·) := by
  induction before with
  | nil =>
    obtain ⟨first, others, split⟩ := List.exists_cons_of_ne_nil (splitNames_ne_nil after)
    simp [split]
  | cons head rest ih =>
    obtain ⟨different, later⟩ := not_or.1 (fun either => single (List.mem_cons.2 either))
    obtain ⟨first, others, split⟩ := List.exists_cons_of_ne_nil (splitNames_ne_nil after)
    simp [splitNames, ih later, split, Ne.symm different]

theorem isText_of_mem_splitNames {octets piece : Octets} (text : octets.IsText)
    (member : piece ∈ splitNames octets) : piece.IsText := by
  obtain ⟨characters, rfl⟩ := text
  induction characters generalizing piece with
  | nil =>
    obtain rfl : piece = [] := by simpa [splitNames] using member
    exact ⟨[], rfl⟩
  | cons character rest ih =>
    rw [List.flatMap_cons] at member
    by_cases slashed : slash ∈ String.utf8EncodeChar character
    · rw [Octets.eq_of_slash_mem slashed, List.singleton_append, splitNames, if_pos rfl] at member
      rcases List.mem_cons.1 member with rfl | later
      · exact ⟨[], rfl⟩
      · exact ih later
    · rw [splitNames_append_of_not_mem _ slashed] at member
      obtain ⟨first, others, split⟩ := List.exists_cons_of_ne_nil
        (splitNames_ne_nil (rest.flatMap String.utf8EncodeChar))
      rw [split] at ih member
      rcases List.mem_cons.1 member with rfl | later
      · have here : Octets.IsText (String.utf8EncodeChar character) := ⟨[character], by simp⟩
        exact here.append (ih List.mem_cons_self)
      · exact ih (List.mem_cons_of_mem _ later)

theorem toPath_of_partOfName {piece : Octets} {part : Part} (read : partOfName piece = some part) :
    part.toPath.octets = piece := by
  unfold partOfName at read
  split at read
  · cases read
  · split at read
    · rename_i parent
      cases read
      exact parent.symm
    · cases read
      rfl

theorem isText_of_mem_parts {path : Path} {part : Part} (text : path.octets.IsText)
    (member : part ∈ path.parts) : part.toPath.octets.IsText := by
  have ofNames : ∀ names : List Octets, names ⊆ path.names → part ∈ names.filterMap partOfName →
      part.toPath.octets.IsText := by
    intro names among listed
    obtain ⟨piece, named, read⟩ := List.mem_filterMap.1 listed
    rw [toPath_of_partOfName read]
    exact isText_of_mem_splitNames text (List.mem_filter.1 (among named)).1
  unfold parts at member
  split at member
  · rcases List.mem_cons.1 member with rfl | listed
    · exact isText_slash
    · exact ofNames _ (List.Subset.refl _) listed
  · split at member
    · cases member
    · rename_i first rest whole
      split at member
      · rcases List.mem_cons.1 member with rfl | listed
        · exact Octets.isText_ofText "."
        · exact ofNames rest (by simp [whole]) listed
      · exact ofNames (first :: rest) (by simp [whole]) member

theorem isText_join {path addition : Path} (text : path.octets.IsText)
    (added : addition.octets.IsText) : (path.join addition).octets.IsText := by
  unfold join
  split
  · exact added
  · split
    · exact text.append added
    · exact text.append (isText_slash.append added)

theorem isText_joinParts {path : Path} {parts : List Part} (text : path.octets.IsText)
    (added : ∀ part ∈ parts, part.toPath.octets.IsText) : (path.joinParts parts).octets.IsText := by
  induction parts generalizing path with
  | nil => exact text
  | cons part rest ih =>
    refine ih ?_ fun later member => added later (List.mem_cons_of_mem _ member)
    exact isText_join text (added part List.mem_cons_self)

@[simp] theorem isAbsolute_join {path : Path} (absolute : path.isAbsolute = true) (addition : Path) :
    (path.join addition).isAbsolute = true := by
  unfold join
  split
  · assumption
  · split <;> simp_all [isAbsolute, List.head?_append]

@[simp] theorem isAbsolute_joinParts {path : Path} (absolute : path.isAbsolute = true) (parts : List Part) :
    (path.joinParts parts).isAbsolute = true := by
  induction parts generalizing path with
  | nil => exact absolute
  | cons part rest ih => exact ih (isAbsolute_join absolute _)

/-- An absolute form is joined from a front and parts of the path. -/
structure MadeFrom (directory path front whole : Path) (parts : List Part) : Prop where
  among : parts ⊆ path.parts
  joined : whole = front.joinParts parts ∨ whole = (front.joinParts parts).join ⟨[]⟩
  begins : path.isAbsolute = true ∧ (front = ⟨[slash]⟩ ∨ front = ⟨[slash, slash]⟩) ∨
    path.isAbsolute = false ∧ front = directory

theorem madeFrom_of_absolute {directory path whole : Path}
    (made : Path.absolute directory path = .ok whole) :
    ∃ front parts, MadeFrom directory path front whole parts := by
  unfold Path.absolute at made
  split at made
  · cases made
  · have same := Except.ok.inj made
    generalize joined : ite (path.isAbsolute = true) _ _ = inner at same
    have ends : whole = inner ∨ whole = inner.join ⟨[]⟩ := by
      split at same
      · exact .inr same.symm
      · exact .inl same.symm
    split at joined
    · rename_i absolute
      -- The first part is the root, which the front stands for already.
      have rooted : path.parts = .root :: path.names.filterMap partOfName := by rw [parts, if_pos absolute]
      rw [rooted] at joined
      split at joined <;> subst joined
      · exact ⟨⟨[slash, slash]⟩, _, by simp [rooted], ends, .inl ⟨absolute, .inr rfl⟩⟩
      · exact ⟨⟨[slash]⟩, path.names.filterMap partOfName, by simp [rooted], ends,
          .inl ⟨absolute, .inl rfl⟩⟩
    · rename_i relative
      have relative : path.isAbsolute = false := Bool.eq_false_iff.2 relative
      split at joined <;> subst joined
      · rename_i rest listed
        exact ⟨directory, rest, by simp [listed], ends, .inr ⟨relative, rfl⟩⟩
      · exact ⟨directory, path.parts, List.Subset.refl _, ends, .inr ⟨relative, rfl⟩⟩

theorem isAbsolute_of_absolute {directory path whole : Path} (rooted : directory.isAbsolute = true)
    (made : Path.absolute directory path = .ok whole) : whole.isAbsolute = true := by
  obtain ⟨front, parts, -, joined, begins⟩ := madeFrom_of_absolute made
  have front : front.isAbsolute = true := by
    rcases begins with ⟨-, rfl | rfl⟩ | ⟨-, rfl⟩
    · rfl
    · rfl
    · exact rooted
  rcases joined with rfl | rfl
  · exact isAbsolute_joinParts front parts
  · exact isAbsolute_join (isAbsolute_joinParts front parts) _

theorem isText_of_absolute {directory path whole : Path} (text : path.octets.IsText)
    (read : path.isAbsolute = true ∨ directory.octets.IsText)
    (made : Path.absolute directory path = .ok whole) : whole.octets.IsText := by
  obtain ⟨front, parts, among, joined, begins⟩ := madeFrom_of_absolute made
  have frontText : front.octets.IsText := by
    rcases begins with ⟨-, rfl | rfl⟩ | ⟨relative, rfl⟩
    · exact isText_slash
    · exact Octets.isText_ofText "//"
    · exact read.resolve_left (by simp [relative])
  have whole : (front.joinParts parts).octets.IsText :=
    isText_joinParts frontText fun part member => isText_of_mem_parts text (among member)
  rcases joined with rfl | rfl
  · exact whole
  · exact isText_join whole ⟨[], rfl⟩

/-- A path that is already absolute has its absolute form, wherever it is read. -/
theorem absolute_of_isAbsolute {path : Path} (absolute : path.isAbsolute = true)
    (directory other : Path) : Path.absolute directory path = Path.absolute other path := by
  simp [Path.absolute, absolute]

theorem ofText_display {path : Path} (text : path.octets.IsText) : Path.ofText path.display = path := by
  rw [ofText, display, text.ofText_lossy]

theorem head?_of_isAbsolute {text : String} (absolute : (ofText text).isAbsolute = true) :
    text.toList.head? = some '/' := by
  have first : (Octets.ofText text).head? = some slash := by simpa [isAbsolute, ofText] using absolute
  rw [Octets.ofText_eq_flatMap] at first
  rcases whole : text.toList with _ | ⟨character, rest⟩ <;> rw [whole] at first
  · cases first
  · have member : slash ∈ String.utf8EncodeChar character := by
      obtain ⟨octet, others, spelled⟩ := List.exists_cons_of_ne_nil (@String.utf8EncodeChar_ne_nil character)
      rw [List.flatMap_cons, spelled] at first
      rw [spelled, ← Option.some.inj first]
      exact List.mem_cons_self
    have same : Octets.ofText (String.ofList [character]) = Octets.ofText "/" := by
      rw [Octets.ofText_eq_flatMap, String.toList_ofList, List.flatMap_singleton, Octets.eq_of_slash_mem member]
      rfl
    have single := congrArg String.toList (Octets.ofText_injective same)
    rw [String.toList_ofList] at single
    exact congrArg List.head? single

end Path

namespace FileTree

@[simp] theorem isAbsolute_pathOf (location : Location) : (pathOf location).isAbsolute = true := by
  induction location with
  | nil => rfl
  | cons name directory ih => exact Path.isAbsolute_join ih _

theorem isAbsolute_of_absolute {tree : FileTree} {path whole : Path}
    (made : tree.absolute path = .ok whole) : whole.isAbsolute = true :=
  Path.isAbsolute_of_absolute (isAbsolute_pathOf tree.base) made

end FileTree

end ScenarioBench

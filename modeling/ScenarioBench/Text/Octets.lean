/-! Octet sequences and their reading as text.

File contents, file names, environment entries and the output of commands are octets. A strict
reading accepts well-formed UTF-8 only. A lossy reading replaces every maximal ill-formed run, that
is every longest beginning of a character that its successor does not continue, by U+FFFD.
-/

set_option autoImplicit false

namespace ScenarioBench

abbrev Octets := List UInt8

namespace Octets

def ofText (text : String) : Octets :=
  text.toByteArray.data.toList

def toText? (octets : Octets) : Option String :=
  String.fromUTF8? ⟨octets.toArray⟩

@[simp] theorem toText?_ofText (text : String) : toText? (ofText text) = some text := by
  have h : (⟨text.toByteArray.data.toList.toArray⟩ : ByteArray) = text.toByteArray := rfl
  simp only [toText?, ofText, h, String.fromUTF8?]
  simp [String.fromUTF8, text.isValidUTF8]

theorem ofText_of_toText? {octets : Octets} {text : String} (h : toText? octets = some text) :
    ofText text = octets := by
  simp only [toText?, String.fromUTF8?] at h
  split at h
  · cases h; rfl
  · cases h

theorem ofText_injective {first second : String} (h : ofText first = ofText second) :
    first = second := by
  have := congrArg toText? h
  simpa using this

/-- The ranges that the octets after `lead` must lie in for the whole to be one character; `none`
when no character starts with `lead`. -/
def trailRanges (lead : UInt8) : Option (List (UInt8 × UInt8)) :=
  if lead < 0x80 then some []
  else if lead < 0xC2 then none
  else if lead < 0xE0 then some [(0x80, 0xBF)]
  else if lead = 0xE0 then some [(0xA0, 0xBF), (0x80, 0xBF)]
  else if lead = 0xED then some [(0x80, 0x9F), (0x80, 0xBF)]
  else if lead < 0xF0 then some [(0x80, 0xBF), (0x80, 0xBF)]
  else if lead = 0xF0 then some [(0x90, 0xBF), (0x80, 0xBF), (0x80, 0xBF)]
  else if lead < 0xF4 then some [(0x80, 0xBF), (0x80, 0xBF), (0x80, 0xBF)]
  else if lead = 0xF4 then some [(0x80, 0x8F), (0x80, 0xBF), (0x80, 0xBF)]
  else none

/-- Take octets as long as each lies in its range: the octets taken, whether every range was
served, and the octets left. -/
def takeTrail : List (UInt8 × UInt8) → Octets → Octets × Bool × Octets
  | [], rest => ([], true, rest)
  | _ :: _, [] => ([], false, [])
  | (low, high) :: ranges, octet :: rest =>
    if low ≤ octet ∧ octet ≤ high then
      let (taken, complete, left) := takeTrail ranges rest
      (octet :: taken, complete, left)
    else ([], false, octet :: rest)

theorem takeTrail_length (ranges : List (UInt8 × UInt8)) (octets : Octets) :
    (takeTrail ranges octets).2.2.length ≤ octets.length := by
  fun_induction takeTrail ranges octets <;> grind

def scalar (lead : UInt8) (trail : Octets) : Nat :=
  -- The more octets follow, the fewer bits the first one carries.
  let own := match trail.length with
    | 0 => lead.toNat
    | 1 => lead.toNat % 0x20
    | 2 => lead.toNat % 0x10
    | _ => lead.toNat % 0x08
  trail.foldl (fun value octet => value * 0x40 + octet.toNat % 0x40) own

def lossyChars : Octets → List Char
  | [] => []
  | lead :: rest =>
    match trailRanges lead with
    | none => '\uFFFD' :: lossyChars rest
    | some ranges =>
      match h : takeTrail ranges rest with
      | (trail, true, left) =>
        have : left.length ≤ rest.length := by
          have := takeTrail_length ranges rest; rw [h] at this; exact this
        Char.ofNat (scalar lead trail) :: lossyChars left
      | (_, false, left) =>
        -- The octet that broke the character off is looked at again as a beginning.
        have : left.length ≤ rest.length := by
          have := takeTrail_length ranges rest; rw [h] at this; exact this
        '\uFFFD' :: lossyChars left
termination_by octets => octets.length

/-- The text of the octets, with U+FFFD for each maximal ill-formed run. -/
def lossy (octets : Octets) : String :=
  match toText? octets with
  | some text => text
  | none => String.ofList (lossyChars octets)

end Octets

end ScenarioBench

import ScenarioBench.Json.Value

/-! Reading JSON documents.

A document is one value with blanks around it. Arrays and objects may nest 127 deep. Of members with
one name the last one stays, and members are held in ascending order of their names. Numbers that
are not integers of 64 bits become floating-point numbers: their first digits, as many as fit 64
bits, are rounded and then scaled by a power of ten, which is rounded again.
-/

set_option autoImplicit false

namespace ScenarioBench.Json

def isGap (character : Char) : Bool :=
  character = ' ' || character = '\n' || character = '\t' || character = '\r'

def skipGaps (characters : List Char) : List Char :=
  characters.dropWhile isGap

def digit? (character : Char) : Option Nat :=
  if character.isDigit then some (character.toNat - '0'.toNat) else none

def hexValue? (character : Char) : Option Nat :=
  if character.isDigit then some (character.toNat - '0'.toNat)
  else if 'a' ≤ character ∧ character ≤ 'f' then some (character.toNat - 'a'.toNat + 10)
  else if 'A' ≤ character ∧ character ≤ 'F' then some (character.toNat - 'A'.toNat + 10)
  else none

def readHex : List Char → Option (Nat × List Char)
  | a :: b :: c :: d :: rest => do
    let value := (((← hexValue? a) * 16 + (← hexValue? b)) * 16 + (← hexValue? c)) * 16
      + (← hexValue? d)
    return (value, rest)
  | _ => none

/-- The character of a `\u` escape; the two halves of a pair make one character, and a half alone is
refused. -/
def readUnicode (characters : List Char) : Option (Char × List Char) := do
  let (first, rest) ← readHex characters
  -- A second half may not come first.
  if 0xDC00 ≤ first ∧ first ≤ 0xDFFF then none
  else if 0xD800 ≤ first ∧ first ≤ 0xDBFF then
    match rest with
    | '\\' :: 'u' :: rest => do
      let (second, rest) ← readHex rest
      if 0xDC00 ≤ second ∧ second ≤ 0xDFFF then
        some (Char.ofNat (0x10000 + (first - 0xD800) * 0x400 + (second - 0xDC00)), rest)
      else none
    | _ => none
  else some (Char.ofNat first, rest)

def readString (fuel : Nat) (done : List Char) : List Char → Option (List Char × List Char)
  | [] => none
  | '\x22' :: rest => some (done.reverse, rest)
  | '\\' :: mark :: rest =>
    match fuel with
    | 0 => none
    | fuel + 1 =>
      let plain (character : Char) := readString fuel (character :: done) rest
      match mark with
      | '\x22' => plain '\x22'
      | '\\' => plain '\\'
      | '/' => plain '/'
      | 'b' => plain '\x08'
      | 'f' => plain '\x0c'
      | 'n' => plain '\n'
      | 'r' => plain '\r'
      | 't' => plain '\t'
      | 'u' => do
        let (character, rest) ← readUnicode rest
        readString fuel (character :: done) rest
      | _ => none
  | character :: rest =>
    match fuel with
    | 0 => none
    | fuel + 1 =>
      if character.toNat < 0x20 ∨ character = '\\' then none
      else readString fuel (character :: done) rest

def greatestNatural : Nat := Nat.pow 2 64 - 1

def greatestScale : Nat := 308

/-- A rounded significand scaled by a power of ten; `none` when the result is too large. -/
def scaled (fuel : Nat) (value : Binary64) (power : Int) : Option Binary64 :=
  match fuel with
  | 0 => some value
  | fuel + 1 =>
    if power.natAbs ≤ greatestScale then
      let factor := Binary64.ofDecimal false 1 (power.natAbs : Int)
      if 0 ≤ power then
        match value.mul factor with
        | .infinite _ => none
        | product => some product
      else some (value.div factor)
    -- The power alone is beyond the range of one factor.
    else if value.isZero then some value
    else if 0 ≤ power then none
    else scaled fuel (value.div (.ofDecimal false 1 greatestScale)) (power + (greatestScale : Int))

def realOf (below : Bool) (significand : Nat) (power : Int) : Option Number := do
  let value ← scaled 4 (.ofNat significand) power
  return .real (if below then value.negate else value)

def readDigits (characters : List Char) : List Nat × List Char :=
  ((characters.takeWhile Char.isDigit).filterMap digit?, characters.dropWhile Char.isDigit)

/-- Take digits into a significand while it fits 64 bits: the significand, how many digits it took,
and how many it left. -/
def takeSignificand (significand : Nat) : List Nat → Nat × Nat × Nat
  | [] => (significand, 0, 0)
  | digit :: rest =>
    if greatestNatural < significand * 10 + digit then (significand, 0, rest.length + 1)
    else
      let (final, taken, left) := takeSignificand (significand * 10 + digit) rest
      (final, taken + 1, left)

def readExponent (characters : List Char) : Option (Int × List Char) :=
  let (negative, rest) := match characters with
    | '+' :: rest => (false, rest)
    | '-' :: rest => (true, rest)
    | rest => (false, rest)
  match readDigits rest with
  | ([], _) => none
  | (digits, rest) =>
    let magnitude : Nat := digits.foldl (fun value digit => value * 10 + digit) 0
    some (if negative then -(magnitude : Int) else (magnitude : Int), rest)

def readReal (negative : Bool) (significand : Nat) (power : Int) (characters : List Char) :
    Option (Number × List Char) := do
  match characters with
  | 'e' :: rest | 'E' :: rest =>
    let (further, rest) ← readExponent rest
    return (← realOf negative significand (power + further), rest)
  | rest => return (← realOf negative significand power, rest)

def readNumber (negative : Bool) (characters : List Char) : Option (Number × List Char) := do
  let (digits, rest) := readDigits characters
  match digits with
  | [] => none
  -- No number begins with a zero and another digit.
  | 0 :: _ :: _ => none
  | digits =>
    let (significand, _, left) := takeSignificand 0 digits
    match rest with
    | '.' :: rest =>
      let (fraction, rest) := readDigits rest
      if fraction.isEmpty then none
      else
        -- Digits of the fraction count only as long as none before them was left out.
        let (final, taken, _) :=
          if left = 0 then takeSignificand significand fraction else (significand, 0, 0)
        readReal negative final (left - (taken : Int)) rest
    | 'e' :: _ | 'E' :: _ => readReal negative significand left rest
    | rest =>
      if left ≠ 0 then readReal negative significand left rest
      else if !negative then return (.natural significand, rest)
      -- There is no negative zero among the integers, and none below the least of 64 bits.
      else if significand = 0 ∨ Nat.pow 2 63 < significand then readReal negative significand 0 rest
      else return (.negative significand, rest)

def greatestDepth : Nat := 127

def readWord (word : String) (characters : List Char) : Option (List Char) :=
  if word.toList.isPrefixOf characters then some (characters.drop word.length) else none

mutual

/-- One value; `depth` is how much deeper it may nest, `fuel` bounds the number of steps. -/
def readValue (fuel depth : Nat) (characters : List Char) : Option (Json × List Char) :=
  match fuel with
  | 0 => none
  | fuel + 1 =>
    match skipGaps characters with
    | '\x22' :: rest => do
      let (text, rest) ← readString rest.length [] rest
      return (.string (String.ofList text), rest)
    | '[' :: rest =>
      match depth with
      | 0 => none
      | depth + 1 =>
        match skipGaps rest with
        | ']' :: rest => some (.array [], rest)
        | rest => do
          let (items, rest) ← readItems fuel depth rest
          return (.array items, rest)
    | '\x7b' :: rest =>
      match depth with
      | 0 => none
      | depth + 1 =>
        match skipGaps rest with
        | '\x7d' :: rest => some (.object [], rest)
        | rest => do
          let (members, rest) ← readMembers fuel depth rest
          return (.object members, rest)
    | '-' :: rest => do
      let (value, rest) ← readNumber true rest
      return (.number value, rest)
    | 'n' :: rest => do return (.null, ← readWord "null" ('n' :: rest))
    | 't' :: rest => do return (.bool true, ← readWord "true" ('t' :: rest))
    | 'f' :: rest => do return (.bool false, ← readWord "false" ('f' :: rest))
    | rest => do
      let (value, rest) ← readNumber false rest
      return (.number value, rest)

def readItems (fuel depth : Nat) (characters : List Char) : Option (List Json × List Char) :=
  match fuel with
  | 0 => none
  | fuel + 1 => do
    let (item, rest) ← readValue fuel depth characters
    match skipGaps rest with
    | ']' :: rest => return ([item], rest)
    | ',' :: rest =>
      let (items, rest) ← readItems fuel depth rest
      return (item :: items, rest)
    | _ => none

def readMembers (fuel depth : Nat) (characters : List Char) :
    Option (List (String × Json) × List Char) :=
  match fuel with
  | 0 => none
  | fuel + 1 =>
    match skipGaps characters with
    | '\x22' :: rest => do
      let (name, rest) ← readString rest.length [] rest
      match skipGaps rest with
      | ':' :: rest =>
        let (value, rest) ← readValue fuel depth rest
        let name := String.ofList name
        match skipGaps rest with
        | '\x7d' :: rest => return ([(name, value)], rest)
        | ',' :: rest =>
          let (members, rest) ← readMembers fuel depth rest
          return ((name, value) :: members, rest)
        | _ => none
      | _ => none
    | _ => none

end

def readWritten? (text : String) : Option Json := do
  let characters := text.toList
  -- Each level of nesting takes two steps and at least one character.
  let (value, rest) ← readValue (2 * characters.length + 2) greatestDepth characters
  if (skipGaps rest).isEmpty then some value else none

mutual

/-- The value with the members of every object in ascending order, the last of one name kept. -/
def sorted : Json → Json
  | .array items => .array (sortedItems items)
  | .object members => .object (Dictionary.ofList (sortedMembers members)).entries
  | other => other

def sortedItems : List Json → List Json
  | [] => []
  | item :: rest => sorted item :: sortedItems rest

def sortedMembers : List (String × Json) → List (String × Json)
  | [] => []
  | (name, value) :: rest => (name, sorted value) :: sortedMembers rest

end

def read? (text : String) : Option Json :=
  (readWritten? text).map sorted

inductive Ordered : Json → Prop where
  | null : Ordered .null
  | bool (value : Bool) : Ordered (.bool value)
  | number (value : Number) : Ordered (.number value)
  | string (value : String) : Ordered (.string value)
  | array {items : List Json} : (∀ item ∈ items, Ordered item) → Ordered (.array items)
  | object {members : List (String × Json)} : Ascending members → (∀ member ∈ members, Ordered member.2) →
      Ordered (.object members)

mutual

theorem ordered_sorted : (value : Json) → Ordered value.sorted
  | .null => .null
  | .bool value => .bool value
  | .number value => .number value
  | .string value => .string value
  | .array items => .array (ordered_sortedItems items)
  | .object members => by
    refine .object (Dictionary.ofList _).ascending fun member listed => ?_
    exact ordered_sortedMembers members member (Dictionary.mem_of_mem_ofList listed)

theorem ordered_sortedItems : (items : List Json) → ∀ item ∈ sortedItems items, Ordered item
  | [] => nofun
  | item :: rest => List.forall_mem_cons.2 ⟨ordered_sorted item, ordered_sortedItems rest⟩

theorem ordered_sortedMembers :
    (members : List (String × Json)) → ∀ member ∈ sortedMembers members, Ordered member.2
  | [] => nofun
  | (_, value) :: rest => List.forall_mem_cons.2 ⟨ordered_sorted value, ordered_sortedMembers rest⟩

end

theorem ordered_of_read {text : String} {document : Json} (read : read? text = some document) :
    Ordered document := by
  obtain ⟨written, -, rfl⟩ := Option.map_eq_some_iff.1 read
  exact ordered_sorted written

@[simp] theorem sortedItems_eq_map (items : List Json) : sortedItems items = items.map sorted := by
  induction items with
  | nil => rfl
  | cons item rest ih => rw [sortedItems, ih, List.map_cons]

@[simp] theorem sortedMembers_eq_map (members : List (String × Json)) :
    sortedMembers members = members.map fun member => (member.1, member.2.sorted) := by
  induction members with
  | nil => rfl
  | cons member rest ih => rw [sortedMembers, ih, List.map_cons]

@[simp] theorem items?_sorted (value : Json) : value.sorted.items? = value.items?.map (List.map sorted) := by
  cases value with
  | array items => simp [sorted, items?]
  | null | bool | number | string | object => simp [sorted, items?]

theorem member?_sorted {members : List (String × Json)} (different : (members.map (·.1)).Nodup) (name : String) :
    (object members).sorted.member? name = ((object members).member? name).map sorted := by
  have names : ((sortedMembers members).map (·.1)) = members.map (·.1) := by
    simp
  refine Option.ext fun value => ?_
  show (Dictionary.ofList _).get? name = some value ↔ (Entries.find? members name).map sorted = some value
  rw [Dictionary.ofList, Dictionary.get?_insertMany_of_nodup (names ▸ different), sortedMembers_eq_map,
    Option.map_eq_some_iff]
  simp only [Dictionary.get?_empty, List.mem_map, Prod.mk.injEq, Prod.exists, reduceCtorEq, and_false, or_false,
    Entries.find?_eq_some_iff_of_nodup different]
  constructor
  · rintro ⟨_, written, member, rfl, same⟩
    exact ⟨written, member, same⟩
  · rintro ⟨written, member, same⟩
    exact ⟨name, written, member, rfl, same⟩

end ScenarioBench.Json

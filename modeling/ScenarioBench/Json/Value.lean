import ScenarioBench.Data.Decimal
import ScenarioBench.Data.Dictionary

/-! JSON values and their text.

Integers of 64 bits stay integers; every other number is a floating-point number. The members of an
object are written in the order in which they are held; documents that are read hold them in
ascending order of their names.
-/

set_option autoImplicit false

namespace ScenarioBench

namespace Json

inductive Number where
  | natural (magnitude : Nat)
  | negative (magnitude : Nat)
  | real (value : Binary64)
  deriving DecidableEq, Repr

end Json

inductive Json where
  | null
  | bool (value : Bool)
  | number (value : Json.Number)
  | string (value : String)
  | array (items : List Json)
  | object (members : List (String × Json))
  deriving Repr, Inhabited

namespace Json

mutual

/-- Equality of values; members count in their order. -/
def beq : Json → Json → Bool
  | null, null => true
  | bool first, bool second => first == second
  | number first, number second => decide (first = second)
  | string first, string second => first == second
  | array first, array second => beqItems first second
  | object first, object second => beqMembers first second
  | _, _ => false

def beqItems : List Json → List Json → Bool
  | [], [] => true
  | first :: rest, second :: others => beq first second && beqItems rest others
  | _, _ => false

def beqMembers : List (String × Json) → List (String × Json) → Bool
  | [], [] => true
  | (name, first) :: rest, (other, second) :: others =>
    name == other && beq first second && beqMembers rest others
  | _, _ => false

end

instance : BEq Json := ⟨beq⟩

mutual

theorem eq_of_beq : (first second : Json) → beq first second = true → first = second
  | .null, second, same => by cases second <;> first | rfl | cases same
  | .bool value, second, same => by
    cases second <;> first | cases same | exact congrArg bool (LawfulBEq.eq_of_beq same)
  | .number value, second, same => by
    cases second <;> first | cases same | exact congrArg number (of_decide_eq_true same)
  | .string value, second, same => by
    cases second <;> first | cases same | exact congrArg string (LawfulBEq.eq_of_beq same)
  | .array items, second, same => by
    cases second with
    | array others => exact congrArg array (eq_of_beqItems items others same)
    | null | bool | number | string | object => cases same
  | .object members, second, same => by
    cases second with
    | object others => exact congrArg object (eq_of_beqMembers members others same)
    | null | bool | number | string | array => cases same

theorem eq_of_beqItems : (items others : List Json) → beqItems items others = true → items = others
  | [], others, same => by
    cases others with
    | nil => rfl
    | cons => cases same
  | item :: rest, others, same => by
    cases others with
    | nil => cases same
    | cons other behind =>
      obtain ⟨head, tail⟩ := Bool.and_eq_true_iff.1 same
      rw [eq_of_beq item other head, eq_of_beqItems rest behind tail]

theorem eq_of_beqMembers : (members others : List (String × Json)) → beqMembers members others = true →
    members = others
  | [], others, same => by
    cases others with
    | nil => rfl
    | cons => cases same
  | (name, value) :: rest, others, same => by
    rcases others with _ | ⟨⟨other, held⟩, behind⟩
    · cases same
    · obtain ⟨head, tail⟩ := Bool.and_eq_true_iff.1 same
      obtain ⟨names, values⟩ := Bool.and_eq_true_iff.1 head
      rw [LawfulBEq.eq_of_beq names, eq_of_beq value held values, eq_of_beqMembers rest behind tail]

end

mutual

theorem beq_self : (value : Json) → beq value value = true
  | .null => rfl
  | .bool value => BEq.rfl (a := value)
  | .number _ => decide_eq_true rfl
  | .string value => BEq.rfl (a := value)
  | .array items => beqItems_self items
  | .object members => beqMembers_self members

theorem beqItems_self : (items : List Json) → beqItems items items = true
  | [] => rfl
  | item :: rest => Bool.and_eq_true_iff.2 ⟨beq_self item, beqItems_self rest⟩

theorem beqMembers_self : (members : List (String × Json)) → beqMembers members members = true
  | [] => rfl
  | (name, value) :: rest => Bool.and_eq_true_iff.2
      ⟨Bool.and_eq_true_iff.2 ⟨BEq.rfl (a := name), beq_self value⟩, beqMembers_self rest⟩

end

instance : LawfulBEq Json where
  eq_of_beq := eq_of_beq _ _
  rfl := beq_self _

instance : DecidableEq Json := instDecidableEqOfLawfulBEq

def string? : Json → Option String
  | string value => some value
  | _ => none

def bool? : Json → Option Bool
  | bool value => some value
  | _ => none

def items? : Json → Option (List Json)
  | array items => some items
  | _ => none

def members? : Json → Option (List (String × Json))
  | object members => some members
  | _ => none

def member? (value : Json) (name : String) : Option Json :=
  value.members?.bind fun members => Entries.find? members name

/-- The positions of the decimal point that are written without an exponent. -/
def layout : Decimal.Layout := ⟨-5, 16⟩

def Number.text : Number → String
  | .natural magnitude => toString magnitude
  | .negative magnitude => "-" ++ toString magnitude
  | .real (.finite below mantissa exponent) => Decimal.write layout below mantissa exponent
  -- What is not a finite number has no text of its own.
  | .real _ => "null"

def hexDigit (value : Nat) : Char :=
  if value < 10 then Char.ofNat ('0'.toNat + value) else Char.ofNat ('a'.toNat + (value - 10))

def escape (character : Char) : List Char :=
  match character with
  | '\x22' => ['\\', '\x22']
  | '\\' => ['\\', '\\']
  | '\n' => ['\\', 'n']
  | '\r' => ['\\', 'r']
  | '\t' => ['\\', 't']
  | '\x08' => ['\\', 'b']
  | '\x0c' => ['\\', 'f']
  | _ =>
    if character.toNat < 0x20 then
      ['\\', 'u', '0', '0', hexDigit (character.toNat / 16), hexDigit (character.toNat % 16)]
    else [character]

def quote (text : String) : String :=
  "\"" ++ String.ofList (text.toList.flatMap escape) ++ "\""

mutual

def compact : Json → String
  | null => "null"
  | bool value => if value then "true" else "false"
  | number value => value.text
  | string value => quote value
  | array items => "[" ++ ",".intercalate (compactItems items) ++ "]"
  | object members => "\x7b" ++ ",".intercalate (compactMembers members) ++ "\x7d"

def compactItems : List Json → List String
  | [] => []
  | item :: rest => compact item :: compactItems rest

def compactMembers : List (String × Json) → List String
  | [] => []
  | (name, value) :: rest => (quote name ++ ":" ++ compact value) :: compactMembers rest

end

def indent (depth : Nat) : String :=
  "\n" ++ String.ofList (List.replicate (2 * depth) ' ')

mutual

def prettyAt (depth : Nat) : Json → String
  | array items =>
    if items.isEmpty then "[]"
    else "[" ++ indent (depth + 1)
      ++ ("," ++ indent (depth + 1)).intercalate (prettyItems (depth + 1) items)
      ++ indent depth ++ "]"
  | object members =>
    if members.isEmpty then "\x7b\x7d"
    else "\x7b" ++ indent (depth + 1)
      ++ ("," ++ indent (depth + 1)).intercalate (prettyMembers (depth + 1) members)
      ++ indent depth ++ "\x7d"
  | null => "null"
  | bool value => if value then "true" else "false"
  | number value => value.text
  | string value => quote value

def prettyItems (depth : Nat) : List Json → List String
  | [] => []
  | item :: rest => prettyAt depth item :: prettyItems depth rest

def prettyMembers (depth : Nat) : List (String × Json) → List String
  | [] => []
  | (name, value) :: rest =>
    (quote name ++ ": " ++ prettyAt depth value) :: prettyMembers depth rest

end

def pretty (value : Json) : String :=
  prettyAt 0 value

end Json

end ScenarioBench

import ScenarioBench.Http.Name.Domain
import ScenarioBench.Text.Octets
import ScenarioBench.Text.Search

/-! Hosts in addresses of web resources.

A host is a name, four octets, or eight groups of 16 bits in brackets. The characters of a name are
replaced by what they stand for, and a host of numbers is written in its shortest usual form whatever
way it was written.
-/

set_option autoImplicit false

namespace ScenarioBench.Http.Host

def digit? (character : Char) : Option Nat :=
  let lower := character.toLower
  if lower.isDigit then some (lower.toNat - '0'.toNat)
  else if 'a' ≤ lower ∧ lower ≤ 'f' then some (lower.toNat - 'a'.toNat + 10)
  else none

def digits? (base : Nat) (text : List Char) : Option Nat :=
  text.foldl (fun value character => do
    let digit ← digit? character
    if digit < base then return (← value) * base + digit else none) (some 0)

/-- One part of a host that consists of numbers: decimal, octal after `0`, hexadecimal after `0x`. -/
def number? (part : List Char) : Option Nat :=
  match part with
  | [] => none
  | '0' :: 'x' :: rest | '0' :: 'X' :: rest => digits? 16 rest
  | '0' :: rest => digits? 8 rest
  | part => digits? 10 part

def decode : List Char → Octets
  | '%' :: first :: second :: rest =>
    match digit? first, digit? second with
    | some high, some low => UInt8.ofNat (high * 16 + low) :: decode rest
    | _, _ => Octets.ofText "%" ++ decode (first :: second :: rest)
  | character :: rest => Octets.ofText (String.singleton character) ++ decode rest
  | [] => []

def parts (host : List Char) : List (List Char) :=
  let pieces := (String.ofList host).splitOn "." |>.map String.toList
  -- One period may close a host.
  if pieces.getLast? = some [] && 1 < pieces.length then pieces.dropLast else pieces

def endsInNumber (host : List Char) : Bool :=
  match (parts host).getLast? with
  | some last => (!last.isEmpty && last.all Char.isDigit) || (number? last).isSome
  | none => false

/-- The four octets of a host of numbers. The last number fills the octets that are left. -/
def octets? (host : List Char) : Option String := do
  let numbers ← (parts host).mapM number?
  if 4 < numbers.length then none
  let last ← numbers.getLast?
  let leading := numbers.dropLast
  if leading.any (255 < ·) || Nat.pow 256 (4 - leading.length) ≤ last then none
  let high := leading.zipIdx.foldl
    (fun sum (number, index) => sum + number * Nat.pow 256 (3 - index)) 0
  let value := high + last
  return ".".intercalate ([3, 2, 1, 0].map fun index => toString (value / Nat.pow 256 index % 256))

def excluded (character : Char) : Bool :=
  character.toNat ≤ 0x20 || character.toNat = 0x7F || "#/:<>?@[\\]^|%".toList.contains character

def group? (text : String) : Option Nat :=
  if text.isEmpty ∨ 4 < text.length then none else digits? 16 text.toList

def pair? (text : String) : Option (List Nat) := do
  let octets ← (text.splitOn ".").mapM fun part => do
    let value ← digits? 10 part.toList
    if toString value = part ∧ value ≤ 255 then some value else none
  match octets with
  | [first, second, third, fourth] => some [first * 256 + second, third * 256 + fourth]
  | _ => none

def groups? (octetsAllowed : Bool) : List String → Option (List Nat)
  | [] => some []
  | [last] =>
    if octetsAllowed ∧ last.toList.contains '.' then pair? last
    else (group? last).map fun group => [group]
  | first :: rest => do return (← group? first) :: (← groups? octetsAllowed rest)

def side? (octetsAllowed : Bool) (text : String) : Option (List Nat) :=
  if text.isEmpty then some [] else groups? octetsAllowed (text.splitOn ":")

/-- The eight groups that a text names; two colons stand for the groups of zeros that are missing. -/
def address? (text : String) : Option (List Nat) :=
  match text.splitOn "::" with
  | [whole] => do
    let groups ← side? true whole
    if groups.length = 8 then some groups else none
  | [before, after] => do
    let leading ← side? false before
    let trailing ← side? true after
    let given := leading.length + trailing.length
    if given < 8 then some (leading ++ List.replicate (8 - given) 0 ++ trailing) else none
  | _ => none

def zeros (groups : List Nat) : Nat :=
  (groups.takeWhile (· = 0)).length

/-- The longest run of zeros among groups, as its start and its length; the first of equals. -/
def longestRun (groups : List Nat) : Nat × Nat :=
  (List.range groups.length).foldl (fun best start =>
    let length := zeros (groups.drop start)
    if best.2 < length then (start, length) else best) (0, 0)

def colons (groups : List Nat) : String :=
  ":".intercalate (groups.map fun group => String.ofList (Nat.toDigits 16 group))

def shortened (groups : List Nat) : String :=
  let (start, length) := longestRun groups
  if length < 2 then colons groups
  else colons (groups.take start) ++ "::" ++ colons (groups.drop (start + length))

def normal? (host : List Char) : Option String :=
  match host with
  | '[' :: rest =>
    if rest.getLast? = some ']' then
      (address? (String.ofList rest.dropLast)).map fun groups => "[" ++ shortened groups ++ "]"
    else none
  | host => do
    let text ← (decode host).toText?
    let name ← Name.settled? text.toList
    if name.isEmpty || name.any excluded then none
    else if endsInNumber name then octets? name
    else some (String.ofList name)

end ScenarioBench.Http.Host

/-! Texts of any characters, spelled with letters, digits and hyphens.

The characters of ASCII come first, and a hyphen after them. Then numbers tell, for each of the other
characters in ascending order, how many places to go on from the last one, counting the places of
the text once for each character on the way. The digits of a number come with the least first, and
the last of them is recognised by being small; which ones are small depends on the numbers before.
-/

set_option autoImplicit false

namespace ScenarioBench.Http.Name.Punycode

def digit? (character : Char) : Option Nat :=
  if 'a' ≤ character ∧ character ≤ 'z' then some (character.toNat - 'a'.toNat)
  else if character.isDigit then some (character.toNat - '0'.toNat + 26)
  else none

structure Reading where
  text : List Char
  scalar : Nat := 0x80
  place : Nat := 0
  bias : Nat := 72
  sum : Nat := 0
  weight : Nat := 1
  distance : Nat := 36

def Reading.threshold (reading : Reading) : Nat :=
  min 26 (max 1 (reading.distance - reading.bias))

/-- The bias after a number: about how many digits the next one has if it is of the same size. -/
def biasOf (number : Nat) : Nat :=
  if 455 < number then 36 + biasOf (number / 35) else 36 * number / (number + 38)
termination_by number
decreasing_by omega

def biasAfter (number length : Nat) (isFirst : Bool) : Nat :=
  let scaled := if isFirst then number / 700 else number / 2
  biasOf (scaled + scaled / length)

def Reading.next? (reading : Reading) (character : Char) : Option Reading := do
  let digit ← digit? character
  let sum := reading.sum + digit * reading.weight
  if reading.threshold ≤ digit then
    return { reading with
      sum, weight := reading.weight * (36 - reading.threshold), distance := reading.distance + 36 }
  let length := reading.text.length + 1
  let scalar := reading.scalar + sum / length
  if !scalar.isValidChar then none
  -- Each round through the places goes on to the next character.
  let place := sum % length
  return {
    text := reading.text.insertIdx place (Char.ofNat scalar)
    scalar, place := place + 1, sum := place + 1
    bias := biasAfter (sum - reading.place) length (reading.place == 0) }

/-- The characters of ASCII and the digits of a text; a hyphen that nothing precedes is a digit. -/
def divided (text : List Char) : List Char × List Char :=
  let digits := (text.reverse.takeWhile (· != '-')).reverse
  let basic := (text.take (text.length - digits.length)).dropLast
  if basic.isEmpty then ([], text) else (basic, digits)

def decode? (text : List Char) : Option (List Char) := do
  let (basic, digits) := divided text
  let reading ← digits.foldlM Reading.next? { text := basic : Reading }
  -- The distance starts anew with every number, so here the last one was complete.
  if reading.distance = 36 then some reading.text else none

end ScenarioBench.Http.Name.Punycode

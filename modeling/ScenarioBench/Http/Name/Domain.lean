import ScenarioBench.Http.Name.Direction
import ScenarioBench.Http.Name.Joining
import ScenarioBench.Http.Name.Plainness
import ScenarioBench.Http.Name.Punycode

/-! Names of hosts: labels with periods between them. -/

set_option autoImplicit false

namespace ScenarioBench.Http.Name

def isAscii (text : List Char) : Bool :=
  text.all (·.toNat < 0x80)

def spelled? (label : List Char) : Option (List Char) := do
  if !isAscii label || 2000 < label.length then none
  let text ← Punycode.decode? label
  -- What could be written plainly, or stands for something else, is not spelled.
  if isAscii text || !areAllPlain text then none
  return text

def text? (label : List Char) : Option (List Char) :=
  if label.take 4 == "xn--".toList then spelled? (label.drop 4) else some label

def isLabel (text : List Char) : Bool :=
  isAscii text
    || (text.length ≤ 1000 && !text.head?.any isMark && areJoinersAllowed [] text)

def labels? (name : List Char) : Option (List (List Char)) :=
  ((String.ofList name).splitOn ".").mapM fun label => do
    let text ← text? label.toList
    if isLabel text then some text else none

/-- A name with every character replaced by what it stands for, if it may name a host. -/
def settled? (name : List Char) : Option (List Char) := do
  let replaced := (← name.mapM replaced?).flatten
  let directions := (← labels? replaced).map fun label => label.map Direction.of
  -- Without any character written to the left there is nothing to be told apart.
  if directions.any (·.any Direction.isTurning) && !directions.all Direction.areOrdered then none
  return replaced

end ScenarioBench.Http.Name

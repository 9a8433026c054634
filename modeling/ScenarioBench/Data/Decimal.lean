import ScenarioBench.Data.Binary64

/-! Decimal texts of floating-point numbers.

The shortest digits are the fewest that read back as the same number and, among those, the nearest to
it. Formats choose between positional and exponent notation; fixed places round the exact value.
-/

set_option autoImplicit false

namespace ScenarioBench.Decimal

open Binary64 (quotient scale leastExponent)

structure Digits where
  digits : Nat
  count : Nat
  power : Int
  deriving DecidableEq, Repr

/-- Twice the value and twice the ends of the interval of quotients that round to a number, over one
denominator. -/
def interval (mantissa : Nat) (exponent : Int) : Nat × Nat × Nat × Nat :=
  let (numerator, denominator) := scale (4 * mantissa) 4 exponent
  let unit := (scale 1 1 exponent).1
  -- Below a power of two the numbers lie twice as close.
  let low := if mantissa = Nat.pow 2 52 ∧ leastExponent < exponent then unit else 2 * unit
  (numerator, numerator - low, numerator + 2 * unit, denominator)

def leadingPower (numerator denominator : Nat) : Int :=
  let atLeast (power : Int) : Bool :=
    denominator * Nat.pow 10 power.toNat ≤ numerator * Nat.pow 10 (-power).toNat
  let bits : Int := (Nat.log2 numerator : Int) - (Nat.log2 denominator : Int)
  -- 0.30103 is the decimal logarithm of 2; the guess is at most two away.
  let guess : Int := bits * 30103 / 100000
  if atLeast (guess + 1) then (if atLeast (guess + 2) then guess + 2 else guess + 1)
  else if atLeast guess then guess
  else if atLeast (guess - 1) then guess - 1
  else guess - 2

/-- The digits of a length that read back as the number, if there are any; of two, the nearer, of two
equally near, the even ones. -/
def digitsOfLength (mantissa : Nat) (exponent : Int) (length : Nat) : Option Digits :=
  let (value, low, high, denominator) := interval mantissa exponent
  let power := leadingPower value denominator - (length - 1 : Nat)
  let up := Nat.pow 10 (-power).toNat
  let down := denominator * Nat.pow 10 power.toNat
  let inside (candidate : Nat) : Bool :=
    let scaled := candidate * down
    -- The ends of the interval are ties, which an even mantissa wins.
    if mantissa % 2 = 0 then low * up ≤ scaled && scaled ≤ high * up
    else low * up < scaled && scaled < high * up
  let floor := value * up / down
  let distance (candidate : Nat) : Nat :=
    let scaled := candidate * down
    (scaled - value * up) + (value * up - scaled)
  let make (candidate : Nat) : Digits :=
    if candidate = Nat.pow 10 length then ⟨Nat.pow 10 (length - 1), length, power + 1⟩
    else ⟨candidate, length, power⟩
  match inside floor && 0 < floor, inside (floor + 1) with
  | true, true =>
    if distance floor < distance (floor + 1)
        || (distance floor = distance (floor + 1) && floor % 2 = 0)
    then some (make floor) else some (make (floor + 1))
  | true, false => some (make floor)
  | false, true => some (make (floor + 1))
  | false, false => none

def shortest (mantissa : Nat) (exponent : Int) : Digits :=
  -- 17 digits always suffice, so the default is never taken.
  ((List.range 17).findSome? fun index => digitsOfLength mantissa exponent (index + 1)).getD
    ⟨mantissa, 17, exponent⟩

def Digits.text (digits : Digits) : String :=
  toString digits.digits

def zeros (count : Nat) : String :=
  String.ofList (List.replicate count '0')

def Digits.positional (digits : Digits) : String :=
  let text := digits.text.toList
  let point : Int := digits.count + digits.power
  if 0 ≤ digits.power then digits.text ++ zeros digits.power.toNat ++ ".0"
  else if 0 < point then
    String.ofList (text.take point.toNat) ++ "." ++ String.ofList (text.drop point.toNat)
  else "0." ++ zeros (-point).toNat ++ digits.text

def exponentText (power : Int) : String :=
  "e" ++ (if power < 0 then "-" else "+") ++ (if power.natAbs < 10 then "0" else "")
    ++ toString power.natAbs

def Digits.scientific (digits : Digits) : String :=
  let text := digits.text.toList
  let fraction := String.ofList (text.drop 1)
  String.ofList (text.take 1) ++ (if fraction.isEmpty then "" else "." ++ fraction)
    ++ exponentText (digits.count + digits.power - 1)

/-- Which decimal points are written positionally: from `least` digits behind to `most` digits before
the point. -/
structure Layout where
  least : Int
  most : Int
  deriving DecidableEq, Repr

def sign (negative : Bool) : String := if negative then "-" else ""

def write (layout : Layout) (negative : Bool) (mantissa : Nat) (exponent : Int) : String :=
  if mantissa = 0 then sign negative ++ "0.0"
  else
    let digits := shortest mantissa exponent
    let point : Int := digits.count + digits.power
    sign negative ++
      if layout.least < point ∧ point ≤ layout.most then digits.positional else digits.scientific

def writePositional (negative : Bool) (mantissa : Nat) (exponent : Int) : String :=
  sign negative ++ if mantissa = 0 then "0.0" else (shortest mantissa exponent).positional

def writeFixed (places : Nat) (mantissa : Nat) (exponent : Int) : String :=
  let (numerator, denominator) := quotient mantissa exponent
  let scaled := roundQuotient (numerator * Nat.pow 10 places) denominator
  let whole := toString (scaled / Nat.pow 10 places)
  let fraction := toString (scaled % Nat.pow 10 places)
  whole ++ "." ++ zeros (places - fraction.length) ++ fraction

end ScenarioBench.Decimal

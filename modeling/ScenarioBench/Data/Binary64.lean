/-! Floating-point numbers of 64 bits, by exact arithmetic on natural numbers.

A finite number is `mantissa * 2 ^ exponent` in its canonical form: the mantissa has 53 bits, or fewer
when the exponent is the least one. Rounding goes to the nearest number, ties to the even mantissa.
-/

set_option autoImplicit false

namespace ScenarioBench

inductive Binary64 where
  | finite (negative : Bool) (mantissa : Nat) (exponent : Int)
  | infinite (negative : Bool)
  | notANumber
  deriving DecidableEq, Repr, Inhabited

def roundQuotient (numerator denominator : Nat) : Nat :=
  let quotient := numerator / denominator
  let rest := 2 * (numerator % denominator)
  if denominator < rest ∨ (rest = denominator ∧ quotient % 2 = 1) then quotient + 1 else quotient

namespace Binary64

def leastExponent : Int := -1074
def greatestExponent : Int := 971
def mantissaBits : Nat := 53

/-- `numerator * 2 ^ power / denominator` with the power on the side where it is not negative. -/
def scale (numerator denominator : Nat) (power : Int) : Nat × Nat :=
  (numerator * Nat.pow 2 power.toNat, denominator * Nat.pow 2 (-power).toNat)

def leadingBit (numerator denominator : Nat) : Int :=
  let guess : Int := (Nat.log2 numerator : Int) - (Nat.log2 denominator : Int)
  -- The two lengths in bits determine the leading bit of the quotient up to one.
  let (scaledNumerator, scaledDenominator) := scale numerator denominator (-guess)
  if scaledNumerator < scaledDenominator then guess - 1 else guess

def ofQuotient (negative : Bool) (numerator denominator : Nat) : Binary64 :=
  if numerator = 0 then .finite negative 0 leastExponent
  else
    let exponent := max (leadingBit numerator denominator - 52) leastExponent
    let (scaledNumerator, scaledDenominator) := scale numerator denominator (-exponent)
    let mantissa := roundQuotient scaledNumerator scaledDenominator
    -- Rounding up may have carried into one bit more.
    let (mantissa, exponent) :=
      if mantissa = Nat.pow 2 mantissaBits then (Nat.pow 2 (mantissaBits - 1), exponent + 1)
      else (mantissa, exponent)
    if greatestExponent < exponent then .infinite negative else .finite negative mantissa exponent

def ofNat (number : Nat) : Binary64 :=
  ofQuotient false number 1

def ofDecimal (negative : Bool) (digits : Nat) (power : Int) : Binary64 :=
  ofQuotient negative (digits * Nat.pow 10 power.toNat) (Nat.pow 10 (-power).toNat)

def quotient (mantissa : Nat) (exponent : Int) : Nat × Nat :=
  scale mantissa 1 exponent

def add : Binary64 → Binary64 → Binary64
  | .finite false first firstExponent, .finite false second secondExponent =>
    let (a, b) := quotient first firstExponent
    let (c, d) := quotient second secondExponent
    ofQuotient false (a * d + c * b) (b * d)
  | _, _ => .notANumber

def mul : Binary64 → Binary64 → Binary64
  | .finite sign first firstExponent, .finite otherSign second secondExponent =>
    let (a, b) := quotient first firstExponent
    let (c, d) := quotient second secondExponent
    ofQuotient (sign != otherSign) (a * c) (b * d)
  | _, _ => .notANumber

def div : Binary64 → Binary64 → Binary64
  | .finite sign first firstExponent, .finite otherSign second secondExponent =>
    let (a, b) := quotient first firstExponent
    let (c, d) := quotient second secondExponent
    if c = 0 then .notANumber else ofQuotient (sign != otherSign) (a * d) (b * c)
  | _, _ => .notANumber

def isZero : Binary64 → Bool
  | .finite _ mantissa _ => mantissa = 0
  | _ => false

def negate : Binary64 → Binary64
  | .finite negative mantissa exponent => .finite (!negative) mantissa exponent
  | .infinite negative => .infinite (!negative)
  | .notANumber => .notANumber

end Binary64

end ScenarioBench

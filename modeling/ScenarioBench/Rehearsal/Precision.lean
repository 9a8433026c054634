import ScenarioBench.Data.Decimal

/-! Decimal texts of floating-point numbers with a given precision, and numbers at the start of
texts.

Three notations share one rounding: fixed places behind the point, an exponent behind one digit, and
the shorter of both for a number of significant digits.
-/

set_option autoImplicit false

namespace ScenarioBench.Rehearsal.Precision

open Binary64 (quotient)
open Decimal (zeros leadingPower exponentText)

inductive Style where
  | fixed
  | scientific
  | general (keepsZeros : Bool)
  deriving DecidableEq

def pointed (places : Nat) (digits : Nat) : String :=
  let text := (toString digits).toList
  let padded := List.replicate (places + 1 - text.length) '0' ++ text
  let whole := String.ofList (padded.take (padded.length - places))
  if places = 0 then whole else whole ++ "." ++ String.ofList (padded.drop (padded.length - places))

def fixedText (places numerator denominator : Nat) : String :=
  pointed places (roundQuotient (numerator * Nat.pow 10 places) denominator)

/-- The first `places + 1` significant digits of a quotient, rounded, and the power of ten of the
first of them. -/
def significant (places numerator denominator : Nat) : Nat × Int :=
  if numerator = 0 then (0, 0)
  else
    let power := leadingPower numerator denominator
    let shift : Int := places - power
    let digits := roundQuotient (numerator * Nat.pow 10 shift.toNat)
      (denominator * Nat.pow 10 (-shift).toNat)
    if digits = Nat.pow 10 (places + 1) then (Nat.pow 10 places, power + 1) else (digits, power)

def scientificText (places numerator denominator : Nat) : String :=
  let (digits, power) := significant places numerator denominator
  pointed places digits ++ exponentText power

def trimmed (text : String) : String :=
  if text.toList.contains '.' then
    let rest := text.toList.reverse.dropWhile (· = '0')
    String.ofList (if rest.head? = some '.' then rest.tail else rest).reverse
  else text

def generalText (keepsZeros : Bool) (precision numerator denominator : Nat) : String :=
  let places := max precision 1 - 1
  let (digits, power) := significant places numerator denominator
  let trim (text : String) : String := if keepsZeros then text else trimmed text
  if -5 < power ∧ power ≤ places then
    trim (fixedText ((places : Int) - power).toNat numerator denominator)
  else trim (pointed places digits) ++ exponentText power

def magnitudeText (style : Style) (precision mantissa : Nat) (exponent : Int) : String :=
  let (numerator, denominator) := quotient mantissa exponent
  match style with
  | .fixed => fixedText precision numerator denominator
  | .scientific => scientificText precision numerator denominator
  | .general keepsZeros => generalText keepsZeros precision numerator denominator

/-- The number at the start of a text, and what is left; nothing is left out if no number is there.
Blanks may come first. -/
def split (text : List Char) : Binary64 × List Char :=
  let isBlank (character : Char) : Bool :=
    character = ' ' || ('\t' ≤ character && character ≤ '\r')
  let front := text.dropWhile isBlank
  let (negative, magnitude) := match front with
    | '-' :: rest => (true, rest)
    | '+' :: rest => (false, rest)
    | rest => (false, rest)
  let startsWith (word : String) : Bool :=
    word.toList.isPrefixOf ((magnitude.take word.length).map Char.toLower)
  if startsWith "infinity" then (.infinite negative, magnitude.drop 8)
  else if startsWith "inf" then (.infinite negative, magnitude.drop 3)
  else if startsWith "nan" then (.notANumber, magnitude.drop 3)
  else
    let (whole, rest) := magnitude.span Char.isDigit
    let (fraction, rest) := match rest with
      | '.' :: after =>
        if whole.isEmpty && !(after.head?.any Char.isDigit) then ([], rest)
        else after.span Char.isDigit
      | _ => ([], rest)
    if whole.isEmpty && fraction.isEmpty then (.finite false 0 Binary64.leastExponent, text)
    else
      let (power, rest) : Int × List Char := match rest with
        | mark :: after =>
          if mark = 'e' || mark = 'E' then
            let (sign, digits) : Int × List Char := match after with
              | '-' :: digits => (-1, digits)
              | '+' :: digits => (1, digits)
              | digits => (1, digits)
            let (digits, left) := digits.span Char.isDigit
            if digits.isEmpty then (0, rest)
            else (sign * ((String.ofList digits).toNat?.getD 0 : Nat), left)
          else (0, rest)
        | [] => (0, rest)
      let digits := (String.ofList (whole ++ fraction)).toNat?.getD 0
      let bounded : Int := max (-5000) (min 5000 power)
      (.ofDecimal negative digits (bounded - fraction.length), rest)

end ScenarioBench.Rehearsal.Precision

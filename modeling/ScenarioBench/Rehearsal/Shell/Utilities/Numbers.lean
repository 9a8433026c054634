import ScenarioBench.Rehearsal.Shell.ExpressionReader
import ScenarioBench.Rehearsal.Shell.Format
import ScenarioBench.Rehearsal.Shell.Utility

/-! Utilities that count and calculate. -/

set_option autoImplicit false

namespace ScenarioBench.Rehearsal.Shell.Utility

/-! ### Sequences -/

/-- A number as it is written: its digits without the point, how many of them stand behind the point,
and how wide it is. -/
structure Numeral where
  digits : Int
  places : Nat
  width : Nat

namespace Numeral

def read? (text : String) : Option Numeral := do
  let letters := text.toList
  let (sign, magnitude) : Int × List Char := match letters with
    | '-' :: rest => (-1, rest)
    | '+' :: rest => (1, rest)
    | rest => (1, rest)
  let width := if letters.head? = some '+' then magnitude.length else letters.length
  match magnitude with
  | '0' :: 'x' :: digits =>
    let (digits, rest) := Arithmetic.splitDigits 16 digits
    if digits.isEmpty || !rest.isEmpty then none
    let value := Arithmetic.valueOf 16 digits
    return ⟨sign * (value : Int), 0, (toString value).length⟩
  | _ =>
    let (whole, rest) := magnitude.span Char.isDigit
    let (fraction, rest) := match rest with
      | '.' :: rest => rest.span Char.isDigit
      | rest => ([], rest)
    if whole.isEmpty && fraction.isEmpty then none
    let value : Int := ((String.ofList (whole ++ fraction)).toNat?.getD 0 : Nat)
    let hasPoint := whole.length < magnitude.length && fraction.isEmpty
    let width := if whole.isEmpty then width + 1 else if hasPoint then width - 1 else width
    match rest with
    | [] => return ⟨sign * value, fraction.length, width⟩
    | mark :: power =>
      if !(mark = 'e' || mark = 'E') then none
      let power ← (String.ofList (if power.head? = some '+' then power.tail else power)).toInt?
      let shifted := power - fraction.length
      if power < -300 || 300 < power then none
      else if 0 ≤ shifted then
        let digits := sign * value * (Nat.pow 10 shifted.toNat : Int)
        return ⟨digits, 0, (toString digits).length⟩
      else
        let places := (-shifted).toNat
        return ⟨sign * value, places, width⟩

def scaled (places : Nat) (numeral : Numeral) : Int :=
  numeral.digits * (Nat.pow 10 (places - numeral.places) : Int)

end Numeral

def decimalText (places width : Nat) (digits : Int) : String :=
  let magnitude := Precision.pointed places digits.natAbs
  let sign := if digits < 0 then "-" else ""
  sign ++ String.ofList (List.replicate (width - sign.length - magnitude.length) '0') ++ magnitude

def longestSequence : Nat := 2000000

def sequence (first step last : Int) : List Int :=
  let count := if 0 < step then (last - first) / step + 1 else (first - last) / (-step) + 1
  (List.range (min count.toNat longestSequence)).map fun (index : Nat) => first + step * (index : Int)

def formatFault? (quoted : String) (format : String) : Option String :=
  let directives := (Format.parts (format.length + 1) format.toList).filterMap fun part =>
    match part with
    | .directive directive => some directive.letter
    | _ => none
  match directives with
  | [] => some ("format " ++ quoted ++ " has no % directive")
  | [letter] =>
    if ['e', 'E', 'f', 'F', 'g', 'G', 'a', 'A'].contains letter then none
    else some ("format " ++ quoted ++ " has unknown %" ++ String.singleton letter ++ " directive")
  | _ => some ("format " ++ quoted ++ " has too many % directives")

def seqUsage : Usage where
  name := "seq"
  letters := [('f', .value), ('s', .value), ('w', .nothing)]
  words := [("format", 'f'), ("separator", 's'), ("equal-width", 'w')]
  stops := true
  misuse := 1

def seq : Utility := fun arguments => do
  let isNumber (argument : String) : Bool := match argument.toList with
    | '-' :: next :: _ => next.isDigit || next = '.'
    | _ => false
  let front := arguments.takeWhile fun argument => !isNumber argument
  let given ← given seqUsage front
  let operands := given.operands ++ arguments.drop front.length
  match operands with
  | [] => misused seqUsage "missing operand"
  | _ :: _ :: _ :: extra :: _ => misused seqUsage ("extra operand " ++ (← quoteName extra))
  | _ => pure ()
  match given.value? 'f' with
  | some format =>
    match formatFault? (← quoteName format) format with
    | some message => fail "seq" message 1
    | none => pure ()
  | none => pure ()
  let numerals ← operands.mapM fun text => do
    match Numeral.read? text with
    | some numeral => return numeral
    | none => misused seqUsage ("invalid floating point argument: " ++ (← quoteName text))
  let one : Numeral := ⟨1, 0, 1⟩
  let (first, step, last) := match numerals with
    | [last] => (one, one, last)
    | [first, last] => (first, one, last)
    | first :: step :: last :: _ => (first, step, last)
    | [] => (one, one, one)
  if step.digits = 0 then
    misused seqUsage ("invalid Zero increment value: " ++ (← quoteName (operands.getD 1 "")))
  let places := max first.places step.places
  let scale := max places last.places
  let width (numeral : Numeral) : Nat :=
    numeral.width + (places - numeral.places) + (if numeral.places = 0 && 0 < places then 1 else 0)
      - (if 0 < numeral.places && places = 0 then numeral.places + 1 else 0)
  let filled := if given.has 'w' then max (width first) (width last) else 0
  let numbers := sequence (first.scaled scale) (step.scaled scale) (last.scaled scale)
  let dropped : Int := (Nat.pow 10 (scale - places) : Int)
  let shown (number : Int) : String :=
    let text := decimalText places filled (number / dropped)
    match given.value? 'f' with
    | some format => (Format.print format [text]).text
    | none => text
  if !numbers.isEmpty then
    Doing.write 1 (((given.value? 's').getD "\n").intercalate (numbers.map shown) ++ "\n")
  return 0

/-! ### Calculations -/

namespace Calculation

structure State where
  rest : List String
  before : String

abbrev Calculating := StateT State (Except String)

def peek : Calculating (Option String) := do
  return (← get).rest.head?

def take : Calculating Unit :=
  modify fun state => ⟨state.rest.tail, state.rest.headD ""⟩

def isInteger (text : String) : Bool :=
  let digits := if text.startsWith "-" then text.toList.tail else text.toList
  !digits.isEmpty && digits.all Char.isDigit

def isNull (text : String) : Bool :=
  text.isEmpty ||
    let digits := if text.startsWith "-" then text.toList.tail else text.toList
    !digits.isEmpty && digits.all (· = '0')

def integer (text : String) : Except String Int :=
  if isInteger text then .ok (text.toInt?.getD 0) else .error "non-integer argument"

def levels : List (List String) :=
  [["|"], ["&"], ["<", "<=", "=", "==", "!=", ">=", ">"], ["+", "-"], ["*", "/", "%"], [":"]]

def ofTruth (isTrue : Bool) : String :=
  if isTrue then "1" else "0"

def matched (isUnicode : Bool) (text expression : String) : Except String String := do
  let pattern ← match Expression.read false true (decode isUnicode expression).toList with
    | .ok pattern => pure pattern
    | .error fault => throw fault.message
  let letters := (decode isUnicode text).toList
  match pattern.matchAt? ⟨letters.toArray, false, false⟩ 0 with
  | none => return if 0 < pattern.groups then "" else "0"
  | some reached =>
    if pattern.groups = 0 then return toString reached.position
    else match reached.group? 1 with
      | some (first, last) =>
        return encode isUnicode (String.ofList ((letters.take last).drop first))
      | none => return ""

def apply (isUnicode : Bool) (operator first second : String) : Except String String := do
  let compared (order : Ordering → Bool) : String :=
    match integer first, integer second with
    | .ok first, .ok second => ofTruth (order (compare first second))
    | _, _ => ofTruth (order (compareOfLessAndEq first second))
  match operator with
  | "|" => return if isNull first then (if isNull second then "0" else second) else first
  | "&" => return if isNull first || isNull second then "0" else first
  | "<" => return compared (· = .lt)
  | "<=" => return compared (· ≠ .gt)
  | "=" | "==" => return compared (· = .eq)
  | "!=" => return compared (· ≠ .eq)
  | ">=" => return compared (· ≠ .lt)
  | ">" => return compared (· = .gt)
  | "+" => return toString ((← integer first) + (← integer second))
  | "-" => return toString ((← integer first) - (← integer second))
  | "*" => return toString ((← integer first) * (← integer second))
  | ":" => matched isUnicode first second
  | _ =>
    let first ← integer first
    let second ← integer second
    if second = 0 then throw "division by zero"
    return toString (if operator = "/" then first.tdiv second else first.tmod second)

section Parsing

variable (isUnicode : Bool)

/-- The operators of one level, within a number of steps. What cannot change the result is read but
not calculated. -/
def chain (operators : List String) (operand : Bool → Calculating String) (evaluates : Bool) :
    Nat → String → Calculating String
  | 0, first => return first
  | fuel + 1, first => do
    match ← peek with
    | some operator =>
      if !operators.contains operator then return first
      take
      let matters := match operator with
        | "|" => isNull first
        | "&" => !isNull first
        | _ => true
      let second ← operand (evaluates && matters)
      let result ← if evaluates then
          (if matters then apply isUnicode operator first second
          else apply isUnicode operator first "0")
        else pure ""
      chain operators operand evaluates fuel result
    | none => return first

def levelled (operand : Bool → Calculating String) (fuel : Nat) :
    List (List String) → Bool → Calculating String
  | [], evaluates => operand evaluates
  | operators :: tighter, evaluates => do
    let first ← levelled operand fuel tighter evaluates
    chain isUnicode operators (levelled operand fuel tighter) evaluates fuel first

def placeOf (text characters : String) : Nat :=
  let letters := (decode isUnicode text).toList
  let before := letters.takeWhile fun letter => !(decode isUnicode characters).toList.contains letter
  if before.length = letters.length then 0 else before.length + 1

def partOf (text first length : String) : String :=
  match integer first, integer length with
  | .ok first, .ok length =>
    if first ≤ 0 || length ≤ 0 then ""
    else encode isUnicode (String.ofList
      (((decode isUnicode text).toList.drop (first.toNat - 1)).take length.toNat))
  | _, _ => ""

def operand (whole : Bool → Calculating String) : Nat → Bool → Calculating String
  | 0, _ => return ""
  | fuel + 1, evaluates => do
    let own := operand whole fuel
    let quoted (text : String) : String := languageQuoted isUnicode text
    let missing : Calculating Unit := do
      throw ("syntax error: missing argument after " ++ quoted (← get).before)
    match ← peek with
    | none =>
      missing
      return ""
    | some "+" =>
      take
      match ← peek with
      | some text =>
        take
        return text
      | none =>
        missing
        return ""
    | some "length" =>
      take
      return toString (decode isUnicode (← own evaluates)).length
    | some "match" =>
      take
      let text ← own evaluates
      let expression ← own evaluates
      if evaluates then matched isUnicode text expression else return ""
    | some "index" =>
      take
      let text ← own evaluates
      let characters ← own evaluates
      return toString (placeOf isUnicode text characters)
    | some "substr" =>
      take
      let text ← own evaluates
      let first ← own evaluates
      let length ← own evaluates
      return partOf isUnicode text first length
    | some "(" =>
      take
      let inner ← whole evaluates
      match ← peek with
      | some ")" =>
        take
        return inner
      | some other => throw ("syntax error: expecting ')' instead of " ++ quoted other)
      | none => throw ("syntax error: expecting ')' after " ++ quoted (← get).before)
    | some ")" => throw "syntax error: unexpected ')'"
    | some text =>
      take
      return text

def expression : Nat → Bool → Calculating String
  | 0, _ => return ""
  | fuel + 1, evaluates => do
    let steps := (← get).rest.length + 1
    levelled isUnicode (operand isUnicode (expression fuel) steps) steps levels evaluates

end Parsing

end Calculation

def expr : Utility := fun arguments => do
  let arguments := if arguments.head? = some "--" then arguments.tail else arguments
  if arguments.isEmpty then
    complain "expr" "missing operand"
    Doing.note "Try 'expr --help' for more information."
    return 2
  let isUnicode := (← Doing.machine).isUnicode
  let calculation := Calculation.expression isUnicode (arguments.length + 1) true
  match calculation.run ⟨arguments, ""⟩ with
  | .error message => fail "expr" message 2
  | .ok (result, after) =>
    match after.rest with
    | extra :: _ => fail "expr" ("syntax error: unexpected argument " ++ (← quoteName extra)) 2
    | [] => do
      Doing.write 1 (result ++ "\n")
      return if Calculation.isNull result then 1 else 0

end ScenarioBench.Rehearsal.Shell.Utility

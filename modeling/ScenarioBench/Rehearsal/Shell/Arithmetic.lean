import ScenarioBench.Rehearsal.Shell.Naming

/-! The arithmetic of shell scripts, on signed numbers of 64 bits.

Operands that need not be looked at, behind `&&` and `||` and in the branch of a choice that is not
taken, do not change variables. An expression that breaks off has a value as far as it goes: of two
faults, the one that comes first counts.
-/

set_option autoImplicit false

namespace ScenarioBench.Rehearsal.Shell.Arithmetic

inductive Token where
  | number (value : Int)
  | name (name : String)
  | symbol (symbol : String)
  | foreign
  deriving DecidableEq

inductive Expression where
  | number (value : Int)
  | parameter (name : String)
  | unary (symbol : String) (operand : Expression)
  | binary (symbol : String) (first second : Expression)
  | choice (condition whenTrue whenFalse : Expression)
  | assign (name : String) (symbol : String) (value : Expression)
  | missing (part : String)
  | cut (before : Expression) (part : String)

inductive Fault where
  | expecting (part : String)
  | divisionByZero
  | illegalNumber (text : String)
  deriving DecidableEq

namespace Fault

def message (expression : String) : Fault → String
  | expecting part => "arithmetic expression: expecting " ++ part ++ ": \"" ++ expression ++ "\""
  | divisionByZero => "arithmetic expression: division by zero: \"" ++ expression ++ "\""
  | illegalNumber text => "Illegal number: " ++ text

end Fault

def wrap (value : Int) : Int :=
  value.bmod (Nat.pow 2 64)

def largest : Nat := Nat.pow 2 63 - 1

def digitValue (digit : Char) : Nat :=
  if digit.isDigit then digit.toNat - '0'.toNat
  else if digit.isAlpha then digit.toLower.toNat - 'a'.toNat + 10
  else 36

def splitDigits (base : Nat) (text : List Char) : List Char × List Char :=
  text.span fun digit => digitValue digit < base

def valueOf (base : Nat) (digits : List Char) : Nat :=
  digits.foldl (fun value digit => value * base + digitValue digit) 0

def splitNumber (text : List Char) : Nat × List Char :=
  let plain (base : Nat) : Nat × List Char :=
    let (digits, rest) := splitDigits base text
    (valueOf base digits, rest)
  match text with
  | '0' :: mark :: rest =>
    let (digits, after) := splitDigits 16 rest
    if (mark = 'x' || mark = 'X') && !digits.isEmpty then (valueOf 16 digits, after)
    else plain 8
  | '0' :: _ => plain 8
  | _ => plain 10

def symbols : List String :=
  ["<<=", ">>=", "<<", ">>", "<=", ">=", "==", "!=", "&&", "||", "+=", "-=", "*=", "/=", "%=", "&=",
   "|=", "^=", "+", "-", "*", "/", "%", "<", ">", "=", "!", "~", "&", "|", "^", "?", ":", "(", ")"]

def tokens : Nat → List Char → List Token
  | 0, _ => []
  | _ + 1, [] => []
  | fuel + 1, head :: rest =>
    if [' ', '\t', '\n'].contains head then tokens fuel rest
    else if head.isDigit then
      let (value, after) := splitNumber (head :: rest)
      .number (min value largest : Nat) :: tokens fuel after
    else if Naming.isInName head then
      let (name, after) := (head :: rest).span Naming.isInName
      .name (String.ofList name) :: tokens fuel after
    else match symbols.find? fun symbol => symbol.toList.isPrefixOf (head :: rest) with
      | some symbol => .symbol symbol :: tokens fuel ((head :: rest).drop symbol.length)
      | none => [.foreign]

def levels : List (List String) :=
  [["||"], ["&&"], ["|"], ["^"], ["&"], ["==", "!="], ["<", "<=", ">", ">="], ["<<", ">>"],
   ["+", "-"], ["*", "/", "%"]]

def assignments : List (String × String) :=
  [("=", ""), ("+=", "+"), ("-=", "-"), ("*=", "*"), ("/=", "/"), ("%=", "%"), ("<<=", "<<"),
   (">>=", ">>"), ("&=", "&"), ("|=", "|"), ("^=", "^")]

inductive Goal where
  | whole
  | choice
  | level (levels : List (List String))
  | more (levels : List (List String)) (first : Expression)
  | operand

def find : Nat → Goal → List Token → Expression × List Token
  | 0, _, tokens => (.missing "primary", tokens)
  | fuel + 1, .whole, tokens =>
    match tokens with
    | .name name :: .symbol symbol :: rest =>
      match assignments.lookup symbol with
      | some operator =>
        let (value, rest) := find fuel .whole rest
        (.assign name operator value, rest)
      | none => find fuel .choice tokens
    | _ => find fuel .choice tokens
  | fuel + 1, .choice, tokens =>
    let (condition, rest) := find fuel (.level levels) tokens
    match rest with
    | .symbol "?" :: rest =>
      let (whenTrue, rest) := find fuel .whole rest
      match rest with
      | .symbol ":" :: rest =>
        let (whenFalse, rest) := find fuel .choice rest
        (.choice condition whenTrue whenFalse, rest)
      | _ => (.choice condition whenTrue (.missing "':'"), rest)
    | _ => (condition, rest)
  | fuel + 1, .level [], tokens => find fuel .operand tokens
  | fuel + 1, .level (operators :: tighter), tokens =>
    let (first, rest) := find fuel (.level tighter) tokens
    find fuel (.more (operators :: tighter) first) rest
  | fuel + 1, .more levels first, tokens =>
    match tokens with
    | .symbol symbol :: rest =>
      if levels.head?.any fun operators => operators.contains symbol then
        let (second, rest) := find fuel (.level levels.tail) rest
        find fuel (.more levels (.binary symbol first second)) rest
      else (first, tokens)
    | _ => (first, tokens)
  | fuel + 1, .operand, tokens =>
    match tokens with
    | .number value :: rest => (.number value, rest)
    | .name name :: rest => (.parameter name, rest)
    | .symbol "(" :: rest =>
      let (inside, rest) := find fuel .whole rest
      match rest with
      | .symbol ")" :: rest => (inside, rest)
      | _ => (.cut inside "')'", rest)
    | .symbol symbol :: rest =>
      if ["+", "-", "!", "~"].contains symbol then
        let (operand, rest) := find fuel .operand rest
        (.unary symbol operand, rest)
      else (.missing "primary", tokens)
    | _ => (.missing "primary", tokens)

def read (text : String) : Expression :=
  let tokens := tokens (text.length + 1) text.toList
  match find (16 * tokens.length + 16) .whole tokens with
  | (expression, []) => expression
  | (expression, _) => .cut expression "EOF"

def Expression.missing? : Expression → Option String
  | .number _ | .parameter _ => none
  | .unary _ operand => operand.missing?
  | .binary _ first second => first.missing?.or second.missing?
  | .choice condition whenTrue whenFalse =>
    (condition.missing?.or whenTrue.missing?).or whenFalse.missing?
  | .assign _ _ value => value.missing?
  | .missing part => some part
  | .cut before part => before.missing?.or (some part)

def pass (expression : Expression) : Except Fault Unit :=
  match expression.missing? with
  | some part => .error (.expecting part)
  | none => .ok ()

def ofBool (condition : Bool) : Int :=
  if condition then 1 else 0

def bits (value : Int) : Nat :=
  (value % (Nat.pow 2 64 : Int)).toNat

def apply (symbol : String) (first second : Int) : Except Fault Int :=
  match symbol with
  | "" => .ok second
  | "+" => .ok (wrap (first + second))
  | "-" => .ok (wrap (first - second))
  | "*" => .ok (wrap (first * second))
  | "/" => if second = 0 then .error .divisionByZero else .ok (wrap (first.tdiv second))
  | "%" => if second = 0 then .error .divisionByZero else .ok (wrap (first.tmod second))
  | "<<" => .ok (wrap (first * (Nat.pow 2 (bits second % 64) : Int)))
  | ">>" => .ok (first / (Nat.pow 2 (bits second % 64) : Int))
  | "&" => .ok (wrap (bits first &&& bits second : Nat))
  | "|" => .ok (wrap (bits first ||| bits second : Nat))
  | "^" => .ok (wrap (bits first ^^^ bits second : Nat))
  | "==" => .ok (ofBool (first = second))
  | "!=" => .ok (ofBool (first ≠ second))
  | "<" => .ok (ofBool (first < second))
  | "<=" => .ok (ofBool (first ≤ second))
  | ">" => .ok (ofBool (first > second))
  | ">=" => .ok (ofBool (first ≥ second))
  | _ => .error (.expecting "EOF")

/-- The number that a text writes; blanks around it do not count, and no number is zero. -/
def ofText (text : String) : Except Fault Int :=
  let isBlank (character : Char) : Bool :=
    character = ' ' || ('\t' ≤ character && character ≤ '\r')
  let trimmed := text.toList.dropWhile isBlank
  let (negative, digits) := match trimmed with
    | '-' :: digits => (true, digits)
    | '+' :: digits => (false, digits)
    | digits => (false, digits)
  let (value, rest) := splitNumber digits
  let hasDigits := digits.head?.any Char.isDigit
  let left := if hasDigits then rest else trimmed
  -- There is one more negative number than there are positive ones.
  let limit := if negative then largest + 1 else largest
  if !(left.dropWhile isBlank).isEmpty || limit < value then .error (.illegalNumber text)
  else if !hasDigits then .ok 0
  else .ok (if negative then -(value : Int) else value)

abbrev Assigned := List (String × String)

def evaluate (value? : String → Option String) (assigned : Assigned) :
    Expression → Except Fault (Int × Assigned)
  | .number value => .ok (value, assigned)
  | .parameter name => do
    return (← ofText (((assigned.lookup name).or (value? name)).getD ""), assigned)
  | .unary symbol operand => do
    let (value, assigned) ← evaluate value? assigned operand
    return (match symbol with
      | "-" => wrap (-value)
      | "!" => ofBool (value = 0)
      | "~" => -value - 1
      | _ => value, assigned)
  | .binary "&&" first second => do
    let (value, assigned) ← evaluate value? assigned first
    if value = 0 then
      -- The other side is not evaluated, but it has to be an expression.
      pass second
      return (0, assigned)
    let (value, assigned) ← evaluate value? assigned second
    return (ofBool (value ≠ 0), assigned)
  | .binary "||" first second => do
    let (value, assigned) ← evaluate value? assigned first
    if value ≠ 0 then
      pass second
      return (1, assigned)
    let (value, assigned) ← evaluate value? assigned second
    return (ofBool (value ≠ 0), assigned)
  | .binary symbol first second => do
    let (first, assigned) ← evaluate value? assigned first
    let (second, assigned) ← evaluate value? assigned second
    return (← apply symbol first second, assigned)
  | .choice condition whenTrue whenFalse => do
    let (value, assigned) ← evaluate value? assigned condition
    if value = 0 then
      pass whenTrue
      evaluate value? assigned whenFalse
    else
      let result ← evaluate value? assigned whenTrue
      pass whenFalse
      return result
  | .assign name symbol operand => do
    let (value, assigned) ← evaluate value? assigned operand
    let before ← if symbol = "" then pure 0
      else ofText (((assigned.lookup name).or (value? name)).getD "")
    let result ← apply symbol before value
    return (result, (name, toString result) :: assigned)
  | .missing part => .error (.expecting part)
  | .cut before part => do
    let _ ← evaluate value? assigned before
    throw (.expecting part)

end ScenarioBench.Rehearsal.Shell.Arithmetic

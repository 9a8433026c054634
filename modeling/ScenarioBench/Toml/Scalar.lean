import ScenarioBench.Json.Reader
import ScenarioBench.Toml.Value

/-! Texts, numbers and moments in TOML documents.

Every reader takes the longest beginning that it can read and hands on the rest.
-/

set_option autoImplicit false

namespace ScenarioBench.Toml

def isGap (character : Char) : Bool :=
  character = ' ' || character = '\t'

def skipGaps (characters : List Char) : List Char :=
  characters.dropWhile isGap

def lineEnd? : List Char → Option (List Char)
  | '\n' :: rest => some rest
  | '\r' :: '\n' :: rest => some rest
  | _ => none

def isPrintable (character : Char) : Bool :=
  character = '\t' || (0x20 ≤ character.toNat && character.toNat ≠ 0x7F)

def skipComment : List Char → List Char
  | '#' :: rest => rest.dropWhile isPrintable
  | rest => rest

def readHex (value : Nat) : Nat → List Char → Option (Nat × List Char)
  | 0, rest => some (value, rest)
  | count + 1, digit :: rest => do readHex (value * 16 + (← Json.hexValue? digit)) count rest
  | _ + 1, [] => none

def readEscape : List Char → Option (Char × List Char)
  | 'b' :: rest => some ('\x08', rest)
  | 't' :: rest => some ('\t', rest)
  | 'n' :: rest => some ('\n', rest)
  | 'f' :: rest => some ('\x0c', rest)
  | 'r' :: rest => some ('\r', rest)
  | '\x22' :: rest => some ('\x22', rest)
  | '\\' :: rest => some ('\\', rest)
  | 'u' :: rest => do ofScalar (← readHex 0 4 rest)
  | 'U' :: rest => do ofScalar (← readHex 0 8 rest)
  | _ => none
where
  ofScalar (reading : Nat × List Char) : Option (Char × List Char) :=
    if h : reading.1.isValidChar then some (Char.ofNatAux reading.1 h, reading.2) else none

def readBasic (fuel : Nat) (done : List Char) : List Char → Option (List Char × List Char)
  | '\x22' :: rest => some (done.reverse, rest)
  | '\\' :: rest =>
    match fuel with
    | 0 => none
    | fuel + 1 => do
      let (character, rest) ← readEscape rest
      readBasic fuel (character :: done) rest
  | character :: rest =>
    match fuel with
    | 0 => none
    | fuel + 1 =>
      if isPrintable character then readBasic fuel (character :: done) rest else none
  | [] => none

def readLiteral (characters : List Char) : Option (List Char × List Char) :=
  let text := characters.takeWhile fun character => isPrintable character && character ≠ '\x27'
  match characters.drop text.length with
  | '\x27' :: rest => some (text, rest)
  | _ => none

/-- The end of a text of several lines: three quotes, before which one or two more belong to the
text. -/
def closing? (quote : Char) (characters : List Char) : Option (List Char × List Char) :=
  -- Of up to five quotes in a row the last three close the text.
  let quotes := (characters.takeWhile (· = quote)).length
  if quotes < 3 then none
  else
    let inside := min (quotes - 3) 2
    some (List.replicate inside quote, characters.drop (inside + 3))

def afterOpening (characters : List Char) : List Char :=
  (lineEnd? characters).getD characters

def skipLines (fuel : Nat) (characters : List Char) : List Char :=
  match fuel with
  | 0 => characters
  | fuel + 1 =>
    match lineEnd? (skipGaps characters) with
    | some rest => skipLines fuel rest
    | none => skipGaps characters

/-- A text of several lines in double quotes; a backslash at the end of a line joins it to the next
text. -/
def readManyBasic (fuel : Nat) (done : List Char) (characters : List Char) :
    Option (List Char × List Char) :=
  match fuel with
  | 0 => none
  | fuel + 1 =>
    match closing? '\x22' characters with
    | some (inside, rest) => some (done.reverse ++ inside, rest)
    | none =>
      match lineEnd? characters with
      | some rest => readManyBasic fuel ('\n' :: done) rest
      | none =>
        match characters with
        | '\\' :: rest =>
          match lineEnd? (skipGaps rest) with
          | some rest => readManyBasic fuel done (skipLines rest.length rest)
          | none => do
            let (character, rest) ← readEscape rest
            readManyBasic fuel (character :: done) rest
        | character :: rest =>
          if isPrintable character then readManyBasic fuel (character :: done) rest else none
        | [] => none

def readManyLiteral (fuel : Nat) (done : List Char) (characters : List Char) :
    Option (List Char × List Char) :=
  match fuel with
  | 0 => none
  | fuel + 1 =>
    match closing? '\x27' characters with
    | some (inside, rest) => some (done.reverse ++ inside, rest)
    | none =>
      match lineEnd? characters with
      | some rest => readManyLiteral fuel ('\n' :: done) rest
      | none =>
        match characters with
        | character :: rest =>
          if isPrintable character then readManyLiteral fuel (character :: done) rest else none
        | [] => none

def readText : List Char → Option (String × List Char)
  | '\x22' :: '\x22' :: '\x22' :: rest => finish (readManyBasic (rest.length + 1) [] (afterOpening rest))
  | '\x22' :: rest => finish (readBasic rest.length [] rest)
  | '\x27' :: '\x27' :: '\x27' :: rest => finish (readManyLiteral (rest.length + 1) [] (afterOpening rest))
  | '\x27' :: rest => finish (readLiteral rest)
  | _ => none
where
  finish (reading : Option (List Char × List Char)) : Option (String × List Char) :=
    reading.map fun (characters, rest) => (String.ofList characters, rest)

/-- Digits that underscores may separate, as values: the digits, whether every underscore stands
between two of them, and the rest. -/
def takeDigits (value? : Char → Option Nat) : List Char → List Nat × Bool × List Char
  | '_' :: character :: rest =>
    match value? character with
    | some digit =>
      let (digits, sound, left) := takeDigits value? rest
      (digit :: digits, sound, left)
    | none => ([], false, '_' :: character :: rest)
  | character :: rest =>
    match value? character with
    | some digit =>
      let (digits, sound, left) := takeDigits value? rest
      (digit :: digits, sound, left)
    | none => ([], character ≠ '_', character :: rest)
  | [] => ([], true, [])

def readDigits (value? : Char → Option Nat) : List Char → Option (List Nat × List Char)
  | first :: rest => do
    let digit ← value? first
    match takeDigits value? rest with
    | (digits, true, left) => some (digit :: digits, left)
    | (_, false, _) => none
  | [] => none

def valueOf (base : Nat) (digits : List Nat) : Nat :=
  digits.foldl (fun value digit => value * base + digit) 0

def readSign : List Char → Bool × List Char
  | '+' :: rest => (false, rest)
  | '-' :: rest => (true, rest)
  | rest => (false, rest)

def readDecimal : List Char → Option (List Nat × List Char)
  -- A leading zero stands alone; what comes behind it is for others to refuse.
  | '0' :: rest => some ([0], rest)
  | rest => readDigits Json.digit? rest

def checked (value : Int) : Option Toml :=
  if -(Nat.pow 2 63 : Int) ≤ value ∧ value < (Nat.pow 2 63 : Int) then some (.integer value) else none

def readBased (base : Nat) (characters : List Char) : Option (Toml × List Char) := do
  let digit? (character : Char) : Option Nat :=
    (Json.hexValue? character).filter fun value => value < base
  let (digits, rest) ← readDigits digit? characters
  return (← checked (valueOf base digits : Nat), rest)

def readInteger (characters : List Char) : Option (Toml × List Char) :=
  match characters with
  | '0' :: 'x' :: rest => readBased 16 rest
  | '0' :: 'o' :: rest => readBased 8 rest
  | '0' :: 'b' :: rest => readBased 2 rest
  | characters => do
    let (negative, rest) := readSign characters
    let (digits, rest) ← readDecimal rest
    let magnitude : Int := (valueOf 10 digits : Nat)
    return (← checked (if negative then -magnitude else magnitude), rest)

def greatestPower : Int := 400

/-- The number of digits and a power of ten. One that is too large is refused unless it is
negative. -/
def realOf (negative : Bool) (digits : List Nat) (power : Int) : Option Toml :=
  let significand := valueOf 10 digits
  let size : Int := (toString significand).length + power
  -- Far outside the range the power is not computed at all.
  let value : Binary64 :=
    if significand = 0 ∨ size < -greatestPower then Binary64.ofNat 0
    else if greatestPower < size then .infinite false
    else .ofDecimal false significand power
  match value, negative with
  | .infinite _, false => none
  | value, false => some (.real value)
  | value, true => some (.real value.negate)

def readExponent : List Char → Option (Int × List Char)
  | 'e' :: rest | 'E' :: rest => do
    let (negative, rest) := readSign rest
    let (digits, rest) ← readDigits Json.digit? rest
    let magnitude : Int := (valueOf 10 digits : Nat)
    return (if negative then -magnitude else magnitude, rest)
  | rest => some (0, rest)

def readReal (characters : List Char) : Option (Option (Toml × List Char)) :=
  let (negative, rest) := readSign characters
  match readDecimal rest with
  | none => none
  | some (whole, rest) =>
    match rest with
    | '.' :: rest => some do
      let (fraction, rest) ← readDigits Json.digit? rest
      let (power, rest) ← readExponent rest
      return (← realOf negative (whole ++ fraction) (power - fraction.length), rest)
    | 'e' :: _ | 'E' :: _ => some do
      let (power, rest) ← readExponent rest
      return (← realOf negative whole power, rest)
    | _ => none

def readWordReal (characters : List Char) : Option (Toml × List Char) :=
  match readSign characters with
  | (negative, 'i' :: 'n' :: 'f' :: rest) => some (.real (.infinite negative), rest)
  | (_, 'n' :: 'a' :: 'n' :: rest) => some (.real .notANumber, rest)
  | _ => none

def readFixed (count : Nat) (characters : List Char) : Option (Nat × List Char) :=
  let digits := (characters.take count).filterMap Json.digit?
  if digits.length = count then some (valueOf 10 digits, characters.drop count) else none

def daysOf (year month : Nat) : Nat :=
  if month = 2 then
    if year % 4 = 0 ∧ (year % 100 ≠ 0 ∨ year % 400 = 0) then 29 else 28
  else if [4, 6, 9, 11].contains month then 30
  else 31

/-- A date; `none` when it does not start like one, and no reading when it goes wrong later. -/
def readDate (characters : List Char) : Option (Option (Unit × List Char)) :=
  match readFixed 4 characters with
  | some (year, '-' :: rest) => some do
    let (month, rest) ← readFixed 2 rest
    if month < 1 ∨ 12 < month then none
    let '-' :: rest := rest | none
    let (day, rest) ← readFixed 2 rest
    if day < 1 ∨ daysOf year month < day then none else some ((), rest)
  | _ => none

def readTime (characters : List Char) : Option (Option (Unit × List Char)) :=
  match readFixed 2 characters with
  | some (hour, ':' :: rest) =>
    if 23 < hour then none
    else some do
      let (minute, rest) ← readFixed 2 rest
      if 59 < minute then none
      let ':' :: rest := rest | none
      let (second, rest) ← readFixed 2 rest
      -- A leap second has the number 60.
      if 60 < second then none
      match rest with
      | '.' :: digit :: rest =>
        if digit.isDigit then some ((), rest.dropWhile Char.isDigit)
        else some ((), '.' :: digit :: rest)
      | rest => some ((), rest)
  | _ => none

def readOffset : List Char → Option (Unit × List Char)
  | 'Z' :: rest | 'z' :: rest => some ((), rest)
  | '+' :: rest | '-' :: rest => do
    let (hour, rest) ← readFixed 2 rest
    let ':' :: rest := rest | none
    let (minute, rest) ← readFixed 2 rest
    if 23 < hour ∨ 59 < minute then none else some ((), rest)
  | rest => some ((), rest)

def readMoment (characters : List Char) : Option (Option (Toml × List Char)) :=
  match readDate characters with
  | some none => some none
  | some (some ((), rest)) =>
    match rest with
    | 'T' :: later | 't' :: later | ' ' :: later =>
      match readTime later with
      -- A blank behind a date need not begin a time of day.
      | none => some (some (.moment, rest))
      | some none => some none
      | some (some ((), rest)) => some do
        let ((), rest) ← readOffset rest
        return (.moment, rest)
    | _ => some (some (.moment, rest))
  | none => (readTime characters).map fun reading => reading.map fun ((), rest) => (.moment, rest)

def readNumeric (characters : List Char) : Option (Toml × List Char) :=
  -- Each reader decides from the beginning whether the text is its own, and then no other is asked.
  match readMoment characters with
  | some reading => reading
  | none =>
    match readReal characters with
    | some reading => reading
    | none => (readWordReal characters).orElse fun _ => readInteger characters

end ScenarioBench.Toml

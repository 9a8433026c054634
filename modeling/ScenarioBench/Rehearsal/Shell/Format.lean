import ScenarioBench.Rehearsal.Precision
import ScenarioBench.Rehearsal.Shell.Arithmetic

/-! Escapes and formats, as shell scripts print them. -/

set_option autoImplicit false

namespace ScenarioBench.Rehearsal.Shell.Format

def controls : List (Char × Char) :=
  [('a', '\x07'), ('b', '\x08'), ('e', '\x1b'), ('f', '\x0c'), ('n', '\n'), ('r', '\r'), ('t', '\t'),
   ('v', '\x0b'), ('\\', '\\')]

def isOctal (character : Char) : Bool :=
  '0' ≤ character && character ≤ '7'

def octet (digits : List Char) : Char :=
  Char.ofNat (Arithmetic.valueOf 8 digits % 256)

def octalDigits (characters : List Char) : List Char :=
  (characters.take 3).takeWhile isOctal

/-- The characters that escapes stand for, within a number of steps, and whether an escape ended the
output. In a text, unlike in a format, a zero may come before three octal digits. -/
def unescape (inText : Bool) : Nat → List Char → List Char × Bool
  | 0, _ => ([], false)
  | _ + 1, [] => ([], false)
  | fuel + 1, '\\' :: rest =>
    let before (character : Char) (after : List Char) : List Char × Bool :=
      let (others, ended) := unescape inText fuel after
      (character :: others, ended)
    match rest with
    | 'c' :: after => if inText then ([], true) else before '\\' ('c' :: after)
    | head :: after =>
      if inText && head = '0' then
        before (octet (octalDigits after)) (after.drop (octalDigits after).length)
      else if isOctal head then
        before (octet (octalDigits rest)) (rest.drop (octalDigits rest).length)
      else match controls.lookup head with
        | some character => before character after
        | none => before '\\' rest
    | [] => (['\\'], false)
  | fuel + 1, head :: rest =>
    let (others, ended) := unescape inText fuel rest
    (head :: others, ended)

def escaped (text : String) : String × Bool :=
  let (characters, ended) := unescape true (text.length + 1) text.toList
  (String.ofList characters, ended)

inductive Measure where
  | absent
  | given (measure : Nat)
  | asked
  deriving DecidableEq

structure Directive where
  flags : List Char
  width : Measure
  precision : Measure
  letter : Char
  written : String

inductive Part where
  | text (text : String)
  | directive (directive : Directive)
  | broken

def splitMeasure (characters : List Char) : Measure × List Char :=
  match characters with
  | '*' :: rest => (.asked, rest)
  | _ =>
    let (digits, rest) := characters.span Char.isDigit
    (if digits.isEmpty then .absent else .given (Arithmetic.valueOf 10 digits), rest)

def directive? (characters : List Char) : Option (Directive × List Char) :=
  let isFlag (character : Char) : Bool := ['-', '0', '+', ' ', '#'].contains character
  let (flags, afterFlags) := characters.span isFlag
  let (width, afterWidth) := splitMeasure afterFlags
  let (precision, rest) := match afterWidth with
    | '.' :: rest =>
      let (precision, rest) := splitMeasure rest
      (if precision = .absent then .given 0 else precision, rest)
    | rest => (.absent, rest)
  match rest with
  | letter :: after =>
    let written := '%' :: characters.take (characters.length - after.length)
    some (⟨flags, width, precision, letter, String.ofList written⟩, after)
  | [] => none

def parts : Nat → List Char → List Part
  | 0, _ => []
  | _ + 1, [] => []
  | fuel + 1, '%' :: '%' :: rest => .text "%" :: parts fuel rest
  | fuel + 1, '%' :: rest =>
    match directive? rest with
    | some (directive, after) => .directive directive :: parts fuel after
    | none => [.broken]
  | fuel + 1, characters =>
    let plain := characters.takeWhile (· ≠ '%')
    let shown := String.ofList (unescape false (plain.length + 1) plain).1
    .text shown :: parts fuel (characters.dropWhile (· ≠ '%'))

structure Layout where
  flags : List Char
  width : Nat
  precision : Option Nat
  letter : Char

namespace Layout

def hasFlag (layout : Layout) (flag : Char) : Bool :=
  layout.flags.contains flag

def padded (layout : Layout) (text : String) : String :=
  let missing := String.ofList (List.replicate (layout.width - text.length) ' ')
  if layout.hasFlag '-' then text ++ missing else missing ++ text

def sign (layout : Layout) (negative : Bool) : String :=
  if negative then "-" else if layout.hasFlag '+' then "+" else if layout.hasFlag ' ' then " " else ""

def filled (layout : Layout) (mayFill : Bool) (sign text : String) : String :=
  let missing :=
    if mayFill && layout.hasFlag '0' && !layout.hasFlag '-' then
      layout.width - sign.length - text.length
    else 0
  layout.padded (sign ++ Decimal.zeros missing ++ text)

def digits (layout : Layout) (base magnitude : Nat) : String :=
  let plain := if magnitude = 0 && layout.precision = some 0 then []
    else Nat.toDigits base magnitude
  Decimal.zeros (layout.precision.getD 0 - plain.length) ++ String.ofList plain

def integer (layout : Layout) (value : Int) : String :=
  let mayFill := layout.precision.isNone
  match layout.letter with
  | 'd' | 'i' =>
    layout.filled mayFill (layout.sign (decide (value < 0))) (layout.digits 10 value.natAbs)
  | letter =>
    let magnitude := Arithmetic.bits value
    match letter with
    | 'x' =>
      let mark := if layout.hasFlag '#' && magnitude ≠ 0 then "0x" else ""
      layout.filled mayFill mark (layout.digits 16 magnitude)
    | 'X' =>
      let mark := if layout.hasFlag '#' && magnitude ≠ 0 then "0X" else ""
      layout.filled mayFill mark (layout.digits 16 magnitude).toUpper
    | 'o' =>
      let digits := layout.digits 8 magnitude
      let marked := if layout.hasFlag '#' && !digits.startsWith "0" then "0" ++ digits else digits
      layout.filled mayFill "" marked
    | _ => layout.filled mayFill "" (layout.digits 10 magnitude)

def floating (layout : Layout) (value : Binary64) : String :=
  let precision := layout.precision.getD 6
  let lower := layout.letter.toLower
  let style : Precision.Style := match lower with
    | 'f' => .fixed
    | 'e' => .scientific
    | _ => .general (layout.hasFlag '#')
  let shown (text : String) : String := if layout.letter.isUpper then text.toUpper else text
  match value with
  | .finite negative mantissa exponent =>
    layout.filled true (layout.sign negative)
      (shown (Precision.magnitudeText style precision mantissa exponent))
  | .infinite negative => layout.filled false (layout.sign negative) (shown "inf")
  | .notANumber => layout.filled false (layout.sign false) (shown "nan")

def text (layout : Layout) (text : String) : String :=
  layout.padded (match layout.precision with
    | some precision => String.ofList (text.toList.take precision)
    | none => text)

end Layout

structure Printed where
  text : String
  left : List String
  hasEnded : Bool
  complaints : List String
  fault : Option String

namespace Printed

def complaint? (argument : String) (isWhole isNothing isTooLarge : Bool) : Option String :=
  if !isWhole then
    some (argument ++ if isNothing then ": expected numeric value" else ": not completely converted")
  else if isTooLarge then some (argument ++ ": Numerical result out of range")
  else none

/-- Take an argument as a number, given how the number at the start of a text is read: the number,
what is left, and whether it was too large. -/
def takeNumber {α : Type} (printed : Printed) (ofNat : Nat → α)
    (split : List Char → α × List Char × Bool) : α × Printed :=
  match printed.left with
  | [] => (ofNat 0, printed)
  | argument :: left =>
    let next := { printed with left := left }
    match argument.toList with
    | '\x22' :: rest | '\x27' :: rest => (ofNat ((rest.headD '\x00').toNat), next)
    | letters =>
      let (value, rest, isTooLarge) := split letters
      let complaint := complaint? argument rest.isEmpty (rest.length = letters.length) isTooLarge
      (value, { next with complaints := next.complaints ++ complaint.toList })

def splitInteger (signed : Bool) (text : List Char) : Int × List Char × Bool :=
  let isBlank (character : Char) : Bool :=
    character = ' ' || ('\t' ≤ character && character ≤ '\r')
  let front := text.dropWhile isBlank
  let (negative, digits) := match front with
    | '-' :: rest => (true, rest)
    | '+' :: rest => (false, rest)
    | rest => (false, rest)
  if !(digits.head?.any Char.isDigit) then (0, text, false)
  else
    let (magnitude, rest) := Arithmetic.splitNumber digits
    if signed then
      let limit := if negative then Arithmetic.largest + 1 else Arithmetic.largest
      let bounded : Nat := min magnitude limit
      (if negative then -(bounded : Int) else bounded, rest, decide (limit < magnitude))
    else
      let limit := 2 * Arithmetic.largest + 1
      if limit < magnitude then (limit, rest, true)
      else (if negative then -(magnitude : Int) else magnitude, rest, false)

def takeInteger (printed : Printed) (signed : Bool) : Int × Printed :=
  printed.takeNumber (fun (number : Nat) => (number : Int)) (splitInteger signed)

def takeFloating (printed : Printed) : Binary64 × Printed :=
  printed.takeNumber Binary64.ofNat fun letters =>
    let (value, rest) := Precision.split letters
    let isTooLarge := match value with
      | .infinite _ => !(letters.any fun letter => letter = 'n' || letter = 'N')
      | _ => false
    (value, rest, isTooLarge)

def layout (printed : Printed) (directive : Directive) : Layout × Printed :=
  let (flags, width, printed) : List Char × Nat × Printed := match directive.width with
    | .absent => (directive.flags, 0, printed)
    | .given width => (directive.flags, width, printed)
    | .asked =>
      let (width, printed) := printed.takeInteger true
      (if width < 0 then '-' :: directive.flags else directive.flags, width.natAbs, printed)
  let (precision, printed) : Option Nat × Printed := match directive.precision with
    | .absent => (none, printed)
    | .given precision => (some precision, printed)
    | .asked =>
      let (precision, printed) := printed.takeInteger true
      (if precision < 0 then none else some precision.natAbs, printed)
  (⟨flags, width, precision, directive.letter⟩, printed)

def add (printed : Printed) (text : String) : Printed :=
  { printed with text := printed.text ++ text }

def part (printed : Printed) (part : Part) : Printed :=
  if printed.hasEnded then printed
  else match part with
    | .text text => printed.add text
    | .broken => { printed with hasEnded := true, fault := some "missing format character" }
    | .directive directive =>
      let (layout, printed) := printed.layout directive
      let argument := printed.left.headD ""
      let next := { printed with left := printed.left.tail }
      let letter := layout.letter
      if letter = 's' then next.add (layout.text argument)
      else if letter = 'b' then
        let (text, hasEnded) := escaped argument
        { next.add (layout.text text) with hasEnded := hasEnded }
      else if letter = 'c' then
        next.add (layout.padded (String.singleton (argument.toList.headD '\x00')))
      else if ['d', 'i', 'o', 'u', 'x', 'X'].contains letter then
        let (value, printed) := printed.takeInteger (letter = 'd' || letter = 'i')
        printed.add (layout.integer value)
      else if ['e', 'E', 'f', 'F', 'g', 'G'].contains letter then
        let (value, printed) := printed.takeFloating
        printed.add (layout.floating value)
      else
        { printed with
          hasEnded := true, fault := some (directive.written ++ ": invalid directive") }

/-- Print a format again and again while it takes arguments and some are left, at most a number of
times. -/
def rounds : Nat → List Part → Printed → Printed
  | 0, _, printed => printed
  | fuel + 1, parts, printed =>
    let next := parts.foldl part printed
    if next.hasEnded || next.left.isEmpty || next.left.length = printed.left.length then next
    else rounds fuel parts next

end Printed

def print (format : String) (arguments : List String) : Printed :=
  Printed.rounds (arguments.length + 1) (parts (format.length + 1) format.toList)
    ⟨"", arguments, false, [], none⟩

end ScenarioBench.Rehearsal.Shell.Format

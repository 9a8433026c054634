import ScenarioBench.Rehearsal.Shell.Arithmetic
import ScenarioBench.Rehearsal.Shell.Machine
import ScenarioBench.Rehearsal.Shell.Pattern
import ScenarioBench.Rehearsal.Shell.Reader

/-! What words stand for.

The pieces of a word become characters that remember where they come from. Characters of unquoted
expansions are split into fields at the separators, and fields with open patterns become the paths
that fit.
-/

set_option autoImplicit false

namespace ScenarioBench.Rehearsal.Shell

inductive Mark where
  | written (character : Char)
  | quoted (character : Char)
  | loose (character : Char)
  | seam
  | gap
  | border
  | presence
  deriving DecidableEq

namespace Mark

def marked? : Mark → Option (Char × Bool)
  | written character => some (character, false)
  | quoted character => some (character, true)
  | loose character => some (character, false)
  | gap | border => some (' ', true)
  | seam | presence => none

def ofText (isQuoted : Bool) (text : String) : List Mark :=
  if isQuoted then text.toList.map quoted else seam :: text.toList.map loose

end Mark

abbrev Printing := Statement → Doing String

inductive Purpose where
  | fields
  | text
  | value
  deriving DecidableEq

namespace Expansion

def separators (machine : Machine) : List Char :=
  ((machine.value? "IFS").getD " \t\n").toList

def joint (machine : Machine) : String :=
  match (machine.value? "IFS").map String.toList with
  | none => " "
  | some [] => ""
  | some (first :: _) => String.singleton first

def optionLetters : List Char :=
  ['p', 'u', 'b', 'a', 'C', 'E', 'V', 'v', 'x', 's', 'n', 'm', 'i', 'I', 'f', 'e']

def parameter? (machine : Machine) (name : String) : Option String :=
  match name with
  | "#" => some (toString machine.arguments.length)
  | "?" => some (toString machine.status)
  | "$" => some (toString machine.shell)
  | "-" => some (String.ofList (optionLetters.filter machine.hasOption))
  | "!" => machine.lastJob.map fun (number : Nat) => toString number
  | "@" | "*" => some ((joint machine).intercalate machine.arguments)
  | _ =>
    match name.toNat? with
    | some 0 => some machine.name
    | some place => machine.arguments[place - 1]?
    | none => machine.value? name

def isMissing (whenEmpty : Bool) (value : Option String) : Bool :=
  match value with
  | none => true
  | some text => whenEmpty && text.isEmpty

def textOf (marks : List Mark) : String :=
  String.ofList (marks.filterMap fun mark => mark.marked?.map (·.1))

def argumentMarks (isQuoted : Bool) (arguments : List String) : List Mark :=
  if isQuoted then
    ((arguments.map fun argument => Mark.presence :: argument.toList.map Mark.quoted).intersperse
      [.border]).flatten
  else
    .seam :: ((arguments.map fun argument => argument.toList.map Mark.loose).intersperse
      [.gap]).flatten

def printedText (printed : String) : String :=
  let characters := printed.toList.filter (· ≠ '\x00')
  String.ofList (characters.reverse.dropWhile (· = '\n')).reverse

def assignAll (assigned : List (String × String)) : Doing Unit :=
  assigned.reverse.forM fun (name, value) => Doing.assign name value

def calculate (expression : String) : Doing String := do
  let machine ← Doing.machine
  match Arithmetic.evaluate machine.value? [] (Arithmetic.read expression) with
  | .ok (value, assigned) => do
    assignAll assigned
    return toString value
  | .error fault => Doing.fail (fault.message expression)

def home? (machine : Machine) (name : String) : Option String :=
  if name.isEmpty then machine.value? "HOME" else if name = "root" then some "/root" else none

def tilde (machine : Machine) (isValue isLast : Bool) (literal : Char → Mark) (text : List Char) :
    List Mark × List Char :=
  match text with
  | '~' :: rest =>
    let (name, after) := rest.span fun letter => letter ≠ '/' && !(isValue && letter = ':')
    -- An expansion right behind the name would still belong to it.
    if after.isEmpty && !isLast then ([literal '~'], rest)
    else match home? machine (String.ofList name) with
      | some home => (home.toList.map .quoted, after)
      | none => ([literal '~'], rest)
  | _ => ([], text)

def literalMarks (machine : Machine) (isValue isLast : Bool) (literal : Char → Mark) :
    Nat → (mayStart : Bool) → List Char → List Mark
  | 0, _, text => text.map literal
  | fuel + 1, mayStart, text =>
    let (first, rest) := if mayStart then tilde machine isValue isLast literal text else ([], text)
    match rest with
    | [] => first
    | head :: rest =>
      first ++ literal head :: literalMarks machine isValue isLast literal fuel
        (isValue && head = ':') rest

def patternOf (marks : List Mark) : Pattern :=
  Pattern.ofMarked (marks.filterMap Mark.marked?)

/-- How a piece of a word becomes marks: whether it is the first and the last of its word, whether
the word is an operand, and whether everything in it counts as quoted. -/
structure Setup where
  purpose : Purpose
  isFirst : Bool
  isLast : Bool
  isOperand : Bool
  isQuoted : Bool

abbrev InnerMarks := (isOperand isQuoted : Bool) → Word → Doing (List Mark)

def parameterMarks (inner : InnerMarks) (purpose : Purpose) (isQuoted : Bool) (name : String)
    (treatment : Treatment) (operand : Word) : Doing (List Mark) := do
  let machine ← Doing.machine
  let value := parameter? machine name
  let plain (text : String) : List Mark := Mark.ofText isQuoted text
  let own (value : Option String) : List Mark :=
    if name = "@" || (name = "*" && !isQuoted) then
      if purpose = .fields then argumentMarks isQuoted machine.arguments
      else plain (value.getD "")
    else plain (value.getD "")
  let required : Doing String :=
    if machine.hasOption 'u' && value.isNone then Doing.fail (name ++ ": parameter not set")
    else return value.getD ""
  match treatment with
  | .meaningless => Doing.fail "Bad substitution"
  | .value =>
    let _ ← required
    return own value
  | .length =>
    let text ← required
    return plain (toString text.length)
  | .orElse whenEmpty =>
    if isMissing whenEmpty value then inner true isQuoted operand else return own value
  | .instead whenEmpty =>
    if isMissing whenEmpty value then return [] else inner true isQuoted operand
  | .orAssign whenEmpty =>
    if isMissing whenEmpty value then
      let text := textOf (← inner false isQuoted operand)
      if !Naming.isName name then Doing.fail (name ++ ": bad variable name")
      Doing.assign name text
      return plain text
    else return own value
  | .orComplain whenEmpty =>
    if isMissing whenEmpty value then
      let text := textOf (← inner false isQuoted operand)
      let usual := if whenEmpty then "parameter not set or null" else "parameter not set"
      Doing.fail (name ++ ": " ++ if operand.isEmpty then usual else text)
    else return own value
  | .cutStart longest =>
    let text ← required
    let pattern := patternOf (← inner false false operand)
    return plain (String.ofList (pattern.cutStart longest text.toList))
  | .cutEnd longest =>
    let text ← required
    let pattern := patternOf (← inner false false operand)
    return plain (String.ofList (pattern.cutEnd longest text.toList))

def pieceMarks (printing : Printing) (inner : InnerMarks) (setup : Setup) (piece : Piece) :
    Doing (List Mark) := do
  match piece with
  | .text true text => return .presence :: text.toList.map .quoted
  | .text false text =>
    if setup.isQuoted then return text.toList.map .quoted
    let literal := if setup.isOperand then Mark.loose else Mark.written
    let start := if setup.isOperand then [Mark.seam] else []
    let marks := literalMarks (← Doing.machine) (setup.purpose = .value) setup.isLast literal
      (text.length + 1) setup.isFirst text.toList
    return start ++ marks
  | .printed isQuoted script =>
    let text := printedText (← printing script)
    return Mark.ofText (isQuoted || setup.isQuoted) text
  | .number isQuoted expression =>
    let value ← calculate (textOf (← inner false true expression))
    return Mark.ofText (isQuoted || setup.isQuoted) value
  | .parameter isQuoted name treatment operand =>
    parameterMarks inner setup.purpose (isQuoted || setup.isQuoted) name treatment operand

def marks (printing : Printing) (purpose : Purpose) : Nat → InnerMarks
  | 0, _, _, _ => throw .exhausted
  | depth + 1, isOperand, isQuoted, word => do
    let last := word.length - 1
    let all ← word.zipIdx.mapM fun (piece, place) =>
      pieceMarks printing (marks printing purpose depth)
        ⟨purpose, place = 0, place = last, isOperand, isQuoted⟩ piece
    return all.flatten

structure Gathering where
  fields : List (List (Char × Bool))
  current : Option (List (Char × Bool))
  skips : Bool
  afterBlank : Bool

namespace Gathering

def close (gathering : Gathering) : Gathering :=
  { gathering with
    fields := (gathering.current.getD []).reverse :: gathering.fields, current := none }

def add (gathering : Gathering) (character : Option (Char × Bool)) : Gathering :=
  { gathering with
    current := some (character.toList ++ gathering.current.getD []), skips := false }

def separate (gathering : Gathering) (isBlank : Bool) : Gathering :=
  -- Blanks around another separator belong to it, so together they close one field only.
  if gathering.skips && isBlank then gathering
  else if gathering.skips && gathering.afterBlank then { gathering with afterBlank := false }
  else if gathering.current.isNone && isBlank then
    { gathering with skips := false, afterBlank := false }
  else { gathering.close with skips := true, afterBlank := isBlank }

def take (separators : List Char) (gathering : Gathering) (mark : Mark) : Gathering :=
  match mark with
  | .presence => gathering.add none
  | .border => { gathering.close with skips := false, current := some [] }
  | .written character => gathering.add (some (character, false))
  | .quoted character => gathering.add (some (character, true))
  | .seam => { gathering with skips := false, afterBlank := false }
  | .gap => gathering.separate true
  | .loose character =>
    if separators.contains character then gathering.separate ([' ', '\t', '\n'].contains character)
    else gathering.add (some (character, false))

end Gathering

def split (separators : List Char) (marks : List Mark) : List (List (Char × Bool)) :=
  let gathering := marks.foldl (Gathering.take separators) ⟨[], none, false, false⟩
  (if gathering.current.isSome then gathering.close else gathering).fields.reverse

def components : List (Char × Bool) → List (List (Char × Bool))
  | [] => [[]]
  | (head, quoted) :: rest =>
    if head = '/' then [] :: components rest
    else match components rest with
      | [] => [[(head, quoted)]]
      | first :: others => ((head, quoted) :: first) :: others

/-- The names in a directory that fit a pattern, in order. A dot at the start is not fitted by a
symbol that stands for other characters too. -/
def fitting (tree : FileTree) (directory : String) (pattern : Pattern) : List String :=
  let path : Path := if directory.isEmpty then ⟨Path.dot⟩ else Doing.path directory
  let isHidden := pattern.head? = some (.exactly '.')
  let names : List String := match tree.list path with
    | .ok (_, children) =>
      (if isHidden then [".", ".."] else []) ++
        children.map fun entry => Octetwise.ofOctets entry.1
    | .error _ => []
  let shows (name : String) : Bool := !(name.startsWith ".") || isHidden
  (names.filter fun name => shows name && pattern.fits name.toList).mergeSort
    fun first second => decide (first ≤ second)

def paths (tree : FileTree) : String → List (List (Char × Bool)) → List String
  | directory, [] =>
    -- A link that leads nowhere is there too, hence the walk that does not follow it.
    let path := Doing.path directory
    let found := FileTree.walk tree (path.endsWithSlash) FileTree.maximumLinks (tree.start path)
      (FileTree.steps path)
    match found with
    | .ok (.taken ..) => [directory]
    | _ => []
  | directory, part :: rest =>
    let pattern := Pattern.ofMarked part
    let names := if pattern.isOpen then fitting tree directory pattern
      else [String.ofList (part.map (·.1))]
    let next (name : String) : String := directory ++ name ++ if rest.isEmpty then "" else "/"
    names.flatMap fun name => paths tree (next name) rest

/-- The paths that a field stands for; a field that no path fits stands for itself. -/
def pathsOf (tree : FileTree) (field : List (Char × Bool)) : List String :=
  let text := String.ofList (field.map (·.1))
  if (components field).any fun part => (Pattern.ofMarked part).isOpen then
    match paths tree "" (components field) with
    | [] => [text]
    | found => found
  else [text]

def depth : Nat := 1000

def fields (printing : Printing) (word : Word) : Doing (List String) := do
  let marks ← marks printing .fields depth false false word
  let machine ← Doing.machine
  let fields := split (separators machine) marks
  if machine.hasOption 'f' then return fields.map fun field => String.ofList (field.map (·.1))
  return fields.flatMap (pathsOf machine.tree)

def text (printing : Printing) (word : Word) : Doing String :=
  textOf <$> marks printing .text depth false false word

def value (printing : Printing) (word : Word) : Doing String :=
  textOf <$> marks printing .value depth false false word

def pattern (printing : Printing) (word : Word) : Doing Pattern :=
  patternOf <$> marks printing .text depth false false word

end Expansion

end ScenarioBench.Rehearsal.Shell

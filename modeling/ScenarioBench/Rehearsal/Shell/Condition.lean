import ScenarioBench.Files.Tree
import ScenarioBench.Rehearsal.Octetwise

/-! Conditions on texts, numbers and files.

A condition is a list of texts, of which each is an operator or an operand depending on what stands
around it. It is decided from left to right; the current text is the head of a list.
-/

set_option autoImplicit false

namespace ScenarioBench.Rehearsal.Shell.Condition

inductive Fault where
  | illegalNumber (text : String)
  | missingBracket
  | argumentExpected (operator : String)
  | closingExpected
  | unexpected (text : String)
  deriving DecidableEq

namespace Fault

def message : Fault → String
  | illegalNumber text => "Illegal number: " ++ text
  | missingBracket => "missing ]"
  | argumentExpected operator => operator ++ ": argument expected"
  | closingExpected => "closing paren expected"
  | unexpected text => (if text.isEmpty then "" else text ++ ": ") ++ "unexpected operator"

end Fault

def number (text : String) : Except Fault Int :=
  let isBlank (character : Char) : Bool :=
    character = ' ' || ('\t' ≤ character && character ≤ '\r')
  let front := text.toList.dropWhile isBlank
  let trimmed := (front.reverse.dropWhile isBlank).reverse
  let (negative, digits) := match trimmed with
    | '-' :: digits => (true, digits)
    | '+' :: digits => (false, digits)
    | digits => (false, digits)
  let value : Int := ((String.ofList digits).toNat?.getD 0 : Nat)
  let signed := if negative then -value else value
  if !digits.isEmpty && digits.all Char.isDigit && signed.bmod (Nat.pow 2 64) = signed then .ok signed
  else .error (.illegalNumber text)

def unfollowed? (tree : FileTree) (path : Path) : Option (Location × Node) :=
  match FileTree.walk tree false FileTree.maximumLinks (tree.start path) (FileTree.steps path) with
  | .ok (.taken location node) => if path.octets.isEmpty then none else some (location, node)
  | _ => none

def isLink (tree : FileTree) (path : Path) : Bool :=
  match unfollowed? tree path with
  | some (_, .link _) => true
  | _ => false

def nowhere : String := "/dev/null"

def unary? (tree : FileTree) (operator operand : String) : Option Bool :=
  let path : Path := ⟨Octetwise.toOctets operand⟩
  let isNowhere := operand = nowhere
  match operator with
  | "-n" => some (operand ≠ "")
  | "-z" => some (operand = "")
  | "-e" | "-r" | "-w" | "-O" | "-G" => some (isNowhere || tree.pathExists path)
  | "-f" => some (!isNowhere && tree.isFile path)
  | "-d" => some (tree.isDirectory path)
  | "-c" => some isNowhere
  | "-s" => some (match tree.nodeAt path with
    | .ok (_, .file content _) => !content.isEmpty
    | .ok (_, .directory) => true
    | _ => false)
  | "-x" => some (match tree.nodeAt path with
    | .ok (_, .file _ executable) => executable
    | .ok (_, .directory) => true
    | _ => false)
  | "-h" | "-L" => some (isLink tree path)
  | "-b" | "-p" | "-u" | "-g" | "-k" | "-t" | "-S" => some false
  | _ => none

def comparison? : String → Option (Int → Int → Bool)
  | "-eq" => some fun first second => first = second
  | "-ne" => some fun first second => first ≠ second
  | "-lt" => some fun first second => first < second
  | "-le" => some fun first second => first ≤ second
  | "-gt" => some fun first second => first > second
  | "-ge" => some fun first second => first ≥ second
  | _ => none

def binary? (tree : FileTree) (first operator second : String) : Option (Except Fault Bool) :=
  let location (text : String) : Option Location :=
    ((tree.nodeAt ⟨Octetwise.toOctets text⟩).toOption).map (·.1)
  match operator with
  | "=" => some (.ok (first = second))
  | "!=" => some (.ok (first ≠ second))
  | "<" => some (.ok (first < second))
  | ">" => some (.ok (second < first))
  -- Files have no times, so none is newer than another.
  | "-nt" | "-ot" => some (.ok false)
  | "-ef" => some (.ok ((location first).isSome && location first = location second))
  | _ => (comparison? operator).map fun compare => do
    return compare (← number first) (← number second)

inductive Kind where
  | unary
  | binary
  | negation
  | conjunction
  | disjunction
  | opening
  | closing
  deriving DecidableEq

def kind? (text : String) : Option Kind :=
  match text with
  | "!" => some .negation
  | "-a" => some .conjunction
  | "-o" => some .disjunction
  | "(" => some .opening
  | ")" => some .closing
  | _ =>
    if (unary? .empty text "").isSome then some .unary
    else if (binary? .empty "" text "").isSome then some .binary
    else none

inductive Role where
  | nothing
  | operand
  | operator (kind : Kind)
  deriving DecidableEq

def isOperand : List String → Bool
  | _ :: next :: _ :: _ => kind? next = some .binary
  | [_, _] => false
  | _ => true

def role : List String → Role
  | [] => .nothing
  | text :: rest =>
    match kind? text with
    | some .unary => if isOperand (text :: rest) then .operand else .operator .unary
    | some .opening => if rest.isEmpty then .operand else .operator .opening
    | some kind => .operator kind
    | none => .operand

abbrev Deciding := StateT (List String) (Except Fault)

namespace Deciding

def texts : Deciding (List String) :=
  get

def advance (count : Nat) : Deciding Unit :=
  modify fun texts => texts.drop count

end Deciding

def simple (tree : FileTree) (role : Role) : Deciding Bool := do
  match role, ← Deciding.texts with
  | .operator .unary, operator :: operand :: rest =>
    set (operand :: rest)
    return (unary? tree operator operand).getD false
  | .operator .unary, operator :: [] => throw (.argumentExpected operator)
  | _, first :: operator :: second :: rest =>
    match binary? tree first operator second with
    | some answer =>
      set (second :: rest)
      match answer with
      | .ok answer => return answer
      | .error fault => throw fault
    | none => return first ≠ ""
  | _, [first, operator] =>
    if kind? operator = some Kind.binary then throw (.argumentExpected operator)
    else return first ≠ ""
  | _, texts => return (texts.headD "") ≠ ""

def anyOf (all : Role → Deciding Bool) : Nat → Role → Deciding Bool
  | 0, _ => return false
  | fuel + 1, first => do
    let answer ← all first
    if role ((← Deciding.texts).drop 1) = .operator .disjunction then
      Deciding.advance 2
      let others ← anyOf all fuel (role (← Deciding.texts))
      return answer || others
    return answer

def allOf (one : Role → Deciding Bool) : Nat → Role → Deciding Bool
  | 0, _ => return false
  | fuel + 1, first => do
    let answer ← one first
    if role ((← Deciding.texts).drop 1) = .operator .conjunction then
      Deciding.advance 2
      let others ← allOf one fuel (role (← Deciding.texts))
      return answer && others
    return answer

def one (tree : FileTree) : Nat → Role → Deciding Bool
  | 0, _ => return false
  | fuel + 1, first => do
    match first with
    | .nothing => return false
    | .operator .negation =>
      let next := role ((← Deciding.texts).drop 1)
      if next ≠ .nothing then Deciding.advance 1
      let answer ← one tree fuel next
      return !answer
    | .operator .opening =>
      Deciding.advance 1
      let next := role (← Deciding.texts)
      if next = .operator .closing then return false
      let answer ← anyOf (allOf (one tree fuel) fuel) fuel next
      Deciding.advance 1
      if role (← Deciding.texts) ≠ .operator .closing then throw .closingExpected
      return answer
    | _ => simple tree first

def whole (tree : FileTree) (first : Role) (texts : List String) : Except Fault Bool := do
  let fuel := 2 * texts.length + 2
  let (answer, rest) ← (anyOf (allOf (one tree fuel) fuel) fuel first).run texts
  match rest with
  | current :: _ :: _ => throw (.unexpected current)
  | _ => return answer

/-- Decide a condition. An operator between two texts comes first; after it, with three and four
texts, parentheses around all of them and a negation of the others. -/
def evaluate (tree : FileTree) : List String → Except Fault Bool
  | [] => .ok false
  | first :: rest =>
    let texts := first :: rest
    let isComparison := texts.length = 3 && (rest.head?.bind kind?) = some Kind.binary
    let isShort := texts.length = 3 || texts.length = 4
    if isComparison then whole tree .operand texts
    else if isShort && first = "(" && texts.getLast? = some ")" then
      whole tree (role rest.dropLast) rest.dropLast
    else if isShort && first = "!" then (evaluate tree rest).map fun answer => !answer
    else whole tree (role texts) texts

end ScenarioBench.Rehearsal.Shell.Condition

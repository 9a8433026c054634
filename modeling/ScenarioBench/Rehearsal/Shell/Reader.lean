import ScenarioBench.Rehearsal.Shell.WordReader

/-! Reading statements.

A script is read one complete command after the other, so that what a command changes counts for the
ones after it. The statements inside a statement are read with given readers, and the whole is a
recursion over a number of nested statements.
-/

set_option autoImplicit false

namespace ScenarioBench.Rehearsal.Shell

structure InnerReaders where
  statements : (isRequired : Bool) → Reading (Option Statement)
  command : Reading Statement
  script : StatementsReader

namespace Reader

open Reading

def readSymbol (head : Char) : Reading Token := do
  match head with
  | '&' => return .symbol (if ← takes '&' then "&&" else "&")
  | '|' => return .symbol (if ← takes '|' then "||" else "|")
  | ';' => return .symbol (if ← takes ';' then ";;" else ";")
  | other => return .symbol (String.singleton other)

def opening? (head next : Char) : Option Opening :=
  match head, next with
  | '>', '>' => some .append
  | '>', '|' => some .replace
  | '>', '&' | '<', '&' => some .duplicate
  | '<', '<' => some .document
  | '<', '>' => some .update
  | _, _ => none

def readOpening (head : Char) (descriptor : Option Nat) : Reading Unit := do
  let next ← peek
  let found := next.bind (opening? head)
  if found.isSome then
    let _ ← take
  let shortens ← if found = some .document then takes '-' else pure false
  let opening := found.getD (if head = '>' then .write else .read)
  let usual := if head = '>' then 1 else 0
  modify fun source =>
    { source with
      descriptor := descriptor.getD usual, opening := opening, shortens := shortens }

def descriptor? (word : Word) : Option Nat := do
  match (← Word.plain? word).toList with
  | [digit] => if digit.isDigit then return digit.toNat - '0'.toNat else none
  | _ => none

def skipBlanks : Reading Unit := do
  let step (_ : Unit) : Reading (Unit ⊕ Unit) := do
    match ← peek with
    | some ' ' | some '\t' =>
      let _ ← take
      return .inl ()
    | some '#' =>
      modify fun source => { source with rest := source.rest.dropWhile (· ≠ '\n') }
      return .inl ()
    | _ => return .inr ()
  loop step rounds ()

/-- Forget the aliases whose texts are read; behind one that ends with a blank, the next word may be
an alias too. -/
def leaveAliases : Reading Unit :=
  modify fun source =>
    let left := source.rest.length
    let (ended, others) := source.inUse.partition fun entry => left ≤ entry.2
    let goesOn := ended.any fun entry =>
      ((source.aliases.lookup entry.1).getD "").toList.getLast?.any fun last =>
        last = ' ' || last = '\t'
    { source with
      inUse := others, lookup := { source.lookup with aliases := source.lookup.aliases || goesOn } }

def readWritten (inner : InnerReaders) (endsDocument : Bool) : Reading Token := do
  if (← source).again then
    modify fun source => { source with again := false }
    return (← source).token
  skipBlanks
  leaveAliases
  match ← peek with
  | none => return .textEnd
  | some head =>
    if head = '\n' then
      let _ ← take
      return .lineEnd
    if ['&', '|', ';', '(', ')'].contains head then
      let _ ← take
      readSymbol head
    else if head = '<' || head = '>' then
      let _ ← take
      readOpening head none
      return .redirection
    else
      let word ← WordReader.readWord inner.script endsDocument
      match ← peek, descriptor? word with
      | some '<', some number | some '>', some number =>
        let mark ← take
        readOpening (mark.getD '<') (some number)
        return .redirection
      | _, _ =>
        modify fun source => { source with word := word }
        return .word

def readToken (inner : InnerReaders) : Reading Token := do
  let step (asked : Lookup) : Reading (Lookup ⊕ Token) := do
    let token ← readWritten inner asked.endsDocument
    modify fun source => { source with token := token }
    if asked.skipsLines && token = .lineEnd then
      WordReader.readDocuments inner.script
      return .inl asked
    let asked := asked.both (← source).lookup
    modify fun source => { source with lookup := .none }
    let source ← source
    match token, Word.plain? source.word with
    | .word, some text =>
      if asked.keywords && Naming.keywords.contains text then
        modify fun source => { source with token := .keyword text }
        return .inr (.keyword text)
      -- An alias is not replaced within its own text.
      if asked.aliases && !(source.inUse.any fun entry => entry.1 = text) then
        match source.aliases.lookup text with
        | some value =>
          modify fun source =>
            { source with
              rest := value.toList ++ source.rest
              -- Its text is read once no more is left than what stood behind it.
              inUse := (text, source.rest.length) :: source.inUse }
          return .inl asked
        | none => return .inr token
      return .inr token
    | _, _ => return .inr token
  let asked := (← source).lookup
  modify fun source => { source with lookup := .none }
  loop step rounds asked

def refuse {α : Type} (expected : Option Token) : Reading α := do
  throw (.unexpected (← source).token expected)

def readExpected (inner : InnerReaders) (expected : Token) : Reading Unit := do
  if (← readToken inner) ≠ expected then refuse (some expected)

def readTarget (inner : InnerReaders) : Reading Redirection := do
  let start ← source
  if start.opening = .document then expect { Lookup.none with endsDocument := true }
  if (← readToken inner) ≠ .word then refuse none
  let word := (← source).word
  if start.opening ≠ .document then
    return .redirection start.descriptor start.opening word
  let text (piece : Piece) : String := match piece with
    | .text _ text => text
    | _ => ""
  let mark : DocumentMark := {
    text := String.join (word.map text), expands := !word.any Word.isQuoted
    shortens := start.shortens, place := (← source).documents }
  modify fun source =>
    { source with marks := source.marks ++ [mark], documents := source.documents + 1 }
  return .redirection start.descriptor .document (((← source).known.lookup mark.place).getD [])

structure Simple where
  assignments : List (String × Word)
  words : List Word
  redirections : List Redirection

def assignment? : Word → Option (String × Word)
  | .text false text :: rest =>
    (Naming.assignment? text).map fun (name, value) =>
      (name, if value.isEmpty then rest else .text false value :: rest)
  | _ => none

def readFunction (inner : InnerReaders) (name : Word) : Reading Statement := do
  readExpected inner (.symbol ")")
  match Word.plain? name with
  | none => throw .badFunction
  | some name =>
    if !Naming.isName name || Naming.special.contains name then throw .badFunction
    expect .anyLine
    let line := (← source).line
    return .function line name (← inner.command)

def readSimple (inner : InnerReaders) : Reading Statement := do
  let line := (← source).line
  let step (simple : Simple) : Reading (Simple ⊕ Statement) := do
    let mayAssign := simple.words.isEmpty
    expect { Lookup.none with aliases := mayAssign }
    let token ← readToken inner
    let finish : Reading (Simple ⊕ Statement) := do
      putBack
      return .inr (.simple line simple.assignments simple.words simple.redirections)
    match token with
    | .word =>
      let word := (← source).word
      match if mayAssign then assignment? word else none with
      | some assignment =>
        return .inl { simple with assignments := simple.assignments ++ [assignment] }
      | none => return .inl { simple with words := simple.words ++ [word] }
    | .redirection =>
      let redirection ← readTarget inner
      return .inl { simple with redirections := simple.redirections ++ [redirection] }
    | .symbol "(" =>
      match simple with
      | ⟨[], [name], []⟩ => return .inr (← readFunction inner name)
      | _ => finish
    | _ => finish
  loop step rounds ⟨[], [], []⟩

def readBody (inner : InnerReaders) : Reading Statement := do
  let body ← inner.statements true
  return body.getD (.sequence [])

/-- The parts of a conditional behind its first word, each with its condition, and what is done
otherwise. -/
def readConditional (inner : InnerReaders) : Reading Statement := do
  let step (parts : List (Statement × Statement)) :
      Reading (List (Statement × Statement) ⊕ Statement) := do
    let condition ← readBody inner
    readExpected inner (.keyword "then")
    let body ← readBody inner
    let parts := (condition, body) :: parts
    let whole (last : Option Statement) : Statement :=
      (parts.foldl (fun otherwise (condition, body) =>
        some (.conditional condition body otherwise)) last).getD (.sequence [])
    match ← readToken inner with
    | .keyword "elif" => return .inl parts
    | .keyword "else" =>
      let last ← readBody inner
      return .inr (whole (some last))
    | _ =>
      putBack
      return .inr (whole none)
  loop step rounds []

def readWords (inner : InnerReaders) : Reading (List Word) := do
  let step (words : List Word) : Reading (List Word ⊕ List Word) := do
    match ← readToken inner with
    | .word =>
      let word := (← source).word
      return .inl (word :: words)
    | _ => return .inr words.reverse
  loop step rounds []

def readForEach (inner : InnerReaders) (line : Nat) : Reading Statement := do
  let token ← readToken inner
  let name := (Word.plain? (← source).word).getD ""
  if token ≠ .word || !Naming.isName name then throw .badVariable
  expect .anyLine
  let token ← readToken inner
  -- Without `in`, the loop is over the arguments.
  let words ← if token = .keyword "in" then do
      let words ← readWords inner
      let last := (← source).token
      if last ≠ .lineEnd && last ≠ .symbol ";" then refuse none
      pure words
    else do
      if token ≠ .symbol ";" then putBack
      pure [Word.arguments]
  expect .anyLine
  readExpected inner (.keyword "do")
  return .forEach line name words (← readBody inner)

def readPatterns (inner : InnerReaders) : Reading (List Word) := do
  let step (patterns : List Word) : Reading (List Word ⊕ List Word) := do
    let patterns := (← source).word :: patterns
    match ← readToken inner with
    | .symbol "|" =>
      let _ ← readToken inner
      return .inl patterns
    | .symbol ")" => return .inr patterns.reverse
    | _ => refuse (some (.symbol ")"))
  loop step rounds []

abbrev Branch := List Word × Option Statement

def readChoice (inner : InnerReaders) (line : Nat) : Reading Statement := do
  readExpected inner .word
  let subject := (← source).word
  expect .anyLine
  readExpected inner (.keyword "in")
  let start : Lookup := { Lookup.none with keywords := true, skipsLines := true }
  let ends : Token := .keyword "esac"
  let step (branches : List Branch) : Reading (List Branch ⊕ Statement) := do
    let whole (branches : List Branch) : Statement := .choice line subject branches.reverse
    expect start
    let token ← readToken inner
    if token = ends then return .inr (whole branches)
    if token = .symbol "(" then let _ ← readToken inner
    let patterns ← readPatterns inner
    let body ← inner.statements false
    let branches := (patterns, body) :: branches
    expect start
    let token ← readToken inner
    if token = ends then return .inr (whole branches)
    if token ≠ .symbol ";;" then refuse (some (.symbol ";;"))
    return .inl branches
  loop step rounds []

def readRedirections (inner : InnerReaders) : Reading (List Redirection) := do
  let step (redirections : List Redirection) :
      Reading (List Redirection ⊕ List Redirection) := do
    match ← readToken inner with
    | .redirection =>
      let redirection ← readTarget inner
      return .inl (redirection :: redirections)
    | _ =>
      putBack
      return .inr redirections.reverse
  expect .command
  loop step rounds []

def readCommand (inner : InnerReaders) : Reading Statement := do
  let line := (← source).line
  let token ← readToken inner
  let whole (statement : Statement) : Reading Statement := do
    match ← readRedirections inner, statement with
    | [], _ => return statement
    | redirections, .subshell line body _ => return .subshell line body redirections
    | redirections, _ => return .redirected line statement redirections
  let closed (last : Token) (statement : Statement) : Reading Statement := do
    readExpected inner last
    whole statement
  match token with
  | .keyword "if" => closed (.keyword "fi") (← readConditional inner)
  | .keyword "while" | .keyword "until" =>
    let condition ← readBody inner
    readExpected inner (.keyword "do")
    let body ← readBody inner
    closed (.keyword "done") (.loop (token = .keyword "until") condition body)
  | .keyword "for" => closed (.keyword "done") (← readForEach inner line)
  | .keyword "case" => whole (← readChoice inner line)
  | .symbol "(" => closed (.symbol ")") (.subshell line (← readBody inner) [])
  | .keyword "\x7b" => closed (.keyword "\x7d") (← readBody inner)
  | .word | .redirection =>
    putBack
    readSimple inner
  | _ => refuse none

def readPipeline (inner : InnerReaders) : Reading Statement := do
  let isNegated := (← readToken inner) = .keyword "!"
  if isNegated then expect .command else putBack
  let step (parts : List Statement) : Reading (List Statement ⊕ Statement) := do
    let part ← readCommand inner
    let parts := part :: parts
    match ← readToken inner with
    | .symbol "|" =>
      expect .anyLine
      return .inl parts
    | _ =>
      putBack
      return .inr (if parts.length = 1 then part else .piped parts.reverse)
  let whole ← loop step rounds []
  return if isNegated then .negated whole else whole

def readConnected (inner : InnerReaders) : Reading Statement := do
  let step (first : Statement) : Reading (Statement ⊕ Statement) := do
    match ← readToken inner with
    | .symbol "&&" =>
      expect .anyLine
      return .inl (.both first (← readPipeline inner))
    | .symbol "||" =>
      expect .anyLine
      return .inl (.either first (← readPipeline inner))
    | _ =>
      putBack
      return .inr first
  loop step rounds (← readPipeline inner)

def closes : Token → Bool
  | .textEnd | .symbol ")" | .symbol ";;" => true
  | .keyword keyword => Naming.closing.contains keyword
  | _ => false

def sequenceOf : List Statement → Option Statement
  | [] => none
  | [statement] => some statement
  | statements => some (.sequence statements)

def readStatements (inner : InnerReaders) (isLine isRequired : Bool) :
    Reading (Option Statement) := do
  let documents := WordReader.readDocuments inner.script
  let step (statements : List Statement) : Reading (List Statement ⊕ Option Statement) := do
    let whole := sequenceOf statements.reverse
    expect { Lookup.command with skipsLines := !isLine }
    match ← readToken inner with
    | .lineEnd =>
      documents
      return .inr whole
    | .textEnd =>
      documents
      modify fun source => { source with token := .textEnd }
      putBack
      return .inr whole
    | token =>
      putBack
      if !isLine && closes token && !(statements.isEmpty && isRequired) then return .inr whole
      let statement ← readConnected inner
      let last ← readToken inner
      let statement := if last = .symbol "&" then .background statement else statement
      let statements := statement :: statements
      match last with
      | .textEnd =>
        documents
        modify fun source => { source with token := .textEnd }
        putBack
        return .inr (sequenceOf statements.reverse)
      | .lineEnd =>
        putBack
        return .inl statements
      | .symbol "&" | .symbol ";" => return .inl statements
      | _ =>
        if isLine then refuse none
        putBack
        return .inr (sequenceOf statements.reverse)
  loop step rounds []

/-- The statements of a script inside a word; behind them there may have to be a parenthesis. -/
def readScript (inner : InnerReaders) : StatementsReader := fun isClosed => do
  let script ← readStatements inner false false
  if isClosed then readExpected inner (.symbol ")")
  return script

def readers : Nat → InnerReaders
  | 0 => ⟨fun _ => throw .tooDeep, throw .tooDeep, fun _ => throw .tooDeep⟩
  | depth + 1 => ⟨fun isRequired => readStatements (readers depth) false isRequired,
      readCommand (readers depth), readScript (readers depth)⟩

def depth : Nat := 1000

def documentDepth : Nat := 3

/-- Read the next command with documents that are known already, as often as that shows more of
them. -/
def readKnowing : Nat → List (Nat × Word) → Reading (Option Statement)
  | 0, _ => throw .tooDeep
  | rounds + 1, known => do
    let before ← source
    set { before with known := known, found := [], documents := 0 }
    let statement ← readStatements (readers depth) true false
    let after ← source
    -- Documents stand behind the line that names them, so the line is read again with their texts.
    if after.documents = 0 || rounds = 0 then return statement
    set before
    readKnowing rounds after.found

def readLine : Reading (Option Statement) :=
  readKnowing (documentDepth + 1) []

end Reader

namespace Token

def shown : Token → String
  | word => "word"
  | redirection => "redirection"
  | lineEnd => "newline"
  | textEnd => "end of file"
  | symbol text | keyword text => "\"" ++ text ++ "\""

end Token

namespace ReadFault

def message : ReadFault → String
  | unexpected token none => token.shown ++ " unexpected"
  | unexpected token (some expected) =>
    token.shown ++ " unexpected (expecting " ++ expected.shown ++ ")"
  | openQuote => "Unterminated quoted string"
  | openBrace => "Missing '\x7d'"
  | openNumber => "Missing '))'"
  | openBackquote => "EOF in backquote substitution"
  | badVariable => "Bad for loop variable"
  | badFunction => "Bad function name"
  | tooDeep => "Too deep"

end ReadFault

end ScenarioBench.Rehearsal.Shell

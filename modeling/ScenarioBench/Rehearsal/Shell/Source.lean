import ScenarioBench.Bench.Action
import ScenarioBench.Rehearsal.Shell.Script

/-! The text of a script while it is read.

Reading goes from character to character and from token to token. A backslash before a line end
joins two lines, so the pair is skipped almost everywhere.
-/

set_option autoImplicit false

namespace ScenarioBench.Rehearsal.Shell

inductive Token where
  | word
  | redirection
  | lineEnd
  | textEnd
  | symbol (symbol : String)
  | keyword (keyword : String)
  deriving DecidableEq

inductive ReadFault where
  | unexpected (token : Token) (expected : Option Token)
  | openQuote
  | openBrace
  | openNumber
  | openBackquote
  | badVariable
  | badFunction
  | tooDeep
  deriving DecidableEq

structure DocumentMark where
  text : String
  expands : Bool
  shortens : Bool
  place : Nat

structure Lookup where
  keywords : Bool
  aliases : Bool
  skipsLines : Bool
  endsDocument : Bool

namespace Lookup

def none : Lookup := ⟨false, false, false, false⟩

def both (first second : Lookup) : Lookup :=
  ⟨first.keywords || second.keywords, first.aliases || second.aliases,
   first.skipsLines || second.skipsLines, first.endsDocument || second.endsDocument⟩

def command : Lookup := ⟨true, true, false, false⟩

def anyLine : Lookup := ⟨true, true, true, false⟩

end Lookup

structure Source where
  rest : List Char
  line : Nat
  token : Token
  again : Bool
  word : Word
  descriptor : Nat
  opening : Opening
  shortens : Bool
  lookup : Lookup
  aliases : List (String × String)
  inUse : List (String × Nat)
  marks : List DocumentMark
  documents : Nat
  known : List (Nat × Word)
  found : List (Nat × Word)

abbrev Reading := Action Source ReadFault

namespace Source

def ofText (text : List Char) (line : Nat) (aliases : List (String × String)) : Source where
  rest := text
  line := line
  token := .lineEnd
  again := false
  word := []
  descriptor := 0
  opening := .read
  shortens := false
  lookup := .none
  aliases := aliases
  inUse := []
  marks := []
  documents := 0
  known := []
  found := []

end Source

namespace Reading

def source : Reading Source :=
  Action.look

def skipJoints : List Char → Nat → List Char × Nat
  | '\\' :: '\n' :: rest, line => skipJoints rest (line + 1)
  | rest, line => (rest, line)

def peek : Reading (Option Char) := do
  let source ← source
  let (rest, line) := skipJoints source.rest source.line
  modify fun source => { source with rest := rest, line := line }
  return rest.head?

def takeRaw : Reading (Option Char) := do
  match (← source).rest with
  | [] => return none
  | head :: rest =>
    modify fun source =>
      { source with rest := rest, line := if head = '\n' then source.line + 1 else source.line }
    return some head

def take : Reading (Option Char) := do
  let _ ← peek
  takeRaw

def takes (character : Char) : Reading Bool := do
  if (← peek) = some character then
    let _ ← takeRaw
    return true
  return false

def rounds : Nat := 1000000

def loop {α β : Type} (step : α → Reading (α ⊕ β)) : Nat → α → Reading β
  | 0, _ => throw .tooDeep
  | rounds + 1, state => do
    match ← step state with
    | .inl next => loop step rounds next
    | .inr result => return result

def takeAll (property : Char → Bool) : Reading (List Char) := do
  let step (taken : List Char) : Reading (List Char ⊕ List Char) := do
    match ← peek with
    | some head =>
      if property head then
        let _ ← takeRaw
        return .inl (head :: taken)
      return .inr taken.reverse
    | none => return .inr taken.reverse
  loop step rounds []

def putBack : Reading Unit :=
  modify fun source => { source with again := true }

def expect (lookup : Lookup) : Reading Unit :=
  modify fun source => { source with lookup := lookup }

end Reading

end ScenarioBench.Rehearsal.Shell

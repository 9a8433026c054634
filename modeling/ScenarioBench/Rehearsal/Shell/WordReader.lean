import ScenarioBench.Rehearsal.Shell.Naming
import ScenarioBench.Rehearsal.Shell.Source

/-! Reading words.

Which characters are special depends on the place: in a script, between quotes, in the operand of a
parameter, in arithmetic and in a document. Scripts inside words are read with a given reader.
-/

set_option autoImplicit false

namespace ScenarioBench.Rehearsal.Shell

inductive Place where
  | bare
  | double (inOperand : Bool)
  | operand (isQuoted : Bool)
  | number
  | document (mark : DocumentMark)

namespace Place

def isQuoted : Place → Bool
  | bare => false
  | operand isQuoted => isQuoted
  | double _ | number | document _ => true

def protects (place : Place) (character : Char) : Bool :=
  !place.isQuoted || ['\\', '\x60', '$'].contains character ||
    (match place with
    | document _ => false
    | double inOperand => character = '\x22' || (inOperand && character = '\x7d')
    | operand _ => character = '\x22' || character = '\x7d'
    | _ => character = '\x22')

def openEnd? : Place → Option ReadFault
  | bare | document _ => none
  | double _ | operand true => some .openQuote
  | operand false => some .openBrace
  | number => some .openNumber

end Place

/-- How the statements inside a word are read: up to a token that closes them, which may have to be a
parenthesis. -/
abbrev StatementsReader := (isClosed : Bool) → Reading (Option Statement)

namespace WordReader

open Reading

def endsWord (character : Char) : Bool :=
  [' ', '\t', '\n', ';', '&', '|', '(', ')', '<', '>'].contains character

abbrev PieceReader := Place → Reading Word

def backquoted (inQuotes : Bool) : Reading (List Char) := do
  let step (taken : List Char) : Reading (List Char ⊕ List Char) := do
    match ← take with
    | none => throw .openBackquote
    | some '\x60' => return .inr taken.reverse
    | some '\\' =>
      match ← takeRaw with
      | none => throw .openBackquote
      | some head =>
        if ['\\', '\x60', '$'].contains head || (inQuotes && head = '\x22') then
          return .inl (head :: taken)
        return .inl (head :: '\\' :: taken)
    | some head => return .inl (head :: taken)
  loop step rounds []

def inside {α : Type} (read : Reading α) : Reading α := do
  let marks := (← source).marks
  modify fun source => { source with marks := [], again := false }
  let result ← read
  modify fun source =>
    { source with
      found := source.marks.map (fun mark => (mark.place, [])) ++ source.found
      marks := marks, again := false }
  return result

def readBackquoted (statements : StatementsReader) (inQuotes : Bool) : Reading Statement := do
  let text ← backquoted inQuotes
  let before ← source
  modify fun source => { source with rest := text, line := 1, inUse := [] }
  let script ← inside (statements false)
  modify fun source =>
    { source with rest := before.rest, line := before.line, inUse := before.inUse }
  return script.getD (.sequence [])

structure Braced where
  name : String
  treatment : Treatment
  hasOperand : Bool

def operator? (whenEmpty : Bool) : Char → Option Treatment
  | '-' => some (.orElse whenEmpty)
  | '+' => some (.instead whenEmpty)
  | '?' => some (.orComplain whenEmpty)
  | '=' => some (.orAssign whenEmpty)
  | _ => none

def readTreatment (name : String) : Reading Braced := do
  match ← take with
  | some '\x7d' => return ⟨name, .value, false⟩
  | some ':' =>
    match ← take with
    | some head => return ⟨name, (operator? true head).getD .meaningless, true⟩
    | none => return ⟨name, .meaningless, true⟩
  | some '#' => return ⟨name, .cutStart (← takes '#'), true⟩
  | some '%' => return ⟨name, .cutEnd (← takes '%'), true⟩
  | some head => return ⟨name, (operator? false head).getD .meaningless, true⟩
  | none => return ⟨name, .meaningless, true⟩

def readName (head : Char) : Reading String := do
  if Naming.startsName head then return String.ofList (← takeAll Naming.isInName)
  return String.ofList (← takeAll Char.isDigit)

def readBraced : Reading Braced := do
  match ← peek with
  | none | some '\x7d' => return ⟨"", .meaningless, true⟩
  | some head =>
    if Naming.isInName head then readTreatment (← readName head)
    else
      let _ ← take
      if head ≠ '#' then
        if Naming.isSpecial head then readTreatment (String.singleton head)
        else return ⟨"", .meaningless, true⟩
      else match ← peek with
        | none => return ⟨"#", .meaningless, true⟩
        | some next =>
          if Naming.isInName next then
            let name ← readName next
            return ⟨name, if (← peek) = some '\x7d' then .length else .meaningless, true⟩
          let before ← source
          let _ ← take
          -- A length of a special parameter, unless the sign itself is the parameter that is treated.
          if next ≠ '\x7d' && (← peek) = some '\x7d' then
            if Naming.isSpecial next then return ⟨String.singleton next, .length, true⟩
            return ⟨"", .meaningless, true⟩
          set before
          readTreatment "#"

def readDollar (statements : StatementsReader) (pieces : PieceReader) (place : Place) :
    Reading Piece := do
  let isQuoted := place.isQuoted
  match ← peek with
  | some '(' =>
    let _ ← take
    if ← takes '(' then return .number isQuoted (← pieces .number)
    let script ← inside (statements true)
    return .printed isQuoted (script.getD (.sequence []))
  | some '\x7b' =>
    let _ ← take
    let braced ← readBraced
    if !braced.hasOperand then return .parameter isQuoted braced.name braced.treatment []
    let bare := match braced.treatment, place with
      | .cutStart _, _ | .cutEnd _, _ | _, .bare | _, .operand false => true
      | _, _ => false
    return .parameter isQuoted braced.name braced.treatment (← pieces (.operand (!bare)))
  | some head =>
    if Naming.startsName head then return .parameter isQuoted (← readName head) .value []
    if Naming.isSpecial head then
      let _ ← take
      return .parameter isQuoted (String.singleton head) .value []
    return .text isQuoted "$"
  | none => return .text isQuoted "$"

def readSingle : Reading String := do
  let step (taken : List Char) : Reading (List Char ⊕ List Char) := do
    match ← takeRaw with
    | none => throw .openQuote
    | some '\x27' => return .inr taken.reverse
    | some head => return .inl (head :: taken)
  return String.ofList (← loop step rounds [])

def takesMark (mark : DocumentMark) : Reading Bool := do
  if mark.shortens then let _ ← takeAll (· = '\t')
  let _ ← peek
  let source ← source
  let letters := mark.text.toList
  if letters.isPrefixOf source.rest then
    let rest := source.rest.drop letters.length
    match rest with
    | [] =>
      set { source with rest := [] }
      return true
    | '\n' :: rest =>
      set { source with rest := rest, line := source.line + 1 }
      return true
    -- The mark counts only if it is the whole line.
    | _ => return false
  return false

structure Progress where
  pieces : Word
  inner : Bool
  parentheses : Nat
  startsLine : Bool

def quotedSection (pieces : Word) : Word :=
  match pieces with
  | [.parameter _ "@" .value _] => pieces
  | _ => .text true "" :: pieces

def readPiece (statements : StatementsReader) (pieces : PieceReader) (place : Place)
    (progress : Progress) : Reading (Progress ⊕ Word) := do
  let done : Word := progress.pieces.reverse
  let add (piece : Piece) : Reading (Progress ⊕ Word) :=
    return .inl { progress with pieces := piece :: progress.pieces, startsLine := false }
  let literal (head : Char) : Reading (Progress ⊕ Word) :=
    return .inl
      { progress with
        pieces := .text place.isQuoted (String.singleton head) :: progress.pieces
        startsLine := head = '\n' }
  match place with
  | .document mark =>
    if progress.startsLine then
      if ← takesMark mark then return .inr done
  | _ => pure ()
  match ← peek with
  | none =>
    match place.openEnd? with
    | some fault => throw fault
    | none => return .inr done
  | some head =>
    match place with
    | .bare => if endsWord head then return .inr done
    | _ => pure ()
    let _ ← take
    match head, place with
    | '\\', _ =>
      match ← takeRaw with
      | none => add (.text true "\\")
      | some next =>
        let text := if place.protects next then String.singleton next
          else String.ofList ['\\', next]
        return .inl
          { progress with
            pieces := .text true text :: progress.pieces, startsLine := next = '\n' }
    | '\x27', .bare | '\x27', .operand false => add (.text true (← readSingle))
    | '\x22', .bare | '\x22', .operand false =>
      let inOperand := match place with
        | .bare => false
        | _ => true
      let quoted ← pieces (.double inOperand)
      return .inl { progress with pieces := (quotedSection quoted).reverse ++ progress.pieces }
    | '\x22', .double _ => return .inr done
    | '\x22', .operand true =>
      return .inl
        { progress with pieces := .text true "" :: progress.pieces, inner := !progress.inner }
    | '$', _ => add (← readDollar statements pieces place)
    | '\x60', _ =>
      add (.printed place.isQuoted (← readBackquoted statements place.isQuoted))
    | '\x7d', .operand _ => if progress.inner then literal head else return .inr done
    | '(', .number =>
      return .inl
        { progress with
          pieces := .text true "(" :: progress.pieces, parentheses := progress.parentheses + 1 }
    | ')', .number =>
      if progress.parentheses = 0 then
        if ← takes ')' then return .inr done
        literal head
      else
        return .inl
          { progress with
            pieces := .text true ")" :: progress.pieces
            parentheses := progress.parentheses - 1 }
    | _, _ => literal head

def readPieces (statements : StatementsReader) : Nat → PieceReader
  | 0, _ => throw .tooDeep
  | depth + 1, place => do
    let start : Progress := ⟨[], false, 0, true⟩
    let pieces ← loop (readPiece statements (readPieces statements depth) place) rounds start
    return pieces.foldr Word.cons []

def depth : Nat := 1000

/-- The word from here on. Where a document ends, dollar signs and backquotes stand for
themselves. -/
def readWord (statements : StatementsReader) (endsDocument : Bool) : Reading Word := do
  if !endsDocument then readPieces statements depth .bare
  else
    let step (progress : Progress) : Reading (Progress ⊕ Word) := do
      match ← peek with
      | some head =>
        if head = '$' || head = '\x60' then
          let _ ← take
          let pieces := .text false (String.singleton head) :: progress.pieces
          return .inl { progress with pieces := pieces }
        readPiece statements (readPieces statements depth) .bare progress
      | none => readPiece statements (readPieces statements depth) .bare progress
    let pieces ← loop step rounds ⟨[], false, 0, false⟩
    return pieces.foldr Word.cons []

def readPlain (mark : DocumentMark) : Reading Word := do
  let step (lines : List String) : Reading (List String ⊕ List String) := do
    let rest := (← source).rest
    if rest.isEmpty then return .inr lines
    let written := rest.takeWhile (· ≠ '\n')
    let after := rest.drop written.length
    let line := String.ofList (if mark.shortens then written.dropWhile (· = '\t') else written)
    modify fun source => { source with rest := after.drop 1, line := source.line + 1 }
    if line = mark.text then return .inr lines
    return .inl ((if after.isEmpty then line else line ++ "\n") :: lines)
  return [.text true (String.join (← loop step rounds []).reverse)]

def readDocuments (statements : StatementsReader) : Reading Unit := do
  let marks := (← source).marks
  modify fun source => { source with marks := [] }
  marks.forM fun mark => do
    let word ← if mark.expands then readPieces statements depth (.document mark) else readPlain mark
    modify fun source => { source with found := (mark.place, word) :: source.found }

end WordReader

end ScenarioBench.Rehearsal.Shell

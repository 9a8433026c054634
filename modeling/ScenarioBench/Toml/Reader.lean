import ScenarioBench.Toml.Draft
import ScenarioBench.Toml.Scalar

/-! Reading TOML documents. -/

set_option autoImplicit false

namespace ScenarioBench.Toml

/-- How many parts a dotted name may have, and how deep arrays and inline tables may nest. -/
def greatestDepth : Nat := 79

def isBare (character : Char) : Bool :=
  character.isAlphanum || character = '_' || character = '-'

def readKey : List Char → Option (String × List Char)
  | '\x22' :: rest => (readBasic rest.length [] rest).map fun (key, rest) => (String.ofList key, rest)
  | '\x27' :: rest => (readLiteral rest).map fun (key, rest) => (String.ofList key, rest)
  | characters =>
    match characters.takeWhile isBare with
    | [] => none
    | key => some (String.ofList key, characters.drop key.length)

def readName (fuel : Nat) (characters : List Char) : Option (List String × List Char) :=
  match fuel with
  | 0 => none
  | fuel + 1 => do
    let (key, rest) ← readKey (skipGaps characters)
    match skipGaps rest with
    | '.' :: rest =>
      let (keys, rest) ← readName fuel rest
      return (key :: keys, rest)
    | rest => return ([key], rest)

def skipBreaks (fuel : Nat) (characters : List Char) : List Char :=
  match fuel with
  | 0 => characters
  | fuel + 1 =>
    let rest := skipGaps characters
    match lineEnd? (skipComment rest) with
    | some rest => skipBreaks fuel rest
    | none => rest

def skipAll (characters : List Char) : List Char :=
  skipBreaks (characters.length + 1) characters

def inlineTable (pairs : List (List String × Toml)) : Option Toml := do
  let draft ← pairs.foldlM (fun draft (path, value) => do
    draft.set path.dropLast (← path.getLast?) value) Draft.empty
  return draft.toValue

mutual

def readValue (fuel depth : Nat) (characters : List Char) : Option (Toml × List Char) :=
  match fuel with
  | 0 => none
  | fuel + 1 =>
    match characters with
    | '\x22' :: _ | '\x27' :: _ => do
      let (text, rest) ← readText characters
      return (.string text, rest)
    | '[' :: rest =>
      match depth with
      | 0 => none
      | depth + 1 => do
        let (items, rest) ← readItems fuel depth (skipAll rest)
        return (.array items, rest)
    | '\x7b' :: rest =>
      match depth with
      | 0 => none
      | depth + 1 =>
        -- Inline tables stay on one line, arrays need not.
        match skipGaps rest with
        | '\x7d' :: rest => some (.table [], rest)
        | rest => do
          let (pairs, rest) ← readPairs fuel depth rest
          return (← inlineTable pairs, rest)
    | 't' :: 'r' :: 'u' :: 'e' :: rest => some (.bool true, rest)
    | 'f' :: 'a' :: 'l' :: 's' :: 'e' :: rest => some (.bool false, rest)
    | _ => readNumeric characters

def readItems (fuel depth : Nat) (characters : List Char) : Option (List Toml × List Char) :=
  match fuel with
  | 0 => none
  | fuel + 1 =>
    match characters with
    | ']' :: rest => some ([], rest)
    | characters => do
      let (item, rest) ← readValue fuel depth characters
      match skipAll rest with
      | ']' :: rest => return ([item], rest)
      | ',' :: rest =>
        -- A comma may also stand behind the last item.
        let (items, rest) ← readItems fuel depth (skipAll rest)
        return (item :: items, rest)
      | _ => none

def readPairs (fuel depth : Nat) (characters : List Char) :
    Option (List (List String × Toml) × List Char) :=
  match fuel with
  | 0 => none
  | fuel + 1 => do
    let (name, rest) ← readName greatestDepth characters
    let '=' :: rest := rest | none
    let (value, rest) ← readValue fuel depth (skipGaps rest)
    match skipGaps rest with
    | '\x7d' :: rest => return ([(name, value)], rest)
    | ',' :: rest =>
      let (pairs, rest) ← readPairs fuel depth rest
      return ((name, value) :: pairs, rest)
    | _ => none

end

def endLine (characters : List Char) : Option (List Char) :=
  match skipComment (skipGaps characters) with
  | [] => some []
  | rest => lineEnd? rest

def readLine (progress : Progress) (characters : List Char) : Option (Progress × List Char) :=
  match characters with
  | '[' :: '[' :: rest => do
    let (name, rest) ← readName greatestDepth rest
    let ']' :: ']' :: rest := rest | none
    return (← progress.openRepeated name, ← endLine rest)
  | '[' :: rest => do
    let (name, rest) ← readName greatestDepth rest
    let ']' :: rest := rest | none
    return (← progress.openTable name, ← endLine rest)
  | '#' :: _ | '\n' :: _ | '\r' :: _ => do return (progress, ← endLine characters)
  | characters => do
    let (name, rest) ← readName greatestDepth characters
    let '=' :: rest := rest | none
    let rest := skipGaps rest
    let (value, rest) ← readValue (2 * rest.length + 2) greatestDepth rest
    return (← progress.set name value, ← endLine rest)

def readLines (fuel : Nat) (progress : Progress) (characters : List Char) : Option Progress :=
  match skipGaps characters with
  | [] => some progress
  | characters =>
    match fuel with
    | 0 => none
    | fuel + 1 => do
      let (progress, rest) ← readLine progress characters
      readLines fuel progress rest

def dropMark : List Char → List Char
  -- A byte order mark at the beginning is no part of the document.
  | '\uFEFF' :: rest => rest
  | rest => rest

def read? (text : String) : Option (List (String × Toml)) := do
  let characters := dropMark text.toList
  let progress ← readLines (characters.length + 1) .start characters
  let .table entries := (← progress.finish).toValue | none
  return entries

end ScenarioBench.Toml

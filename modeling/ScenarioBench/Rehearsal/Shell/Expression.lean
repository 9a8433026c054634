import ScenarioBench.Rehearsal.Shell.Pattern

/-! Regular expressions of the utilities.

Of all matches the first one counts, of those the longest, and of those the one that takes
alternatives in their order and repeats as often as it can. Where an expression can end is worked
out for sets of places, so that a place is looked at once for each part.
-/

set_option autoImplicit false

namespace ScenarioBench.Rehearsal.Shell

inductive Edge where
  | lineStart
  | lineEnd
  | textStart
  | textEnd
  | wordStart
  | wordEnd
  | wordEdge
  | wordInside
  deriving DecidableEq

inductive Expression where
  | nothing
  | one (symbol : Symbol)
  | edge (edge : Edge)
  | sequence (first second : Expression)
  | either (first second : Expression)
  | repeated (inner : Expression) (least : Nat) (most : Option Nat)
  | group (number : Nat) (inner : Expression)
  | again (number : Nat)

structure Subject where
  text : Array Char
  ignoresCase : Bool
  hasLines : Bool

namespace Subject

def isWordCharacter (character : Char) : Bool :=
  character.isAlphanum || character = '_'

def character? (subject : Subject) (position : Nat) : Option Char :=
  subject.text[position]?

def admits (subject : Subject) (symbol : Symbol) (character : Char) : Bool :=
  symbol.admits character || (subject.ignoresCase &&
    (symbol.admits character.toLower || symbol.admits character.toUpper))

def isAt (subject : Subject) (position : Nat) (edge : Edge) : Bool :=
  let before := if position = 0 then none else subject.character? (position - 1)
  let after := subject.character? position
  let inWord := before.any isWordCharacter
  let atWord := after.any isWordCharacter
  match edge with
  | .lineStart => before.isNone || (subject.hasLines && before = some '\n')
  | .lineEnd => after.isNone || (subject.hasLines && after = some '\n')
  | .textStart => before.isNone
  | .textEnd => after.isNone
  | .wordStart => !inWord && atWord
  | .wordEnd => inWord && !atWord
  | .wordEdge => inWord != atWord
  | .wordInside => inWord = atWord

end Subject

structure Reached where
  position : Nat
  groups : List (Nat × Nat × Nat)
  deriving DecidableEq

namespace Reached

def group? (reached : Reached) (number : Nat) : Option (Nat × Nat) :=
  reached.groups.lookup number

end Reached

abbrev Seen := Array (List Reached)

namespace Seen

/-- Whether a place is new. What groups have matched only counts if it can still matter. -/
def isNew (byGroups : Bool) (seen : Seen) (reached : Reached) : Bool :=
  let there := seen.getD reached.position []
  if byGroups then !there.contains reached else there.isEmpty

def note (seen : Seen) (reached : Reached) : Seen :=
  seen.modify reached.position (reached :: ·)

end Seen

namespace Expression

def hasReferences : Expression → Bool
  | sequence first second | either first second => first.hasReferences || second.hasReferences
  | repeated inner _ _ | group _ inner => inner.hasReferences
  | again _ => true
  | _ => false

def groups : Expression → Nat
  | sequence first second | either first second => first.groups + second.groups
  | repeated inner _ _ => inner.groups
  | group _ inner => inner.groups + 1
  | _ => 0

section Matching

variable (subject : Subject) (byGroups : Bool)

def fresh (places : List Reached) : List Reached :=
  let empty : Seen := Array.replicate (subject.text.size + 1) []
  let step (state : List Reached × Seen) (place : Reached) : List Reached × Seen :=
    if state.2.isNew byGroups place then (place :: state.1, state.2.note place) else state
  (places.foldl step ([], empty)).1.reverse

/-- Everything that repeating leads to from a place, the most repetitions first, within a number of
repetitions; a repetition that matches nothing is not repeated. -/
def repeats (run : Reached → List Reached) :
    Nat → Reached → (List Reached × Seen) → List Reached × Seen
  | 0, _, state => state
  | fuel + 1, place, (found, seen) =>
    if !seen.isNew byGroups place then (found, seen)
    else
      let next := (run place).filter fun next => next.position ≠ place.position
      let start := (found, seen.note place)
      let (found, seen) := next.foldl (fun state next => repeats run fuel next state) start
      (place :: found, seen)

def repeatsAtMost (run : Reached → List Reached) : Nat → List Reached → List Reached
  | 0, places => places
  | count + 1, places =>
    fresh subject byGroups (places.flatMap fun place =>
      repeatsAtMost run count ((run place).filter fun next => next.position ≠ place.position)
        ++ [place])

def repeatedText (position first last : Nat) : Option Nat :=
  let length := last - first
  let isSame := (List.range length).all fun offset =>
    match subject.character? (first + offset), subject.character? (position + offset) with
    | some own, some other =>
      own = other || (subject.ignoresCase && own.toLower = other.toLower)
    | _, _ => false
  if isSame then some (position + length) else none

def run : Expression → Reached → List Reached
  | .nothing, place => [place]
  | .one symbol, place =>
    match subject.character? place.position with
    | some character =>
      if subject.admits symbol character then [{ place with position := place.position + 1 }]
      else []
    | none => []
  | .edge here, place => if subject.isAt place.position here then [place] else []
  | .sequence first second, place =>
    match run first place with
    | [only] => run second only
    | places => fresh subject byGroups (places.flatMap fun next => run second next)
  | .either first second, place =>
    fresh subject byGroups (run first place ++ run second place)
  | .repeated inner least most, place =>
    let step (places : List Reached) : List Reached :=
      fresh subject byGroups (places.flatMap fun next => run inner next)
    let start := (List.range least).foldl (fun places _ => step places) [place]
    match most with
    | some most => repeatsAtMost subject byGroups (run inner) (most - least) start
    | none =>
      let empty : Seen := Array.replicate (subject.text.size + 1) []
      let fuel := subject.text.size + 1
      (start.foldl (fun state next => repeats byGroups (run inner) fuel next state)
        ([], empty)).1.reverse
  | .group number inner, place =>
    (run inner place).map fun next =>
      { next with
        groups := (number, place.position, next.position)
          :: next.groups.filter fun own => own.1 ≠ number }
  | .again number, place =>
    match place.group? number with
    | some (first, last) =>
      match repeatedText subject place.position first last with
      | some position => [{ place with position := position }]
      | none => []
    | none => []

end Matching

def matchAt? (expression : Expression) (subject : Subject) (position : Nat) : Option Reached :=
  (expression.run subject expression.hasReferences ⟨position, []⟩).foldl (fun found next =>
    match found with
    | some longest => if longest.position < next.position then some next else found
    | none => some next) none

/-- The first match from a position on, within a number of positions: where it starts and what it
reaches. -/
def searchWithin (expression : Expression) (subject : Subject) : Nat → Nat → Option (Nat × Reached)
  | 0, _ => none
  | fuel + 1, position =>
    match matchAt? expression subject position with
    | some reached => some (position, reached)
    | none => searchWithin expression subject fuel (position + 1)

def search? (expression : Expression) (subject : Subject) (position : Nat) :
    Option (Nat × Reached) :=
  searchWithin expression subject (subject.text.size + 1 - position) position

end Expression

end ScenarioBench.Rehearsal.Shell

/-! Shell patterns.

`*` stands for any run of characters, `?` for one character, brackets for one character of a set that
may include named classes, and every other character for itself. What is quoted stands for itself.
-/

set_option autoImplicit false

namespace ScenarioBench.Rehearsal.Shell

inductive Symbol where
  | anyRun
  | anyOne
  | oneOf (ranges : List (Char × Char)) (others : Bool)
  | exactly (character : Char)
  deriving DecidableEq, Repr

namespace Symbol

def admits (character : Char) : Symbol → Bool
  | anyRun => false
  | anyOne => true
  | oneOf ranges others =>
    (ranges.any fun (low, high) => low ≤ character && character ≤ high) != others
  | exactly own => own = character

end Symbol

abbrev Pattern := List Symbol

namespace Pattern

def fits : Pattern → List Char → Bool
  | [], characters => characters.isEmpty
  | .anyRun :: rest, characters =>
    fits rest characters ||
      match characters with
      | [] => false
      | _ :: others => fits (.anyRun :: rest) others
  | _ :: _, [] => false
  | symbol :: rest, head :: others => symbol.admits head && fits rest others
termination_by pattern characters => pattern.length + characters.length

def classes : List (String × List (Char × Char)) :=
  [("alpha", [('a', 'z'), ('A', 'Z')]),
   ("digit", [('0', '9')]),
   ("alnum", [('a', 'z'), ('A', 'Z'), ('0', '9')]),
   ("lower", [('a', 'z')]),
   ("upper", [('A', 'Z')]),
   ("xdigit", [('0', '9'), ('a', 'f'), ('A', 'F')]),
   ("space", [('\t', '\r'), (' ', ' ')]),
   ("blank", [('\t', '\t'), (' ', ' ')]),
   ("punct", [('!', '/'), (':', '@'), ('[', '\x60'), ('\x7b', '~')]),
   ("print", [(' ', '~')]),
   ("graph", [('!', '~')]),
   ("cntrl", [('\x00', '\x1f'), ('\x7f', '\x7f')])]

def classAt? (characters : List (Char × Bool)) : Option (List (Char × Char) × Nat) := do
  let name := (characters.takeWhile fun (character, _) => character ≠ ':').map (·.1)
  let found ← classes.lookup (String.ofList name)
  match characters.drop name.length with
  | (':', _) :: (']', _) :: _ => some (found, name.length + 2)
  | _ => none

/-- The ranges up to the closing bracket, and what follows it, after some characters that are read
already. A bracket at the start is a member of the set, and a hyphen between two members makes a
range. -/
def ranges (first : Bool) :
    Nat → List (Char × Bool) → Option (List (Char × Char) × List (Char × Bool))
  | _, [] => none
  | skipped + 1, _ :: rest => ranges false skipped rest
  | 0, (']', false) :: rest =>
    if first then add [(']', ']')] (ranges false 0 rest) else some ([], rest)
  | 0, ('[', false) :: (':', false) :: rest =>
    match classAt? rest with
    | some (found, length) => add found (ranges false length rest)
    | none => add [('[', '[')] (ranges false 0 ((':', false) :: rest))
  | 0, (low, _) :: ('-', false) :: (high, quoted) :: rest =>
    -- A hyphen at the end of the set stands for itself.
    if high = ']' && !quoted then
      add [(low, low)] (ranges false 0 (('-', false) :: (high, quoted) :: rest))
    else add [(low, high)] (ranges false 0 rest)
  | 0, (single, _) :: rest => add [(single, single)] (ranges false 0 rest)
where
  add (found : List (Char × Char)) :
      Option (List (Char × Char) × List (Char × Bool)) →
        Option (List (Char × Char) × List (Char × Bool)) :=
    Option.map fun (others, rest) => (found ++ others, rest)

def read : Nat → List (Char × Bool) → Pattern
  | 0, _ => []
  | _ + 1, [] => []
  | fuel + 1, (head, quoted) :: rest =>
    if quoted then .exactly head :: read fuel rest
    else match head with
      | '*' => .anyRun :: read fuel rest
      | '?' => .anyOne :: read fuel rest
      | '[' =>
        let others := rest.head?.any fun (mark, quoted) => (mark = '!' || mark = '^') && !quoted
        match ranges true 0 (if others then rest.tail else rest) with
        | some (found, after) => .oneOf found others :: read fuel after
        -- A bracket that is never closed stands for itself.
        | none => .exactly '[' :: read fuel rest
      | _ => .exactly head :: read fuel rest

def ofMarked (characters : List (Char × Bool)) : Pattern :=
  read (characters.length + 1) characters

def isOpen (pattern : Pattern) : Bool :=
  pattern.any fun symbol => match symbol with
    | .exactly _ => false
    | _ => true

def cutStart (longest : Bool) (pattern : Pattern) (text : List Char) : List Char :=
  let lengths := List.range (text.length + 1)
  let order := if longest then lengths.reverse else lengths
  match order.find? fun length => pattern.fits (text.take length) with
  | some length => text.drop length
  | none => text

def cutEnd (longest : Bool) (pattern : Pattern) (text : List Char) : List Char :=
  let lengths := List.range (text.length + 1)
  let order := if longest then lengths else lengths.reverse
  match order.find? fun length => pattern.fits (text.drop length) with
  | some length => text.take length
  | none => text

end Pattern

end ScenarioBench.Rehearsal.Shell

/-! Wildcard patterns for file names.

`*` stands for any run of characters, also the empty one, `?` for exactly one character, and every
other character for itself. A pattern is compared with a whole name from the left, and one point to
return to is kept: the last `*` and how much of the name stands before what it has taken.
-/

set_option autoImplicit false

namespace ScenarioBench.Glob

/-- Where a comparison stands: a position in the pattern, a position in the name, and the point to
return to. -/
structure Cursor where
  symbol : Nat
  character : Nat
  back : Option (Nat × Nat)
  deriving DecidableEq, Repr

inductive Progress where
  | running (cursor : Cursor)
  | finished (answer : Bool)
  deriving DecidableEq, Repr

def retreat (back : Option (Nat × Nat)) : Progress :=
  match back with
  -- Only the last star is given more: an earlier one with more would leave less for it.
  | some (star, taken) => .running ⟨star + 1, taken + 1, some (star, taken + 1)⟩
  | none => .finished false

/-- One step. At the end of the name only `*` may be left of the pattern. -/
def step (pattern name : List Char) (cursor : Cursor) : Progress :=
  match name[cursor.character]? with
  | none => .finished ((pattern.drop cursor.symbol).all (· = '*'))
  | some character =>
    match pattern[cursor.symbol]? with
    | some '*' =>
      -- The star takes nothing at first; it takes more only when what follows it does not fit.
      .running ⟨cursor.symbol + 1, cursor.character, some (cursor.symbol, cursor.character)⟩
    | some symbol =>
      if symbol = '?' ∨ symbol = character then
        .running ⟨cursor.symbol + 1, cursor.character + 1, cursor.back⟩
      else retreat cursor.back
    | none => retreat cursor.back

def run (pattern name : List Char) : Nat → Cursor → Option Bool
  | 0, _ => none
  | fuel + 1, cursor =>
    match step pattern name cursor with
    | .finished answer => some answer
    | .running next => run pattern name fuel next

def start : Cursor := ⟨0, 0, none⟩

/-- More steps than a comparison takes: between two retreats every step passes a character of the
name or a `*`, and every retreat gives the last `*` one character more. -/
def bound (pattern name : List Char) : Nat :=
  (name.length + 2) * (name.length + pattern.length + 2) * (pattern.length + 1)

def fits (pattern name : List Char) : Bool :=
  (run pattern name (bound pattern name) start).getD false

def accepts (pattern name : String) : Bool :=
  fits pattern.toList name.toList

end ScenarioBench.Glob

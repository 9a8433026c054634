/-! Shell scripts as trees.

A word is a sequence of pieces, and a piece may hold a script of its own, so words and statements are
defined together.
-/

set_option autoImplicit false

namespace ScenarioBench.Rehearsal.Shell

/-- What becomes of a parameter's value. In the forms with `whenEmpty`, an empty value counts as
missing if that is set. -/
inductive Treatment where
  | value
  | length
  | orElse (whenEmpty : Bool)
  | orAssign (whenEmpty : Bool)
  | orComplain (whenEmpty : Bool)
  | instead (whenEmpty : Bool)
  | cutStart (longest : Bool)
  | cutEnd (longest : Bool)
  | meaningless
  deriving DecidableEq

inductive Opening where
  | read
  | write
  | replace
  | append
  | update
  | duplicate
  | document
  deriving DecidableEq

mutual

/-- A piece of a word. What is quoted is neither split nor read as a pattern. -/
inductive Piece where
  | text (isQuoted : Bool) (text : String)
  | parameter (isQuoted : Bool) (name : String) (treatment : Treatment) (operand : List Piece)
  | printed (isQuoted : Bool) (script : Statement)
  | number (isQuoted : Bool) (expression : List Piece)

inductive Redirection where
  | redirection (descriptor : Nat) (opening : Opening) (target : List Piece)

inductive Statement where
  | simple (line : Nat) (assignments : List (String × List Piece)) (words : List (List Piece))
      (redirections : List Redirection)
  | sequence (statements : List Statement)
  | both (first second : Statement)
  | either (first second : Statement)
  | negated (statement : Statement)
  | piped (statements : List Statement)
  | background (body : Statement)
  | subshell (line : Nat) (body : Statement) (redirections : List Redirection)
  | redirected (line : Nat) (body : Statement) (redirections : List Redirection)
  | conditional (condition whenTrue : Statement) (whenFalse : Option Statement)
  | loop (whileFailing : Bool) (condition body : Statement)
  | forEach (line : Nat) (name : String) (words : List (List Piece)) (body : Statement)
  | choice (line : Nat) (subject : List Piece)
      (branches : List (List (List Piece) × Option Statement))
  | function (line : Nat) (name : String) (body : Statement)

end

abbrev Word := List Piece

instance : Inhabited Statement := ⟨.sequence []⟩

namespace Word

def plain? (word : Word) : Option String :=
  (word.mapM fun (piece : Piece) => match piece with
    | .text false text => some text
    | _ => none).map String.join

def arguments : Word :=
  [.parameter true "@" .value []]

def isQuoted : Piece → Bool
  | .text isQuoted _ | .parameter isQuoted .. | .printed isQuoted _ | .number isQuoted _ => isQuoted

def cons (piece : Piece) (others : Word) : Word :=
  match piece, others with
  | .text first text, .text second next :: rest =>
    if first = second then .text first (text ++ next) :: rest else piece :: others
  | _, _ => piece :: others

end Word

end ScenarioBench.Rehearsal.Shell

import ScenarioBench.Text.Octets
import ScenarioBench.Text.Search

/-! What may stand on a command line.

Arguments start with one hyphen and a letter, or with two hyphens and a word; whatever does not is a
command, a value or a positional argument. Values are octets, of which most kinds ask that they are
text.
-/

set_option autoImplicit false

namespace ScenarioBench.CommandLine

inductive Stop where
  | help
  | version
  | helpNeeded
  | unknownArgument
  | invalidValue
  | unreadableValue
  | notText
  | conflict
  | unneededValue
  | missingArgument
  | missingCommand
  | unknownCommand
  deriving DecidableEq, Repr

namespace Stop

/-- The exit code; help and version were wanted, everything else is a mistake of the user. -/
def exitCode : Stop → Nat
  | help | version => 0
  | _ => 2

end Stop

inductive ValueKind where
  | text
  | path
  | natural
  | choice (known : List String)
  | setting
  deriving DecidableEq, Repr

def readNatural? (text : String) : Option Nat :=
  let digits := match text.toList with
    | '+' :: rest => rest
    | rest => rest
  if !digits.isEmpty && digits.all Char.isDigit then
    (String.ofList digits).toNat?.filter (· < Nat.pow 2 64)
  else none

def readSetting? (text : String) : Option (String × String) :=
  (Text.splitAtFirst "=" text).filter fun (name, _) => name ≠ ""

namespace ValueKind

def complaint? (kind : ValueKind) (value : Octets) : Option Stop :=
  match kind, value.toText? with
  | .path, _ => if value.isEmpty then some .invalidValue else none
  | .choice known, some written => if known.contains written then none else some .invalidValue
  -- What is not text is no known word, and is refused as any other word is.
  | .choice _, none => some .invalidValue
  | .text, some _ => none
  | .natural, some written =>
    if (readNatural? written).isSome then none else some .unreadableValue
  | .setting, some written =>
    if (readSetting? written).isSome then none else some .unreadableValue
  | _, none => some .notText

end ValueKind

inductive Effect where
  | flag
  | value (kind : ValueKind) (repeats : Bool)
  | help
  | version
  deriving DecidableEq, Repr

/-- An argument: the name it is noted under, and how it is written. A positional argument is written
as its value alone. -/
structure Argument where
  name : String
  letter : Option Char
  word : Option String
  effect : Effect
  deriving DecidableEq, Repr

namespace Argument

def repeats (argument : Argument) : Bool :=
  match argument.effect with
  | .value _ repeats => repeats
  | _ => false

def takesValue (argument : Argument) : Bool :=
  match argument.effect with
  | .value .. => true
  | _ => false

end Argument

structure Grammar where
  options : List Argument
  positionals : List Argument
  commands : List String
  required : List String
  conflicts : List (String × String)
  deriving Repr

namespace Grammar

def ofLetter? (grammar : Grammar) (letter : UInt8) : Option Argument :=
  grammar.options.find? fun argument =>
    argument.letter.any fun own => own.toNat = letter.toNat

def ofWord? (grammar : Grammar) (word : Octets) : Option Argument :=
  grammar.options.find? fun argument =>
    argument.word.any fun own => Octets.ofText own = word

def command? (grammar : Grammar) (name : Octets) : Option String :=
  grammar.commands.find? fun command => Octets.ofText command = name

end Grammar

end ScenarioBench.CommandLine

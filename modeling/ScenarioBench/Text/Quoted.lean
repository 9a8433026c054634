import ScenarioBench.Text.Printable

/-! Texts in double quotes, as complaints show them.

Every character that is not shown as itself is written as an escape, so that the quoted form tells
texts apart that look alike.
-/

set_option autoImplicit false

namespace ScenarioBench.Text

def quotedChar (character : Char) : List Char :=
  match character with
  | '\x00' => ['\\', '0']
  | '\t' => ['\\', 't']
  | '\r' => ['\\', 'r']
  | '\n' => ['\\', 'n']
  | '\x22' => ['\\', '\x22']
  | '\\' => ['\\', '\\']
  | _ =>
    if isShown character then [character]
    else ['\\', 'u', '\x7b'] ++ Nat.toDigits 16 character.toNat ++ ['\x7d']

def quoted (text : String) : String :=
  "\"" ++ String.ofList (text.toList.flatMap quotedChar) ++ "\""

end ScenarioBench.Text

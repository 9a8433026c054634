/-! The names that scripts use. -/

set_option autoImplicit false

namespace ScenarioBench.Rehearsal.Shell.Naming

def startsName (character : Char) : Bool :=
  character.isAlpha || character = '_'

def isInName (character : Char) : Bool :=
  character.isAlphanum || character = '_'

def isName (text : String) : Bool :=
  match text.toList with
  | [] => false
  | head :: rest => startsName head && rest.all isInName

def isSpecial (character : Char) : Bool :=
  ['@', '*', '#', '?', '-', '$', '!'].contains character || character.isDigit

def assignment? (text : String) : Option (String × String) :=
  let name := text.toList.takeWhile isInName
  match text.toList.drop name.length with
  | '=' :: value =>
    if isName (String.ofList name) then some (String.ofList name, String.ofList value) else none
  | _ => none

def keywords : List String :=
  ["!", "case", "do", "done", "elif", "else", "esac", "fi", "for", "if", "in", "then", "until",
   "while", "\x7b", "\x7d"]

def closing : List String :=
  ["do", "done", "elif", "else", "esac", "fi", "then", "\x7d"]

def special : List String :=
  [".", ":", "break", "continue", "eval", "exec", "exit", "export", "readonly", "return", "set",
   "shift", "times", "trap", "unset"]

end ScenarioBench.Rehearsal.Shell.Naming

import ScenarioBench.Json.Value
import ScenarioBench.Text.Quoted

/-! Why a JSON document does not hold what is asked for. -/

set_option autoImplicit false

namespace ScenarioBench.Json

inductive Fault where
  | malformed
  | wrongKind (found : Json) (expected : String)
  | wrongLength (length : Nat) (expected : String)
  | pathNotText
  deriving Repr

namespace Fault

def describe : Json → String
  | null => "null"
  | bool value => "boolean `" ++ (if value then "true" else "false") ++ "`"
  | number (.real value) => "floating point `" ++ (Number.real value).text ++ "`"
  | number value => "integer `" ++ value.text ++ "`"
  | string value => "string " ++ Text.quoted value
  | array _ => "sequence"
  | object _ => "map"

def message : Fault → String
  | malformed => "malformed document"
  | wrongKind found expected => "invalid type: " ++ describe found ++ ", expected " ++ expected
  | wrongLength length expected =>
    "invalid length " ++ toString length ++ ", expected " ++ expected
  | pathNotText => "path contains invalid UTF-8 characters"

end Fault

def expectString : Json → Except Fault String
  | string value => .ok value
  | other => .error (.wrongKind other "a string")

def expectOptionalString : Json → Except Fault (Option String)
  | null => .ok none
  | other => (expectString other).map some

end ScenarioBench.Json

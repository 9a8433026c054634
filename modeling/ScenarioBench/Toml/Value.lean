import ScenarioBench.Data.Decimal
import ScenarioBench.Text.Quoted

/-! Values of TOML documents, and why a value is not what is asked for. -/

set_option autoImplicit false

namespace ScenarioBench

inductive Toml where
  | string (value : String)
  | integer (value : Int)
  | real (value : Binary64)
  | bool (value : Bool)
  /-- A date, a time of day or both; nothing depends on which. -/
  | moment
  | array (items : List Toml)
  | table (entries : List (String × Toml))
  deriving Repr, Inhabited

namespace Toml

def realText : Binary64 → String
  | .finite negative mantissa exponent => Decimal.writePositional negative mantissa exponent
  | .infinite negative => Decimal.sign negative ++ "inf"
  | .notANumber => "NaN"

def describe : Toml → String
  | string value => "string " ++ Text.quoted value
  | integer value => "integer `" ++ toString value ++ "`"
  | real value => "floating point `" ++ realText value ++ "`"
  | bool value => "boolean `" ++ (if value then "true" else "false") ++ "`"
  | array _ => "sequence"
  | moment | table _ => "map"

inductive Fault where
  | malformed
  | unknownField (name : String) (known : List String)
  | unknownVariant (name : String) (known : List String)
  | wrongKind (found : Toml) (expected : String)
  | wrongValue (found : Toml) (expected : String)
  | noVariant
  deriving Repr

namespace Fault

def listed (known : List String) : String :=
  let quoted := known.map fun name => "`" ++ name ++ "`"
  match quoted with
  | [] => "nothing"
  | [only] => only
  | [first, second] => first ++ " or " ++ second
  | names => "one of " ++ ", ".intercalate names

def message : Fault → String
  | malformed => "malformed document"
  | unknownField name known => "unknown field `" ++ name ++ "`, expected " ++ listed known
  | unknownVariant name known => "unknown variant `" ++ name ++ "`, expected " ++ listed known
  | wrongKind found expected => "invalid type: " ++ found.describe ++ ", expected " ++ expected
  | wrongValue found expected => "invalid value: " ++ found.describe ++ ", expected " ++ expected
  | noVariant => "wanted string or table"

end Fault

def expectString (expected : String) : Toml → Except Fault String
  | string value => .ok value
  | other => .error (.wrongKind other expected)

def expectNatural : Toml → Except Fault Nat
  | integer value =>
    if 0 ≤ value then .ok value.toNat else .error (.wrongValue (.integer value) "u64")
  | other => .error (.wrongKind other "u64")

/-- One of the known names: written as a text, or as the only entry of a table with nothing in it. -/
def expectVariant (known : List String) : Toml → Except Fault String
  | string name => if known.contains name then .ok name else .error (.unknownVariant name known)
  | table [(name, content)] =>
    if known.contains name then
      match content with
      | array [] | table [] => .ok name
      | _ => .error .noVariant
    else .error (.unknownVariant name known)
  | _ => .error .noVariant

def momentField : String := "$__toml_private_datetime"

/-- The fields of a record: the entries of a table, or the items of an array under the known names in
their order. -/
def recordEntries (kind : String) (known : List String) : Toml → Except Fault (List (String × Toml))
  | table entries => .ok entries
  | array items => .ok (known.zip items)
  | moment => .ok [(momentField, .moment)]
  | other => .error (.wrongKind other kind)

end Toml

end ScenarioBench

import ScenarioBench.Bench.Failure
import ScenarioBench.Vocabulary.Names

/-! The environment variables that a run sees.

They are captured once; entries whose name or value is not text are left out.
-/

set_option autoImplicit false

namespace ScenarioBench

/-- Captured environment variables, the last setting of a name first. -/
structure Environment where
  settings : List (String × String)
  deriving Repr, Inhabited

namespace Environment

def empty : Environment := ⟨[]⟩

def set (environment : Environment) (name value : String) : Environment :=
  -- The new setting hides earlier ones of the name, which are kept behind it.
  ⟨(name, value) :: environment.settings⟩

def setMany (environment : Environment) (pairs : List (String × String)) : Environment :=
  pairs.foldl (fun environment (name, value) => environment.set name value) environment

def ofPairs (pairs : List (String × String)) : Environment :=
  empty.setMany pairs

def readPair? (pair : Octets × Octets) : Option (String × String) := do
  return (← pair.1.toText?, ← pair.2.toText?)

def ofRawPairs (pairs : List (Octets × Octets)) : Environment :=
  ofPairs (pairs.filterMap readPair?)

def get? (environment : Environment) (name : String) : Option String :=
  environment.settings.lookup name

/-- The names that are not set, in the order of the request and with its repetitions. -/
def missing (environment : Environment) (names : List String) : List String :=
  names.filter fun name => (environment.get? name).isNone

def require (environment : Environment) (name : String) : Except HarnessError String :=
  match environment.get? name with
  | some value => .ok value
  | none => .error (.missingVariables [name])

def requireAll (environment : Environment) (names : List String) : Except HarnessError Unit :=
  if (environment.missing names).isEmpty then .ok ()
  else .error (.missingVariables (environment.missing names))

def missingSecondDomain (environment : Environment) : Nat :=
  (environment.missing Variable.secondDomain).length

end Environment

end ScenarioBench

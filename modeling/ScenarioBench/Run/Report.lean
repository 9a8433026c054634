import ScenarioBench.Bench.Failure
import ScenarioBench.Data.Decimal
import ScenarioBench.Text.Search

/-! Results of scenarios and the console's report of a run.

A run is reported as a sequence of events. The console turns each event into text: one block per
result, and one closing line with the counts that are not zero.
-/

set_option autoImplicit false

namespace ScenarioBench

inductive FailureDetail where
  | streams (failure : TestFailure)
  | message (text : String)
  deriving DecidableEq, Repr

namespace FailureDetail

def ofError : HarnessError → FailureDetail
  | .failure failure => streams failure
  | other => message other.message

def describe : FailureDetail → String
  | streams failure => failure.describe
  | message text => text

end FailureDetail

inductive ScenarioResult where
  | passed
  | failed (detail : FailureDetail)
  | skipped (reason : String)
  deriving DecidableEq, Repr

namespace ScenarioResult

def isFailure : ScenarioResult → Bool
  | failed _ => true
  | _ => false

theorem isFailure_iff {result : ScenarioResult} :
    result.isFailure = true ↔ ∃ detail, result = .failed detail := by
  cases result <;> simp [isFailure]

end ScenarioResult

structure Summary where
  total : Nat
  passed : Nat
  failed : Nat
  skipped : Nat
  deriving DecidableEq, Repr, Inhabited

namespace Summary

def empty : Summary := ⟨0, 0, 0, 0⟩

def record (summary : Summary) (result : ScenarioResult) : Summary :=
  let counted := { summary with total := summary.total + 1 }
  match result with
  | .passed => { counted with passed := counted.passed + 1 }
  | .failed _ => { counted with failed := counted.failed + 1 }
  | .skipped _ => { counted with skipped := counted.skipped + 1 }

def allPassed (summary : Summary) : Bool :=
  summary.failed = 0

end Summary

inductive RunEvent where
  | collected (count : Nat)
  | started (name : String)
  | completed (name : String) (result : ScenarioResult) (elapsed : Nat)
  | finished (summary : Summary) (elapsed : Nat)
  deriving DecidableEq, Repr

structure Console where
  verbose : Bool
  coloured : Bool
  deriving DecidableEq, Repr

namespace Console

inductive Colour where
  | green
  | red
  | yellow
  deriving DecidableEq, Repr

def Colour.code : Colour → String
  | green => "32"
  | red => "31"
  | yellow => "33"

def paint (console : Console) (colour : Colour) (text : String) : String :=
  if console.coloured then "\x1b[" ++ colour.code ++ "m" ++ text ++ "\x1b[0m" else text

/-- The mark that a failure block is divided at to colour its verdict. -/
def failureMark : String := " fail:"

def failureBlock (console : Console) (name : String) (failure : TestFailure) : String :=
  let report := failure.report name
  match Text.splitAtFirst failureMark report with
  -- The name may hold the mark as well; then the first one is coloured.
  | some (before, after) => before ++ " " ++ console.paint .red "fail" ++ ":" ++ after
  | none => report

def milliseconds (nanoseconds : Nat) : Nat :=
  nanoseconds / 1000000

/-- The seconds of a time: whole seconds and their fraction are rounded on their own, then added. -/
def seconds (nanoseconds : Nat) : Binary64 :=
  .add (.ofNat (nanoseconds / 1000000000))
    (.ofQuotient false (nanoseconds % 1000000000) 1000000000)

def secondsText (nanoseconds : Nat) : String :=
  match seconds nanoseconds with
  | .finite _ mantissa exponent => Decimal.writeFixed 2 mantissa exponent
  | _ => ""

def block (console : Console) (name : String) (result : ScenarioResult) (elapsed : Nat) : String :=
  match result with
  | .passed =>
    name ++ " " ++ console.paint .green "pass"
      ++ (if console.verbose then " (" ++ toString (milliseconds elapsed) ++ "ms)" else "") ++ "\n"
  -- A failure with streams ends its own lines, a message does not.
  | .failed (.streams failure) => console.failureBlock name failure
  | .failed (.message text) =>
    name ++ " " ++ console.paint .red "fail" ++ ":\n\t" ++ text ++ "\n"
  | .skipped reason => name ++ " " ++ console.paint .yellow "skipped" ++ " (" ++ reason ++ ")\n"

def counts (console : Console) (summary : Summary) : List String :=
  [(summary.passed, Colour.green, " passed"), (summary.failed, Colour.red, " failed"),
    (summary.skipped, Colour.yellow, " skipped")].filterMap fun (count, colour, word) =>
      if count = 0 then none else some (console.paint colour (toString count ++ word))

/-- The closing line; a run without results has none. -/
def closing (console : Console) (summary : Summary) (elapsed : Nat) : String :=
  if summary.total = 0 then ""
  else "\n====== " ++ ", ".intercalate (console.counts summary) ++ " in " ++ secondsText elapsed
    ++ "s ======\n"

def render (console : Console) : RunEvent → String
  | .collected count =>
    if count = 0 then "No scenarios collected\n"
    else if console.verbose then "collected " ++ toString count ++ " scenario(s)\n\n" else ""
  | .started name => if console.verbose then name ++ " ...\n" else ""
  | .completed name result elapsed => console.block name result elapsed
  | .finished summary elapsed => console.closing summary elapsed

def report (console : Console) (events : List RunEvent) : String :=
  String.join (events.map console.render)

end Console

end ScenarioBench

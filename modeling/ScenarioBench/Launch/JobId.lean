import ScenarioBench.Bench.Command
import ScenarioBench.Text.Lines

/-! The id of a job in what the instance tool printed.

The id is the last run of digits on the first line that mentions an ID.
-/

set_option autoImplicit false

namespace ScenarioBench.JobId

def mark : List Char := ['I', 'D']

/-- A scan through a line: the last run of digits that has ended, and the digits since then. -/
structure Scan where
  last : Option (List Char)
  current : List Char

namespace Scan

def start : Scan := { last := none, current := [] }

def read (scan : Scan) (character : Char) : Scan :=
  if character.isDigit then { scan with current := scan.current ++ [character] }
  -- Nothing has ended where no digits stand before.
  else if scan.current.isEmpty then scan
  else { last := some scan.current, current := [] }

def finish (scan : Scan) : Option (List Char) :=
  if scan.current.isEmpty then scan.last else some scan.current

end Scan

def lastRun (line : List Char) : Option (List Char) :=
  (line.foldl Scan.read .start).finish

def find? (printed : List Char) : Option (List Char) :=
  ((Text.lines printed).find? (Text.occursIn mark)).bind lastRun

def parse? (printed : String) : Option String :=
  (find? printed.toList).map String.ofList

/-- The id in the output of the tool; standard output goes before standard error. -/
def ofOutput? (output : Output) : Option String :=
  match parse? output.stdout with
  | some id => some id
  | none => parse? output.stderr

end ScenarioBench.JobId

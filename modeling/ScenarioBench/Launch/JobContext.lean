/-! Where a job runs, and how much its runtime traces. -/

set_option autoImplicit false

namespace ScenarioBench

inductive JobContext where
  | distributed
  | service
  | standalone
  deriving DecidableEq, Repr, Inhabited

namespace JobContext

def table : List JobContext :=
  [distributed, service, standalone]

def spelling : JobContext → String
  | distributed => "distributed"
  | service => "streaming-analytics-service"
  | standalone => "standalone"

def ofSpelling? (text : String) : Option JobContext :=
  table.find? fun context => context.spelling == text

@[simp] theorem ofSpelling?_spelling (context : JobContext) :
    ofSpelling? context.spelling = some context := by
  cases context <;> decide

end JobContext

inductive TraceLevel where
  | error
  | warn
  | info
  | debug
  | trace
  deriving DecidableEq, Repr

namespace TraceLevel

def table : List TraceLevel :=
  [error, warn, info, debug, trace]

def spelling : TraceLevel → String
  | error => "error"
  | warn => "warn"
  | info => "info"
  | debug => "debug"
  | trace => "trace"

def ofSpelling? (text : String) : Option TraceLevel :=
  table.find? fun level => level.spelling == text

end TraceLevel

end ScenarioBench

import ScenarioBench.Bench.World
import ScenarioBench.Launch.Topology

/-! Compiling topologies.

The compiler runs in a directory of its own and is told where to put its output, relative to that
directory. What it leaves behind is found from the directory of the process.
-/

set_option autoImplicit false

namespace ScenarioBench

structure Bundle where
  directory : Path
  archive : Path
  executable : Path
  deriving DecidableEq, Repr

structure Compiler where
  program : String
  output : Path
  workdir : Path
  deriving DecidableEq, Repr

namespace Compiler

def ofProgram (program : String) (output : Path) : Compiler :=
  { program := program, output := output, workdir := .ofText "." }

/-- The output directory of a job, seen from the compiler's directory. -/
def outputOf (compiler : Compiler) (topology : Topology) : Path :=
  compiler.output.join (.ofText topology.name)

def toolkitArguments (topology : Topology) : List String :=
  if topology.toolkits.isEmpty then []
  else ["-t", ":".intercalate (topology.toolkits.map Path.display)]

def arguments (compiler : Compiler) (topology : Topology) (standalone : Bool) : List String :=
  ["-M", topology.composite] ++ toolkitArguments topology
    ++ ["--output-directory", (compiler.outputOf topology).display]
    ++ if standalone then ["-T"] else []

def command (compiler : Compiler) (topology : Topology) (standalone : Bool) : Command :=
  { program := compiler.program, arguments := compiler.arguments topology standalone
    directory := compiler.workdir }

def bundle (compiler : Compiler) (topology : Topology) : Bundle :=
  -- The compiler saw its output from its own directory; here it is seen from that of the process.
  let directory := compiler.workdir.join (compiler.outputOf topology)
  { directory := directory
    archive := directory.join (.ofText (Composite.bundleStem topology.composite ++ ".sab"))
    executable := (directory.join (.ofText "bin")).join (.ofText "standalone") }

def build (compiler : Compiler) (runner : CommandRunner) (topology : Topology)
    (standalone : Bool) : Act LaunchError Bundle := do
  let output ← (runner.issue (compiler.command topology standalone)).mapError .harness
  if output.success then return compiler.bundle topology
  else throw (.build topology.composite output.stderr)

end Compiler

end ScenarioBench

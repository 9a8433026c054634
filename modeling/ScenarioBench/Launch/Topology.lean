import ScenarioBench.Launch.Error
import ScenarioBench.Vocabulary.Composite

/-! Jobs that run one external composite.

A topology names the job, its main composite, the toolkits to search and the parameters of the
submission. A toolkit is searched once, at its first mention; two paths with the same parts are one
toolkit.
-/

set_option autoImplicit false

namespace ScenarioBench

structure Topology where
  name : String
  composite : String
  toolkits : List Path
  parameters : Dictionary String
  deriving DecidableEq

namespace Topology

def ofComposite (name kind : String) : Except LaunchError Topology :=
  match Composite.splitKind? kind with
  | some _ => .ok { name := name, composite := kind, toolkits := [], parameters := .empty }
  | none => .error (.composite kind)

def searches (topology : Topology) (toolkit : Path) : Bool :=
  topology.toolkits.any fun known => known.same toolkit

def addToolkit (topology : Topology) (toolkit : Path) : Topology :=
  if topology.searches toolkit then topology
  else { topology with toolkits := topology.toolkits ++ [toolkit] }

def addToolkits (topology : Topology) (toolkits : List Path) : Topology :=
  toolkits.foldl addToolkit topology

def setParameters (topology : Topology) (settings : List (String × String)) : Topology :=
  { topology with parameters := topology.parameters.insertMany settings }

def parameterArguments (topology : Topology) : List String :=
  topology.parameters.entries.map fun (name, value) => name ++ "=" ++ value

end Topology

end ScenarioBench

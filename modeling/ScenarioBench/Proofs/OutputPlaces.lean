import Mathlib
import ScenarioBench.Proofs.CompositeNames
import ScenarioBench.Proofs.PathResolution
import ScenarioBench.Proofs.Submitting

/-! What a compilation writes, and what is used afterwards.

The compiler, the instance tool and a standalone job run in three directories, and each is given paths of its own.
Main statement: the directory that the compiler is told to write to is the one that the bundle names, the archive that
the instance tool is given is in it unless the composite begins with a separator, and a standalone job is the
executable in it and runs in that very directory.
-/

set_option autoImplicit false

namespace ScenarioBench

/-- What a command, in its own directory, takes a text for. -/
def Command.Finds (command : Command) (tree : FileTree) (text : String) (spot : Spot) : Prop :=
  ∃ place, tree.Denotes tree.base command.directory (.taken place .directory) ∧
    tree.Denotes place (.ofText text) spot

namespace Command

variable {command : Command} {tree : FileTree} {text : String} {place : Location} {spot : Spot}

theorem finds_iff (runs : tree.Denotes tree.base command.directory (.taken place .directory)) :
    command.Finds tree text spot ↔ tree.Denotes place (.ofText text) spot := by
  constructor
  · rintro ⟨other, runsToo, denotes⟩
    cases runs.unique runsToo
    exact denotes
  · exact fun denotes => ⟨place, runs, denotes⟩

end Command

namespace Compiler

def outputOption? : List String → Option String
  | "-M" :: _ :: rest => outputOption? rest
  | "-t" :: _ :: rest => outputOption? rest
  | "--output-directory" :: directory :: _ => some directory
  | _ => none

variable {compiler : Compiler} {topology : Topology}

theorem outputOption?_arguments (compiler : Compiler) (topology : Topology) (standalone : Bool) :
    outputOption? (compiler.arguments topology standalone) = some (compiler.outputOf topology).display := by
  unfold arguments toolkitArguments
  split <;> rfl

/-- A compilation is told to put its output in a directory. -/
def WritesTo (compiler : Compiler) (topology : Topology) (standalone : Bool) (tree : FileTree)
    (directory : Location) : Prop :=
  ∃ told, outputOption? (compiler.command topology standalone).arguments = some told ∧
    (compiler.command topology standalone).Finds tree told (.taken directory .directory)

theorem finds_output_iff {tree : FileTree} {place : Location} {spot : Spot} (standalone : Bool)
    (text : compiler.output.octets.IsText)
    (runs : tree.Denotes tree.base compiler.workdir (.taken place .directory)) :
    (compiler.command topology standalone).Finds tree (compiler.outputOf topology).display spot ↔
      tree.Denotes tree.base (compiler.bundle topology).directory spot := by
  have spelled : Path.ofText (compiler.outputOf topology).display = compiler.outputOf topology :=
    Path.ofText_display (Path.isText_join text (Octets.isText_ofText topology.name))
  rw [Command.finds_iff runs, spelled]
  exact (FileTree.denotes_join runs _).symm

theorem WritesTo.denotes {standalone : Bool} {tree : FileTree} {directory : Location}
    (writes : compiler.WritesTo topology standalone tree directory) (text : compiler.output.octets.IsText) :
    tree.Denotes tree.base (compiler.bundle topology).directory (.taken directory .directory) := by
  obtain ⟨told, read, place, runs, denotes⟩ := writes
  have same := (outputOption?_arguments compiler topology standalone).symm.trans read
  cases same
  exact (finds_output_iff standalone text runs).1 ⟨place, runs, denotes⟩

theorem isText_directory (compiler : Compiler) (topology : Topology) (output : compiler.output.octets.IsText)
    (workdir : compiler.workdir.octets.IsText) : (compiler.bundle topology).directory.octets.IsText :=
  Path.isText_join workdir (Path.isText_join output (Octets.isText_ofText topology.name))

/-- The archive is inside the output directory unless the composite begins with a separator. -/
theorem denotes_archive_iff {tree : FileTree} {here directory : Location} {spot : Spot}
    (denotes : tree.Denotes here (compiler.bundle topology).directory (.taken directory .directory))
    (inside : topology.composite.toList.head? ≠ some '/') :
    tree.Denotes here (compiler.bundle topology).archive spot ↔
      tree.Arrives directory (Path.ofText (Composite.bundleStem topology.composite ++ ".sab")).names spot := by
  have relative : (Path.ofText (Composite.bundleStem topology.composite ++ ".sab")).isAbsolute = false := by
    -- The name of the archive begins as the stem does, and with a period where the stem is empty.
    refine Bool.eq_false_iff.2 fun absolute => inside (Composite.head?_of_stem ?_)
    have first := Path.head?_of_isAbsolute absolute
    rw [String.toList_append, Composite.toList_bundleStem] at first
    rcases whole : Composite.stem topology.composite.toList with _ | ⟨head, rest⟩ <;> rw [whole] at first
    · cases first
    · exact first
  have unslashed : (Path.ofText (Composite.bundleStem topology.composite ++ ".sab")).endsWithSlash = false := by
    have last : (Octets.ofText ".sab").getLast? = some 0x62 := by decide
    rw [Path.endsWithSlash, Path.ofText, Octets.ofText_append, List.getLast?_append, last]
    rfl
  have steps : FileTree.steps (Path.ofText (Composite.bundleStem topology.composite ++ ".sab")) =
      (Path.ofText (Composite.bundleStem topology.composite ++ ".sab")).names := by
    rw [FileTree.steps, unslashed]
    exact List.append_nil _
  refine (FileTree.denotes_join denotes _).trans ?_
  rw [FileTree.Denotes, relative, steps]
  rfl

theorem isAbsolute_executable (compiler : Compiler) (topology : Topology) :
    (compiler.bundle topology).executable.isAbsolute = (compiler.bundle topology).directory.isAbsolute := by
  have bin : Path.IsName (Octets.ofText "bin") := by decide
  have standalone : Path.IsName (Octets.ofText "standalone") := by decide
  show (Path.join (Path.join _ ⟨_⟩) ⟨_⟩).isAbsolute = _
  rw [Path.isAbsolute_join_relative _ standalone.relative, Path.isAbsolute_join_relative _ bin.relative]
  rfl

theorem denotes_executable_iff {tree : FileTree} {here directory : Location} {spot : Spot}
    (denotes : tree.Denotes here (compiler.bundle topology).directory (.taken directory .directory)) :
    tree.Denotes here (compiler.bundle topology).executable spot ↔
      tree.Arrives directory [Octets.ofText "bin", Octets.ofText "standalone"] spot := by
  have bin : Path.IsName (Octets.ofText "bin") := by decide
  have standalone : Path.IsName (Octets.ofText "standalone") := by decide
  have unslashed : (compiler.bundle topology).executable.endsWithSlash = false := Path.endsWithSlash_join _ standalone
  have steps : FileTree.steps (compiler.bundle topology).executable =
      (compiler.bundle topology).directory.names ++ [Octets.ofText "bin", Octets.ofText "standalone"] := by
    rw [FileTree.steps, unslashed]
    show (Path.join (Path.join _ ⟨_⟩) ⟨_⟩).names ++ [] = _
    rw [(Path.names_join _ standalone).1, (Path.names_join _ bin).1, List.append_nil, List.append_assoc]
    rfl
  rw [FileTree.Denotes, isAbsolute_executable, steps, FileTree.arrives_append denotes.arrives]

section
variable {tree : FileTree} {directory place : Location} {spot : Spot} {command : Command} {standalone : Bool}
  (output : compiler.output.octets.IsText) (workdir : compiler.workdir.octets.IsText)
include output workdir

theorem finds_archive_iff (runs : tree.Denotes tree.base command.directory (.taken tree.base .directory))
    (writes : compiler.WritesTo topology standalone tree directory)
    (inside : topology.composite.toList.head? ≠ some '/') :
    command.Finds tree (compiler.bundle topology).archive.display spot ↔
      tree.Arrives directory (Path.ofText (Composite.bundleStem topology.composite ++ ".sab")).names spot := by
  have text := Path.isText_join (isText_directory compiler topology output workdir)
    (Octets.isText_ofText (Composite.bundleStem topology.composite ++ ".sab"))
  have spelled : Path.ofText (compiler.bundle topology).archive.display = (compiler.bundle topology).archive :=
    Path.ofText_display text
  rw [Command.finds_iff runs, spelled, denotes_archive_iff (writes.denotes output) inside]

theorem finds_executable_iff {executable : Path}
    (made : tree.absolute (compiler.bundle topology).executable = .ok executable) (grounded : tree.Grounded)
    (known : (compiler.bundle topology).directory.isAbsolute = true ∨ tree.basePath.octets.IsText)
    (writes : compiler.WritesTo topology standalone tree directory)
    (runs : tree.Denotes tree.base command.directory (.taken place .directory)) :
    command.Finds tree executable.display spot ↔
      tree.Arrives directory [Octets.ofText "bin", Octets.ofText "standalone"] spot := by
  have standalone : Path.IsName (Octets.ofText "standalone") := by decide
  have text : (compiler.bundle topology).executable.octets.IsText :=
    Path.isText_join (Path.isText_join (isText_directory compiler topology output workdir) (Octets.isText_ofText "bin"))
      (Octets.isText_ofText "standalone")
  have read := known.imp_left (isAbsolute_executable compiler topology).trans
  have spelled : Path.ofText executable.display = executable :=
    Path.ofText_display (Path.isText_of_absolute text read made)
  -- The program is absolute, so that the directory it is started in does not matter.
  have same : tree.Denotes place executable spot ↔
      tree.Denotes tree.base (compiler.bundle topology).executable spot :=
    FileTree.denotes_absolute made (Path.getLast?_names_join _ standalone) (by decide)
      (Path.endsWithSlash_join _ standalone) (.inr grounded)
  rw [Command.finds_iff runs, spelled, same, denotes_executable_iff (writes.denotes output)]

end

/-- The compiler is told to write where its output is looked for. The archive that the instance tool is given is in that
directory unless the composite begins with a separator; the executable that runs as a standalone job is in it, and runs
in it. -/
theorem outputs_are_found (compiler : Compiler) (topology : Topology) (output : compiler.output.octets.IsText)
    (workdir : compiler.workdir.octets.IsText) :
    (∀ runner standalone world bundle after, compiler.build runner topology standalone world = (.ok bundle, after) →
      after.commands = world.commands ++ [compiler.command topology standalone] ∧
      ∃ told, outputOption? (compiler.command topology standalone).arguments = some told ∧
        ∀ (tree : FileTree) place, tree.Denotes tree.base compiler.workdir (.taken place .directory) →
          ∀ spot, (compiler.command topology standalone).Finds tree told spot ↔
            tree.Denotes tree.base bundle.directory spot) ∧
    (∀ tool : Streamtool, tool.compiler = compiler → ∀ network config world, ∃ command archive refusal value,
      Planned tool.runner network [.compile compiler topology false, .run command refusal] value world
        (tool.submit topology config world).1 (tool.submit topology config world).2 ∧
      ["submitjob", archive] <+: command.arguments ∧
      ∀ (tree : FileTree) directory, tree.Grounded → compiler.WritesTo topology false tree directory →
        topology.composite.toList.head? ≠ some '/' →
        ∀ spot, command.Finds tree archive spot ↔
          tree.Arrives directory (Path.ofText (Composite.bundleStem topology.composite ++ ".sab")).names spot) ∧
    ∀ job : Standalone, job.compiler = compiler → ∀ network config world, ∃ command value,
      Planned job.runner network [.compile compiler topology true, .run command none] value world
        (job.submit topology config world).1 (job.submit topology config world).2 ∧
      ∀ tree directory,
        tree = ((Stage.compile compiler topology true).perform job.runner network world).2.tree →
        tree.Grounded → (compiler.bundle topology).directory.isAbsolute = true ∨ tree.basePath.octets.IsText →
        compiler.WritesTo topology true tree directory →
        tree.Denotes tree.base command.directory (.taken directory .directory) ∧
          ∀ spot, command.Finds tree command.program spot ↔
            tree.Arrives directory [Octets.ofText "bin", Octets.ofText "standalone"] spot := by
  refine ⟨fun runner standalone world bundle after built => ?_, ?_, ?_⟩
  · obtain ⟨ending, left, performed, ended⟩ :=
      build_apply runner Http.unreachable world compiler topology standalone
    rw [ended] at built
    rcases ending with cause | answer
    · cases built
    · cases built
      exact ⟨Stage.perform_commands performed, _, outputOption?_arguments compiler topology standalone,
        fun tree place runs spot => finds_output_iff standalone output runs⟩
  · rintro tool rfl network config world
    refine ⟨_, (tool.compiler.bundle topology).archive.display, _, _,
      tool.submit_planned network world topology config, ?_, fun tree directory grounded writes inside spot => ?_⟩
    · exact ⟨_, by simp only [Streamtool.submitArguments, List.append_assoc]; rfl⟩
    · exact finds_archive_iff output workdir grounded.denotes writes inside
  · rintro job rfl network config world
    obtain ⟨executable, made, planned⟩ := job.submit_planned network world topology config
    refine ⟨_, _, planned, ?_⟩
    rintro tree directory rfl grounded known writes
    have runs := writes.denotes output
    exact ⟨runs, fun spot => finds_executable_iff output workdir made grounded known writes runs⟩

def besideCompiler : Compiler :=
  { program := "sc", output := .ofText ".//out", workdir := .ofText "../tk/" }

def besideTree : FileTree where
  entries := [
    ([Octets.ofText "w"], .directory),
    ([Octets.ofText "run", Octets.ofText "w"], .directory),
    ([Octets.ofText "tk", Octets.ofText "w"], .directory),
    ([Octets.ofText "out", Octets.ofText "tk", Octets.ofText "w"], .link (.ofText "/data")),
    ([Octets.ofText "data"], .directory),
    ([Octets.ofText "job", Octets.ofText "data"], .directory),
    ([Octets.ofText "bin", Octets.ofText "job", Octets.ofText "data"], .directory)]
  base := [Octets.ofText "run", Octets.ofText "w"]
  distinct := by decide
  named := by decide
  baseNamed := by decide

theorem outputs_are_found_besideTree :
    besideTree.Grounded ∧
    (∀ standalone,
      besideCompiler.WritesTo wordyJob standalone besideTree [Octets.ofText "job", Octets.ofText "data"]) ∧
    besideTree.Denotes besideTree.base (besideCompiler.bundle wordyJob).directory
      (.taken [Octets.ofText "job", Octets.ofText "data"] .directory) ∧
    (∃ (command : Command) (archive : String), ["submitjob", archive] <+: command.arguments ∧
      command.Finds besideTree archive
        (.free [Octets.ofText "job", Octets.ofText "data"] (Octets.ofText "a.B.sab"))) ∧
    ∃ command : Command, command.Finds besideTree command.program
      (.free [Octets.ofText "bin", Octets.ofText "job", Octets.ofText "data"] (Octets.ofText "standalone")) := by
  have texts : besideCompiler.output.octets.IsText ∧ besideCompiler.workdir.octets.IsText :=
    ⟨Octets.isText_ofText _, Octets.isText_ofText _⟩
  have grounded : besideTree.Grounded := ⟨0, by cbv⟩
  have runs : besideTree.Denotes besideTree.base besideCompiler.workdir
    (.taken [Octets.ofText "tk", Octets.ofText "w"] .directory) := ⟨0, by cbv⟩
  have denotes : besideTree.Denotes besideTree.base (besideCompiler.bundle wordyJob).directory
    (.taken [Octets.ofText "job", Octets.ofText "data"] .directory) := ⟨1, by cbv⟩
  have writes (standalone : Bool) :
      besideCompiler.WritesTo wordyJob standalone besideTree [Octets.ofText "job", Octets.ofText "data"] :=
    ⟨_, outputOption?_arguments _ _ _, (finds_output_iff standalone texts.1 runs).2 denotes⟩
  have baseText : besideTree.basePath.octets.IsText := (Octets.isText_iff_toText? _).2 (by decide)
  obtain ⟨built, archived, executed⟩ := outputs_are_found besideCompiler wordyJob texts.1 texts.2
  refine ⟨grounded, writes, ?_, ?_, ?_⟩
  · have compiled : besideCompiler.build wordyTool.runner wordyJob false (.fresh besideTree) =
        (.ok (besideCompiler.bundle wordyJob), _) := rfl
    obtain ⟨-, told, read, same⟩ := built _ _ _ _ _ compiled
    obtain ⟨other, readToo, finds⟩ := writes false
    cases read.symm.trans readToo
    exact (same besideTree _ runs _).1 finds
  · obtain ⟨command, archive, -, -, -, given, finds⟩ :=
      archived { wordyTool with compiler := besideCompiler } rfl Http.unreachable .empty (.fresh besideTree)
    exact ⟨command, archive, given,
      (finds besideTree _ grounded (writes false) (by decide) _).2 ⟨0, by cbv⟩⟩
  · obtain ⟨command, -, -, finds⟩ :=
      executed ⟨wordyTool.runner, besideCompiler⟩ rfl Http.unreachable .empty (.fresh besideTree)
    exact ⟨command, ((finds besideTree _ rfl grounded (.inr baseText) (writes true)).2 _).2 ⟨0, by cbv⟩⟩

def rootedJob : Topology :=
  { name := "T", composite := "/a::B", toolkits := [], parameters := .empty }

def plainTool : Streamtool :=
  { wordyTool with compiler := .ofProgram "sc" (.ofText "output") }

def outputTree : FileTree where
  entries := [
    ([Octets.ofText "output"], .directory),
    ([Octets.ofText "T", Octets.ofText "output"], .directory)]
  base := []
  distinct := by decide
  named := by decide
  baseNamed := FileTree.named_nil

/-- The archive of such a topology is looked for in the root directory, outside the output directory. -/
theorem archive_escapes_output :
    Topology.ofComposite "T" "/a::B" = .ok rootedJob ∧ outputTree.Grounded ∧
    plainTool.compiler.WritesTo rootedJob false outputTree [Octets.ofText "T", Octets.ofText "output"] ∧
    ["submitjob", "/a.B.sab"] <+:
      plainTool.submitArguments (plainTool.compiler.bundle rootedJob).archive.display rootedJob .empty ∧
    outputTree.Denotes outputTree.base (.ofText "/a.B.sab") (.free [] (Octets.ofText "a.B.sab")) ∧
    ¬ outputTree.Arrives [Octets.ofText "T", Octets.ofText "output"] (Path.ofText "/a.B.sab").names
      (.free [] (Octets.ofText "a.B.sab")) := by
  have grounded : outputTree.Grounded := ⟨0, by cbv⟩
  have denotes : outputTree.Denotes outputTree.base (plainTool.compiler.bundle rootedJob).directory
    (.taken [Octets.ofText "T", Octets.ofText "output"] .directory) := ⟨0, by cbv⟩
  have inside : outputTree.Arrives [Octets.ofText "T", Octets.ofText "output"] (Path.ofText "/a.B.sab").names
    (.free [Octets.ofText "T", Octets.ofText "output"] (Octets.ofText "a.B.sab")) := ⟨0, by cbv⟩
  have archive : (plainTool.compiler.bundle rootedJob).archive = .ofText "/a.B.sab" := by cbv
  have shown : (Path.ofText "/a.B.sab").display = "/a.B.sab" :=
    Octets.ofText_injective (Octets.isText_ofText "/a.B.sab").ofText_lossy
  refine ⟨rfl, grounded, ⟨_, outputOption?_arguments _ _ _, ?_⟩, ?_, ⟨0, by cbv⟩, fun outside => ?_⟩
  · exact (finds_output_iff false (Octets.isText_ofText _) grounded.denotes).2 denotes
  · rw [archive, shown]
    exact ⟨_, rfl⟩
  · exact absurd (inside.unique outside) (by decide)

end Compiler

end ScenarioBench

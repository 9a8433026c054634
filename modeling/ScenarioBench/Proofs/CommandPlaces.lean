import Mathlib
import ScenarioBench.Proofs.AbsolutePaths
import ScenarioBench.Proofs.Gates
import ScenarioBench.Proofs.Procedures
import ScenarioBench.Proofs.Removal
import ScenarioBench.Proofs.Reporting

/-! Where commands run, and what they are.

A scenario whose phases are procedures runs each of its commands in the absolute form of its own directory:
targets of the build tool, and executables found there. Main statement: this holds for every scenario of a run,
the final target included, whatever ran before it.
-/

set_option autoImplicit false

namespace ScenarioBench

namespace Procedures

def whole (procedures : Procedures) : Procedure Unit :=
  procedures.setup.andThen fun began =>
    match began with
    | .error cause => .settled (.error cause)
    | .ok () =>
      procedures.run.andThen fun ran =>
        procedures.teardown.andThen fun cleared =>
          match ran, cleared with
          | .ok (), .ok () => .step (.require .clean []) fun ending => .settled (ending.map fun _ => ())
          | .ok (), .error cause => .settled (.error cause)
          | .error cause, _ => .settled (.error cause)

theorem makeClean_eq (context : Context) (world : World) :
    context.makeClean world =
      (((Step.require .clean []).perform context world).1.map (fun _ => ()),
        ((Step.require .clean []).perform context world).2) := by
  rw [Step.perform, Action.bind_apply, Context.makeClean]
  rcases context.require .clean [] world with ⟨cause | value, after⟩ <;> rfl

theorem phases_eq {scenario : Scenario} {procedures : Procedures} (worked : scenario.Worked procedures)
    (context : Context) :
    Dispatcher.phases scenario context = procedures.whole.perform context := by
  funext world
  rw [whole, Procedure.perform_andThen, ← worked.setup]
  rcases began : scenario.setup context world with ⟨cause | value, afterSetup⟩
  · exact Dispatcher.phases_of_setup_error began
  · dsimp only
    rw [Procedure.perform_andThen, ← worked.run]
    rcases ran : scenario.run context afterSetup with ⟨run, afterRun⟩
    dsimp only
    rw [Procedure.perform_andThen, ← worked.teardown]
    rcases cleared : scenario.teardown context afterRun with ⟨teardown, settled⟩
    rw [Dispatcher.phases_of_setup_ok began ran cleared]
    rcases run with cause | value
    · rfl
    · rcases teardown with cause | value
      · rfl
      · exact makeClean_eq context settled

theorem getLast?_steps_whole {procedures : Procedures} {context : Context} {world : World}
    (passed : (procedures.whole.perform context world).1 = .ok ()) :
    (procedures.whole.steps context world).getLast? = some (.require .clean []) := by
  revert passed
  rw [whole, Procedure.perform_andThen, Procedure.steps_andThen]
  rcases procedures.setup.perform context world with ⟨cause | value, afterSetup⟩
  · exact nofun
  dsimp only
  rw [Procedure.perform_andThen, Procedure.steps_andThen]
  rcases procedures.run.perform context afterSetup with ⟨run, afterRun⟩
  dsimp only
  rw [Procedure.perform_andThen, Procedure.steps_andThen]
  rcases procedures.teardown.perform context afterRun with ⟨teardown, settled⟩
  rcases run with cause | value
  · exact nofun
  · rcases teardown with cause | value
    · exact nofun
    · intro _
      simp [Procedure.steps]

end Procedures

/-! ### The directory that relative paths are read from -/

def World.SameBase (before after : World) : Prop :=
  after.tree.base = before.tree.base

instance : Std.Refl World.SameBase :=
  ⟨fun _ => rfl⟩

instance : Trans World.SameBase World.SameBase World.SameBase :=
  ⟨fun first second => Eq.trans second first⟩

/-- Commands leave the directory of their caller alone. -/
def CommandRunner.KeepsBase (runner : CommandRunner) : Prop :=
  ∀ earlier tree command, (runner earlier tree command).tree.base = tree.base

theorem Act.changeTree_sameBase {ε α : Type} {convert : OsError → ε}
    {change : FileTree → Except OsError (FileTree × α)}
    (kept : ∀ tree after value, change tree = .ok (after, value) → after.base = tree.base) :
    Action.Follows (Act.changeTree convert change) World.SameBase := by
  intro world
  rw [Act.changeTree]
  split
  · rename_i tree value changed
    exact kept _ _ _ changed
  · rfl

namespace ScratchFiles

theorem remove_sameBase (path : Path) : Action.Follows (remove path) World.SameBase := by
  intro world
  rw [remove_apply]
  split
  · rename_i tree removed
    exact (within_of_removeFrom removed).base
  · rfl

theorem removeMatching_sameBase (directory : Path) (pattern : String) :
    Action.Follows (removeMatching directory pattern) World.SameBase := by
  have each : ∀ names, Action.Follows (removeEach directory names) World.SameBase := by
    intro names
    induction names with
    | nil => exact .pure 0
    | cons name rest ih => exact .bind (remove_sameBase _) fun _ => .bind ih fun _ => .pure _
  refine .bind .look fun world => ?_
  split
  · exact each _
  · exact .pure 0
  · exact .throw _

end ScratchFiles

theorem FileTree.base_of_write {tree after : FileTree} {path : Path} {content : Octets}
    (written : tree.write path content = .ok after) : after.base = tree.base := by
  unfold write at written
  split at written <;> cases written <;> rfl

theorem Step.perform_sameBase {context : Context} (kept : context.runner.KeepsBase) (operation : Step) :
    Action.Follows (operation.perform context) World.SameBase := by
  have issued : ∀ command, Action.Follows (context.runner.issue command) World.SameBase :=
    fun command world => kept world.commands world.tree command
  cases operation with
  | invoke spelling extra =>
    simp only [perform]
    split
    · exact .bind (issued _) fun _ => .pure _
    · exact .pure _
  | makeAll | makeBuild | runStandalone arguments | runMonitorStandalone arguments =>
    exact .bind (issued _) fun _ => .pure _
  | require target extra =>
    exact .bind (.bind (issued _) fun _ => .settled _) fun _ => .pure _
  | credentialArguments | lookUp name => exact .bind (.settled _) fun _ => .pure _
  | waitFor name => exact .bind (context.waitFor_follows _) fun _ => .pure _
  | resultCode name => exact .bind (context.resultCode_follows _) fun _ => .pure _
  | requireSentinel name => exact .bind (context.requireSentinel_follows _) fun _ => .pure _
  | remove name => exact .bind (ScratchFiles.remove_sameBase _) fun _ => .pure _
  | removeMatching pattern => exact .bind (ScratchFiles.removeMatching_sameBase _ _) fun _ => .pure _
  | removeLogArchives => exact .bind (ScratchFiles.removeMatching_sameBase _ _) fun _ => .pure _
  | path name | workdir => exact .pure _
  | write name text =>
    refine Act.changeTree_sameBase fun tree after value changed => ?_
    rcases written : tree.write (context.path name) (.ofText text) with cause | whole
    · rw [written] at changed
      cases changed
    · rw [written] at changed
      cases changed
      exact FileTree.base_of_write written
  | cancel => exact fun _ => rfl
  | fail stdout stderr => exact .throw _

theorem Procedure.perform_sameBase {α : Type} {context : Context} (kept : context.runner.KeepsBase)
    (procedure : Procedure α) : Action.Follows (procedure.perform context) World.SameBase := by
  induction procedure with
  | settled ending => exact .settled ending
  | step operation next ih =>
    exact fun world => Trans.trans (operation.perform_sameBase kept world) (ih _ _)
  | note entry next ih => exact fun world => ih _

/-! ### Dispatched scenarios -/

/-- A command of the build tool, or of an executable in the directory that it runs in. -/
structure Command.Placed (make : String) (workdir : Path) (command : Command) : Prop where
  directory : command.directory = workdir
  form : (command.program = make ∧
      ∃ target ∈ Target.table, ∃ extra, command.arguments = target.spelling :: extra) ∨
    ∃ relative ∈ ["output/bin/standalone", "output/monitor/bin/standalone"],
      command.program = (workdir.join (.ofText relative)).display

theorem Step.placed_of_command? {operation : Step} {make : String} {workdir : Path} {command : Command}
    (known : operation.command? make workdir = some command) : command.Placed make workdir := by
  cases operation with
  | invoke spelling extra =>
    obtain ⟨target, -, rfl⟩ := Option.map_eq_some_iff.1 known
    exact ⟨rfl, .inl ⟨rfl, target, target.mem_table, extra, rfl⟩⟩
  | makeAll =>
    cases known
    exact ⟨rfl, .inl ⟨rfl, .all, Target.all.mem_table, [], rfl⟩⟩
  | makeBuild =>
    cases known
    exact ⟨rfl, .inl ⟨rfl, .build, Target.build.mem_table, [], rfl⟩⟩
  | require target extra =>
    cases known
    exact ⟨rfl, .inl ⟨rfl, target, target.mem_table, extra, rfl⟩⟩
  | runStandalone arguments =>
    cases known
    exact ⟨rfl, .inr ⟨_, List.mem_cons_self, rfl⟩⟩
  | runMonitorStandalone arguments =>
    cases known
    exact ⟨rfl, .inr ⟨_, List.mem_cons_of_mem _ List.mem_cons_self, rfl⟩⟩
  | _ => cases known

namespace Dispatcher

/-- What running a scenario between two worlds comes to, as far as its commands are concerned. -/
structure Attended (dispatcher : Dispatcher) (scenario : Scenario) (procedures : Procedures)
    (root : Path) (world : World) (workdir : Path) (operations : List Step) (result : ScenarioResult)
    (after : World) : Prop where
  located : world.tree.absolute (root.join (.ofText scenario.directory)) = .ok workdir
  absolute : workdir.isAbsolute = true
  performed : operations = procedures.whole.steps (dispatcher.contextIn workdir) world
  commands : after.commands =
    world.commands ++ operations.filterMap (Step.command? dispatcher.make workdir)
  placed : ∀ command ∈ operations.filterMap (Step.command? dispatcher.make workdir),
    command.Placed dispatcher.make workdir
  cleaned : result = .passed → operations.getLast? = some (.require .clean [])
  exact : root.octets.IsText → root.isAbsolute = true ∨ world.tree.basePath.octets.IsText →
    ∀ relative, Path.ofText (workdir.join (.ofText relative)).display =
      workdir.join (.ofText relative) ∧ (workdir.join (.ofText relative)).isAbsolute = true

variable {dispatcher : Dispatcher} {procedures : String → Procedures} {root : Path} {name : String}
  {world : World}

theorem attended {scenario : Scenario} (worked : scenario.Worked (procedures name))
    (admitted : dispatcher.Admits root world.tree name scenario) :
    ∃ workdir operations, Attended dispatcher scenario (procedures name) root world workdir operations
      (dispatcher.runScenario root name world).1 (dispatcher.runScenario root name world).2 := by
  obtain ⟨workdir, whole, ran⟩ := admitted.runScenario
  have absolute := FileTree.isAbsolute_of_absolute whole
  refine ⟨workdir, _, whole, absolute, rfl, ?_, ?_, ?_, ?_⟩
  · rw [ran, Procedures.phases_eq worked]
    exact Procedure.perform_commands _ _ _
  · intro command issued
    obtain ⟨operation, -, known⟩ := List.mem_filterMap.1 issued
    exact Step.placed_of_command? known
  · intro passed
    rw [ran, Procedures.phases_eq worked] at passed
    apply Procedures.getLast?_steps_whole
    rcases ended : ((procedures name).whole.perform (dispatcher.contextIn workdir) world).1
      with cause | value
    · rw [ended] at passed
      cases passed
    · rfl
  · -- The program is displayed, which loses nothing of a path that is text.
    intro rootText read relative
    have directory : (root.join (.ofText scenario.directory)).octets.IsText :=
      Path.isText_join rootText (Octets.isText_ofText _)
    have start : (root.join (.ofText scenario.directory)).isAbsolute = true ∨
        world.tree.basePath.octets.IsText :=
      read.imp_left fun rooted => Path.isAbsolute_join rooted _
    have text := Path.isText_of_absolute directory start whole
    exact ⟨Path.ofText_display (Path.isText_join text (Octets.isText_ofText _)),
      Path.isAbsolute_join absolute _⟩

/-- A name that is dispatched is refused, or its scenario is attended to in its own directory. -/
def Dispatched (dispatcher : Dispatcher) (procedures : Procedures) (root : Path) (name : String)
    (world : World) (result : ScenarioResult) (after : World) : Prop :=
  after = world ∨ ∃ scenario workdir operations,
    dispatcher.registry.scenario? name = some scenario ∧
    Attended dispatcher scenario procedures root world workdir operations result after

def Works (dispatcher : Dispatcher) (procedures : String → Procedures) : Prop :=
  ∀ name scenario, dispatcher.registry.scenario? name = some scenario →
    scenario.Worked (procedures name)

theorem exists_works (toolkit : dispatcher.registry = Catalogue.registry) :
    ∃ procedures, dispatcher.Works procedures := by
  have each : ∀ name, ∃ procedures : Procedures, ∀ scenario,
      dispatcher.registry.scenario? name = some scenario → scenario.Worked procedures := by
    intro name
    rw [toolkit]
    rcases found : Catalogue.registry.scenario? name with _ | scenario
    · exact ⟨⟨.settled (.ok ()), .settled (.ok ()), .settled (.ok ())⟩, nofun⟩
    · obtain ⟨procedures, worked⟩ :=
        Catalogue.worked_of_mem_scenarios (Catalogue.mem_of_scenario?_registry found)
      exact ⟨procedures, fun _ same => Option.some.inj same ▸ worked⟩
  choose procedures worked using each
  exact ⟨procedures, worked⟩

theorem dispatched (works : dispatcher.Works procedures) (root : Path) (name : String)
    (world : World) :
    Dispatched dispatcher (procedures name) root name world
      (dispatcher.runScenario root name world).1 (dispatcher.runScenario root name world).2 := by
  rcases dispatcher.refusal_or_admits root world.tree name with ⟨result, refusal⟩ | ⟨scenario, admitted⟩
  · rw [refusal.runScenario]
    exact .inl rfl
  · obtain ⟨workdir, operations, attended⟩ := attended (works name scenario admitted.registered) admitted
    exact .inr ⟨scenario, workdir, operations, admitted.registered, attended⟩

theorem runScenario_sameBase (works : dispatcher.Works procedures)
    (kept : dispatcher.runner.KeepsBase) (root : Path) (name : String) (world : World) :
    world.SameBase (dispatcher.runScenario root name world).2 := by
  rcases dispatcher.refusal_or_admits root world.tree name with ⟨result, refusal⟩ | ⟨scenario, admitted⟩
  · rw [refusal.runScenario]
    exact Std.Refl.refl world
  · obtain ⟨workdir, -, ran⟩ := admitted.runScenario
    rw [ran, Procedures.phases_eq (works name scenario admitted.registered)]
    exact Procedure.perform_sameBase kept _ world

theorem InTurn.sameBase {last : World} {results : List (String × ScenarioResult)}
    (works : dispatcher.Works procedures) (kept : dispatcher.runner.KeepsBase)
    (turns : InTurn dispatcher root world results last) : world.SameBase last := by
  induction turns with
  | nil => exact Std.Refl.refl _
  | @cons world _ _ name _ _ dispatched _ ih =>
    have first := runScenario_sameBase works kept root name world
    rw [dispatched] at first
    exact Trans.trans first ih

theorem InTurn.split {last : World} {first second : List (String × ScenarioResult)}
    (turns : InTurn dispatcher root world (first ++ second) last) :
    ∃ between, InTurn dispatcher root world first between ∧
      InTurn dispatcher root between second last := by
  induction first generalizing world with
  | nil => exact ⟨world, .nil, turns⟩
  | cons entry rest ih =>
    cases turns with
    | cons ran others =>
      obtain ⟨between, front, back⟩ := ih others
      exact ⟨between, .cons ran front, back⟩

/-- Every command runs in the directory of the scenario that is running, whatever ran before, and is the
build tool's or an executable's of that directory. The scenarios of the toolkit are among those that this is told of. -/
theorem commands_in_place (dispatcher : Dispatcher) :
    (∀ procedures, dispatcher.Works procedures →
      (∀ root name world, Dispatched dispatcher (procedures name) root name world
        (dispatcher.runScenario root name world).1 (dispatcher.runScenario root name world).2) ∧
      ∀ options names world first name result rest,
        (dispatcher.runScenarios options names world).1.results = first ++ (name, result) :: rest →
        ∃ before after, InTurn dispatcher options.root world first before ∧
          Dispatched dispatcher (procedures name) options.root name before result after ∧
          InTurn dispatcher options.root after rest (dispatcher.runScenarios options names world).2 ∧
          ∀ path, path.isAbsolute = true ∨ dispatcher.runner.KeepsBase →
            before.tree.absolute path = world.tree.absolute path) ∧
    (dispatcher.registry = Catalogue.registry → ∃ procedures, dispatcher.Works procedures) := by
  refine ⟨fun procedures works => ⟨dispatched works, ?_⟩, exists_works⟩
  intro options names world first name result rest results
  have turns := (runScenarios_faithful_select dispatcher options names world).turns
  -- The run is cut where its results are: before the scenario and after it.
  rw [results] at turns
  obtain ⟨before, earlier, later⟩ := turns.split
  cases later with
  | cons ran others =>
    have here := dispatched works options.root name before
    rw [ran] at here
    refine ⟨before, _, earlier, here, others, fun path steady => ?_⟩
    rcases steady with rooted | kept
    · exact Path.absolute_of_isAbsolute rooted _ _
    · rw [FileTree.absolute, FileTree.absolute, FileTree.basePath, FileTree.basePath,
        earlier.sameBase works kept]

end Dispatcher

def sampleScript : ScriptedScenario where
  name := "sample"
  directory := "jobs"
  description := ""
  required := []
  skipWithout := none
  setup := [⟨"start", .require .startSample ["LOG=on", "N=1"]⟩]
  run := []
  teardown := [⟨"stop", .require .stopSample []⟩]

def standaloneScript : ScriptedScenario where
  name := "standalone"
  directory := "./lone"
  description := ""
  required := []
  skipWithout := none
  setup := []
  run := [⟨"run", .runStandalone ["-v"]⟩]
  teardown := []

def scriptsDispatcher : Dispatcher where
  registry := (Registry.register .empty sampleScript.scenario).register standaloneScript.scenario
  environment := .empty
  runner := fun _ tree _ => ⟨.ok ⟨"", "", 0⟩, tree, false⟩
  make := "gmake"
  waiter := .standard defaultTimeoutSeconds defaultPollSeconds
  logArchives := Marker.logArchives

def scriptsProcedures (name : String) : Procedures :=
  if name = "standalone" then standaloneScript.procedures else sampleScript.procedures

theorem scriptsDispatcher_works : scriptsDispatcher.Works scriptsProcedures := by
  intro name scenario registered
  by_cases last : name = standaloneScript.scenario.name
  · subst last
    rw [scriptsDispatcher, Registry.scenario?_register_self] at registered
    cases registered
    exact standaloneScript.worked
  · rw [scriptsDispatcher, Registry.scenario?_register_of_ne _ _ last] at registered
    by_cases first : name = sampleScript.scenario.name
    · subst first
      rw [Registry.scenario?_register_self] at registered
      cases registered
      exact sampleScript.worked
    · rw [Registry.scenario?_register_of_ne _ _ first] at registered
      cases registered

def scriptsTree : FileTree :=
  ⟨[([Octets.ofText "bench"], .directory),
    ([Octets.ofText "jobs", Octets.ofText "bench"], .directory),
    ([Octets.ofText "lone", Octets.ofText "bench"], .directory)],
    [Octets.ofText "bench"], by decide, by decide, by decide⟩

theorem commands_in_place_scripts :
    (∀ name world, Dispatcher.Dispatched scriptsDispatcher (scriptsProcedures name) (.ofText ".") name
      world (scriptsDispatcher.runScenario (.ofText ".") name world).1
      (scriptsDispatcher.runScenario (.ofText ".") name world).2) ∧
    (scriptsDispatcher.runScenarios ⟨.ofText ".", false, none⟩ ["sample", "standalone"]
      (.fresh scriptsTree)).2.commands =
      [⟨"gmake", ["start-sample", "LOG=on", "N=1"], .ofText "/bench/jobs"⟩,
        ⟨"gmake", ["stop-sample"], .ofText "/bench/jobs"⟩,
        ⟨"gmake", ["clean"], .ofText "/bench/jobs"⟩,
        ⟨"/bench/lone/output/bin/standalone", ["-v"], .ofText "/bench/lone"⟩,
        ⟨"gmake", ["clean"], .ofText "/bench/lone"⟩] := by
  refine ⟨((Dispatcher.commands_in_place scriptsDispatcher).1 _ scriptsDispatcher_works).1 _, ?_⟩
  cbv

end ScenarioBench

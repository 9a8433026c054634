import Mathlib.Logic.Relation
import ScenarioBench.Bench.Rules
import ScenarioBench.Proofs.Entries
import ScenarioBench.Proofs.Evidence
import ScenarioBench.Proofs.GlobLanguage

/-! What the harness itself removes.

Commands may do anything to the tree. All that a scenario of the toolkit does besides is to take away its
sentinels, which may be anything but directories, and log archives, which are regular files; both stand directly
in the scenario directory. Main statement: a run is a sequence of commands and of such removals, on every way
that it can take.
-/

set_option autoImplicit false

namespace ScenarioBench

/-- What may be removed from a scenario directory: a sentinel that is no directory, or a regular file whose
name is text and fits the pattern of log archives. -/
inductive Disposable (context : Context) (sentinels : List String) (tree : FileTree) : Location → Prop where
  | sentinel {directory : Location} {name : String} {node : Node} :
      tree.nodeAt context.workdir = .ok (directory, .directory) → name ∈ sentinels →
      tree.node? (Octets.ofText name :: directory) = some node → node ≠ .directory →
      Disposable context sentinels tree (Octets.ofText name :: directory)
  | archive {directory : Location} {octets content : Octets} {executable : Bool} {name : String} :
      tree.nodeAt context.workdir = .ok (directory, .directory) → octets.toText? = some name →
      Glob.Matches context.logArchives.toList name.toList →
      tree.node? (octets :: directory) = some (.file content executable) →
      Disposable context sentinels tree (octets :: directory)

/-- A command is issued, or something disposable is removed and nothing else happens. -/
inductive Move (context : Context) (sentinels : List String) : World → World → Prop where
  | command (world : World) (command : Command) :
      Move context sentinels world (world.answered command (context.runner.reaction world command))
  | removal {world : World} {tree : FileTree} {location : Location} :
      Disposable context sentinels world.tree location → world.tree.Loses tree location →
      Move context sentinels world { world with tree := tree }

def Tidies (context : Context) (sentinels : List String) : World → World → Prop :=
  Relation.ReflTransGen (Move context sentinels)

variable {context : Context} {sentinels : List String}

instance : Std.Refl (Tidies context sentinels) :=
  ⟨fun _ => .refl⟩

instance : Trans (Tidies context sentinels) (Tidies context sentinels) (Tidies context sentinels) where
  trans := Relation.ReflTransGen.trans

theorem answered_tidies (world : World) (command : Command) : Tidies context sentinels world
    (world.answered command (context.runner.reaction world command)) :=
  .single (.command world command)

theorem require_tidies (target : Target) (extra : List String) :
    Action.Follows (context.require target extra) (Tidies context sentinels) := by
  intro world
  rw [context.require_apply]
  exact answered_tidies world _

section
variable (absolute : context.workdir.isAbsolute = true)
include absolute

theorem removeFrom_join {tree after : FileTree} {name : Octets} (isName : Path.IsName name)
    (lookedUp : FileTree.LookedUp name)
    (removed : ScratchFiles.removeFrom tree (context.workdir.join ⟨name⟩) = .ok after) :
    after = tree ∨ ∃ directory node, tree.DirectoryAt context.workdir directory ∧
      tree.node? (name :: directory) = some node ∧ node ≠ .directory ∧
      after = tree.erase (name :: directory) := by
  unfold ScratchFiles.removeFrom at removed
  split at removed
  · cases removed
    exact .inl rfl
  · exact .inr (FileTree.unlink_join absolute isName lookedUp removed)

theorem remove_tidies {name : String} (isName : Path.IsName (Octets.ofText name))
    (lookedUp : FileTree.LookedUp (Octets.ofText name)) (listed : name ∈ sentinels) :
    Action.Follows (context.remove name) (Tidies context sentinels) := by
  intro world
  rw [Context.remove, ScratchFiles.remove_apply]
  split
  · rename_i tree removed
    rcases removeFrom_join absolute isName lookedUp removed with rfl | ⟨directory, node, found⟩
    · exact Std.Refl.refl world
    · obtain ⟨found, there, notDirectory, rfl⟩ := found
      refine .single (.removal (.sentinel found.nodeAt listed there notDirectory) ?_)
      exact world.tree.loses_erase (List.cons_ne_nil _ _)
  · exact Std.Refl.refl world

structure IsArchive (context : Context) (tree : FileTree) (directory : Location) (name : Octets) : Prop where
  isName : Path.IsName name
  lookedUp : FileTree.LookedUp name
  fits : ∃ text, name.toText? = some text ∧ Glob.Matches context.logArchives.toList text.toList
  file : ∃ content executable, tree.node? (name :: directory) = some (.file content executable)

/-- What was listed as a log archive still is one when its turn comes, unless it is gone. -/
theorem removeEach_tidies {listed : FileTree} {directory : Location} {names : List Octets}
    (found : listed.DirectoryAt context.workdir directory)
    (archives : ∀ name ∈ names, IsArchive context listed directory name)
    {world : World} (within : world.tree.Within listed) :
    Tidies context sentinels world (ScratchFiles.removeEach context.workdir names world).2 := by
  induction names generalizing world with
  | nil => exact Std.Refl.refl world
  | cons name rest ih =>
    -- The tree may have lost files since the listing, but it has got none.
    obtain ⟨isName, lookedUp, ⟨text, read, fits⟩, content, executable, file⟩ :=
      archives name List.mem_cons_self
    rw [ScratchFiles.removeEach, Action.bind_apply, ScratchFiles.remove_apply]
    rcases removed : ScratchFiles.removeFrom world.tree (context.workdir.join ⟨name⟩) with cause | tree
    · exact Std.Refl.refl world
    · have smaller := ScratchFiles.within_of_removeFrom removed
      have first : Tidies context sentinels world { world with tree := tree } := by
        rcases removeFrom_join absolute isName lookedUp removed with rfl | ⟨here, node, now, there, -, rfl⟩
        · exact Std.Refl.refl world
        · -- The path leads to the directory that was listed, and the file in it is the one that was.
          have same := found.nodeAt.symm.trans (now.mono within).nodeAt
          obtain rfl : directory = here := (Prod.mk.inj (Except.ok.inj same)).1
          have kept := within.node? _ _ there
          rw [file] at kept
          cases kept
          refine .single (.removal (.archive now.nodeAt read fits there) ?_)
          exact world.tree.loses_erase (List.cons_ne_nil _ _)
      have later : ({ world with tree := tree } : World).tree.Within listed := smaller.trans within
      have others := ih (fun other member => archives other (List.mem_cons_of_mem _ member)) later
      refine Trans.trans first (?_ : Tidies context sentinels _ _)
      dsimp only
      rw [Action.bind_apply]
      rcases ended : ScratchFiles.removeEach context.workdir rest { world with tree := tree }
        with ⟨cause | count, after⟩ <;> (rw [ended] at others; exact others)

theorem removeLogArchives_tidies :
    Action.Follows context.removeLogArchives (Tidies context sentinels) := by
  intro world
  rw [Context.removeLogArchives, Context.removeMatching, ScratchFiles.removeMatching_apply]
  split
  · rename_i directory entries listed
    obtain ⟨found, rfl⟩ := FileTree.list_eq_ok_iff.1 listed
    refine removeEach_tidies absolute (FileTree.directoryAt_of_nodeAt absolute found) ?_ (.refl _)
    -- What is listed is in the tree, and was chosen for its kind and its name.
    intro name member
    obtain ⟨⟨octets, node⟩, chosen, rfl⟩ := List.mem_map.1 member
    obtain ⟨child, fits⟩ := List.mem_filter.1 chosen
    obtain ⟨there, isName, lookedUp⟩ := FileTree.node?_of_mem_children child
    simp only [ScratchFiles.isMatch, Bool.and_eq_true] at fits
    obtain ⟨isFile, fits⟩ := fits
    refine ⟨isName, lookedUp, ?_, ?_⟩
    · split at fits
      · rename_i text read
        exact ⟨text, read, Glob.matches_of_accepts fits⟩
      · cases fits
    · cases node with
      | file content executable => exact ⟨content, executable, there⟩
      | directory | link => cases isFile
  · exact .refl
  · exact .refl

end

namespace Catalogue

open Marker (firstSentinel secondSentinel)

@[simp] def Task.DiscardsAmong (sentinels : List String) (task : Task) : Prop :=
  ∀ name, task = .discard name → name ∈ sentinels

theorem Task.perform_tidies {given : Builtin} {task : Task} (absolute : context.workdir.isAbsolute = true)
    (among : task.DiscardsAmong given.sentinels) :
    Action.Follows (task.perform context) (Tidies context given.sentinels) := by
  intro world
  cases task with
  | target wanted extra => exact require_tidies wanted extra world
  | sentinel name =>
    rw [perform, expectSentinel_apply, context.requireSentinel_apply]
    exact Std.Refl.refl world
  | monitor arguments =>
    rw [monitor_apply]
    exact answered_tidies world _
  | discard name =>
    have listed := among name rfl
    obtain ⟨isName, lookedUp⟩ := isName_of_mem_sentinels listed
    exact remove_tidies absolute isName lookedUp listed world
  | discardArchives =>
    rw [discardArchives_apply]
    exact removeLogArchives_tidies absolute world

namespace Builtin

variable (given : Builtin)

theorem setupTasks_discardsAmong : ∀ task ∈ given.setupTasks, task.DiscardsAmong given.sentinels := by
  rcases given with _ | (_ | _ | _) <;>
    simp

theorem runTasks_discardsAmong (environment : Environment) :
    ∀ task ∈ given.runTasks environment, task.DiscardsAmong given.sentinels := by
  rcases given with (_ | _ | _) | (case | _ | _)
  case case.appConfig =>
    cases sample : case.withSample <;>
      simp [sample]
  all_goals simp

theorem cleanupTasks_discardsAmong (failed : Option Task) :
    ∀ task ∈ given.cleanupTasks failed, task.DiscardsAmong given.sentinels := by
  rcases given with (_ | _ | _) | (case | _ | _)
  case case.appConfig =>
    cases sample : case.withSample <;>
      simp [sample]
  all_goals
    rcases failed with _ | (_ | _ | _ | _ | _) <;>
      simp

theorem Passage.discardsAmong {given : Builtin} {world settled : World}
    {setup run cleared : List TaskExecution}
    (passage : given.Passage context world setup run cleared settled) :
    ∀ execution ∈ setup ++ run ++ cleared, execution.subject.DiscardsAmong given.sentinels := by
  intro execution member
  by_cases well : ∀ earlier ∈ setup, earlier.Succeeded
  · rcases List.mem_append.1 member with early | late
    · rcases List.mem_append.1 early with early | middle
      · exact given.setupTasks_discardsAmong _ (passage.setupFollowed.subject_mem early)
      · exact given.runTasks_discardsAmong _ _ ((passage.runFollowed well).subject_mem middle)
    · have planned : execution.subject ∈ cleared.map (·.subject) := List.mem_map_of_mem late
      rw [passage.whole well] at planned
      exact given.cleanupTasks_discardsAmong _ _ planned
  · -- Nothing follows a setup that fails.
    obtain ⟨rfl, rfl⟩ := passage.halted (by simpa using well)
    rw [List.append_nil, List.append_nil] at member
    exact given.setupTasks_discardsAmong _ (passage.setupFollowed.subject_mem member)

theorem phases_tidies {given : Builtin} (absolute : context.workdir.isAbsolute = true)
    (complete : context.environment.missing given.scenario.required = []) :
    Action.Follows (Dispatcher.phases given.scenario context) (Tidies context given.sentinels) := by
  intro world
  obtain ⟨setup, run, cleared, settled, passage, ended⟩ := given.phases_passage context complete world
  have tidies : Tidies context given.sentinels world settled :=
    passage.chain.follows fun execution member =>
      Task.perform_tidies absolute (passage.discardsAmong execution member)
  rw [ended]
  split
  · exact tidies
  · have last : Tidies context given.sentinels settled (context.makeClean settled).2 :=
      require_tidies .clean [] settled
    exact Trans.trans tidies last

end Builtin

/-- A scenario of the toolkit removes its sentinels and log archives and changes nothing else by itself. -/
theorem runScenario_tidies {dispatcher : Dispatcher} {root : Path} {name : String} {given : Builtin}
    {world : World} (registered : dispatcher.registry.scenario? name = some given.scenario) :
    (dispatcher.runScenario root name world).2 = world ∨
      ∃ workdir, world.tree.absolute (root.join (.ofText given.scenario.directory)) = .ok workdir ∧
        Relation.ReflTransGen (Move (dispatcher.contextIn workdir) given.sentinels) world
          (dispatcher.runScenario root name world).2 := by
  rcases dispatcher.refusal_or_admits root world.tree name with ⟨result, refusal⟩ | ⟨found, admitted⟩
  · rw [refusal.runScenario]
    exact .inl rfl
  · obtain rfl : found = given.scenario :=
      Option.some.inj (admitted.registered.symm.trans registered)
    obtain ⟨workdir, whole, performed⟩ := admitted.runScenario
    have absolute := FileTree.isAbsolute_of_absolute whole
    rw [performed]
    refine .inr ⟨workdir, whole, ?_⟩
    have tidies : Action.Follows (Dispatcher.phases given.scenario (dispatcher.contextIn workdir))
        (Tidies (dispatcher.contextIn workdir) given.sentinels) :=
      Builtin.phases_tidies absolute admitted.complete
    exact tidies world

def placingMonitorDispatcher : Dispatcher :=
  { busyMonitorDispatcher with
    runner := Rule.runner [
      { name := "start-monitor"
        uses := none
        output := ⟨"", "", 0⟩
        writes := [.file (.ofText firstSentinel) [] false]
        cancels := false
        spawnFails := false }] }

theorem runScenario_tidies_placingMonitor :
    placingMonitorDispatcher.registry.scenario? "MetricsSource/appConfig" =
        some (Builtin.plain .metricsAppConfig).scenario ∧
      ((placingMonitorDispatcher.runScenario (.ofText "/") "MetricsSource/appConfig"
          (.fresh staleTree)).2 = .fresh staleTree ∨
        ∃ workdir, staleTree.absolute ((Path.ofText "/").join
            (.ofText (Builtin.plain .metricsAppConfig).scenario.directory)) = .ok workdir ∧
          Relation.ReflTransGen (Move (placingMonitorDispatcher.contextIn workdir) [firstSentinel])
            (.fresh staleTree)
            (placingMonitorDispatcher.runScenario (.ofText "/") "MetricsSource/appConfig"
              (.fresh staleTree)).2) := by
  have registered : placingMonitorDispatcher.registry.scenario? "MetricsSource/appConfig" =
      some (Builtin.plain .metricsAppConfig).scenario := rfl
  exact ⟨registered, runScenario_tidies registered⟩

end Catalogue

end ScenarioBench

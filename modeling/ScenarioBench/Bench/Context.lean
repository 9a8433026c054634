import ScenarioBench.Bench.Environment
import ScenarioBench.Bench.ScratchFiles

/-! What one run of a scenario works with.

A context holds the scenario directory. Targets of the build tool run in it, executables and
sentinels are found in it, and nothing depends on the directory of the process.
-/

set_option autoImplicit false

namespace ScenarioBench

structure Context where
  workdir : Path
  environment : Environment
  runner : CommandRunner
  make : String
  waiter : Waiter
  logArchives : String

namespace Context

def path (context : Context) (name : String) : Path :=
  context.workdir.join (.ofText name)

def targetCommand (context : Context) (target : Target) (extra : List String) : Command :=
  { program := context.make, arguments := target.arguments extra, directory := context.workdir }

def invoke (context : Context) (target : Target) (extra : List String) : Act HarnessError Output :=
  context.runner.issue (context.targetCommand target extra)

def expectPass (condition : Bool) (output : Output) : Act HarnessError Unit :=
  Action.settled ((ScenarioBench.expectPass condition output.stdout output.stderr).mapError .failure)

/-- Ask the build tool for a target; one that must succeed fails with its streams if it exits with
another code than 0. -/
def require (context : Context) (target : Target) (extra : List String) : Act HarnessError Unit := do
  let output ← context.invoke target extra
  expectPass (!target.mustSucceed || output.success) output

@[simp] theorem expectPass_apply (condition : Bool) (output : Output) (world : World) :
    expectPass condition output world =
      (if condition then .ok () else .error (.failure ⟨output.stdout, output.stderr⟩), world) := by
  cases condition <;> rfl

def targetEnding (context : Context) (target : Target) :
    Except OsError Output → Except HarnessError Unit
  | .error cause => .error (.spawn context.make cause)
  | .ok output =>
    if !target.mustSucceed || output.success then .ok ()
    else .error (.failure ⟨output.stdout, output.stderr⟩)

@[simp] theorem targetEnding_error (context : Context) (target : Target) (cause : OsError) :
    context.targetEnding target (.error cause) = .error (.spawn context.make cause) :=
  rfl

@[simp] theorem targetEnding_ok (context : Context) (target : Target) (output : Output) :
    context.targetEnding target (.ok output) =
      if target.mustSucceed = true ∧ output.exitCode ≠ 0 then
        .error (.failure ⟨output.stdout, output.stderr⟩)
      else .ok () := by
  by_cases zero : output.exitCode = 0 <;> cases must : target.mustSucceed <;>
    simp [targetEnding, zero, must]

theorem require_apply (context : Context) (target : Target) (extra : List String) (world : World) :
    let command := context.targetCommand target extra
    let reaction := context.runner.reaction world command
    context.require target extra world =
      (context.targetEnding target reaction.outcome, world.answered command reaction) := by
  intro command reaction
  have issued : context.invoke target extra world =
      (reaction.outcome.mapError (.spawn context.make ·), world.answered command reaction) := rfl
  rcases met : reaction.outcome with cause | output
  · rw [met] at issued
    exact Action.bind_of_error issued _
  · rw [met] at issued
    exact (Action.bind_of_ok issued _).trans (expectPass_apply _ _ _)

theorem require_follows {relation : World → World → Prop} [Std.Refl relation]
    [Trans relation relation relation] (context : Context) (steady : context.runner.Steady relation)
    (target : Target) (extra : List String) :
    Action.Follows (context.require target extra) relation :=
  .bind (steady.issue _) fun _ => .settled _

theorem require_extends (context : Context) (target : Target) (extra : List String) :
    Action.Follows (context.require target extra) World.Extends :=
  context.require_follows context.runner.steady_extends target extra

@[simp] def makeClean (context : Context) : Act HarnessError Unit := context.require .clean []
@[simp] def makeApplications (context : Context) : Act HarnessError Unit := context.require .all []
@[simp] def createAppConfig (context : Context) : Act HarnessError Unit := context.require .configure []
@[simp] def createAppConfigJson (context : Context) : Act HarnessError Unit :=
  context.require .configureJson []
@[simp] def removeAppConfig (context : Context) : Act HarnessError Unit := context.require .configureClean []
@[simp] def startSample (context : Context) (extra : List String) : Act HarnessError Unit :=
  context.require .startSample extra
@[simp] def stopSample (context : Context) : Act HarnessError Unit := context.require .stopSample []
@[simp] def startMonitor (context : Context) (extra : List String) : Act HarnessError Unit :=
  context.require .startMonitor extra
@[simp] def stopMonitor (context : Context) : Act HarnessError Unit := context.require .stopMonitor []
@[simp] def startTestDomain (context : Context) : Act HarnessError Unit := context.require .startTestDomain []
@[simp] def stopTestDomain (context : Context) : Act HarnessError Unit := context.require .stopTestDomain []

def executableCommand (context : Context) (relative : String) (arguments : List String) : Command :=
  { program := (context.path relative).display, arguments := arguments, directory := context.workdir }

def runExecutable (context : Context) (relative : String) (arguments : List String) :
    Act HarnessError Output :=
  context.runner.issue (context.executableCommand relative arguments)

theorem runExecutable_extends (context : Context) (relative : String) (arguments : List String) :
    Action.Follows (context.runExecutable relative arguments) World.Extends :=
  context.runner.issue_extends _

def runStandalone (context : Context) (arguments : List String) : Act HarnessError Output :=
  context.runExecutable Marker.standalone arguments

def runMonitorStandalone (context : Context) (arguments : List String) : Act HarnessError Output :=
  context.runExecutable Marker.monitorStandalone arguments

def lookUp (context : Context) (name : String) : Act HarnessError String :=
  Action.settled (context.environment.require name)

def credentialArguments (context : Context) : Except HarnessError (List String) := do
  let user ← context.environment.require Variable.jmxUser
  let password ← context.environment.require Variable.jmxPassword
  let domain ← context.environment.require Variable.domainId
  return ["user=" ++ user, "password=" ++ password, "domainId=" ++ domain]

/-- Wait for a file of the scenario directory while nothing else changes the world. Without an
outcome the wait goes on for ever, and nothing that is told to come after it is ever reached. -/
def waitFor (context : Context) (name : String) : Act HarnessError (Option WaitOutcome) := do
  let world ← Action.look
  return context.waiter.outcomeStill world.cancelled (world.tree.pathExists (context.path name))

def WaitEnds (context : Context) (name : String) (world : World) : Prop :=
  world.cancelled = true ∨ world.tree.pathExists (context.path name) = true ∨
    context.waiter.Limited

@[simp] theorem waitFor_apply (context : Context) (name : String) (world : World) :
    context.waitFor name world =
      (.ok (context.waiter.outcomeStill world.cancelled (world.tree.pathExists (context.path name))),
        world) :=
  rfl

theorem waitFor_ends_iff (context : Context) (name : String) (world : World) :
    (∃ outcome, (context.waitFor name world).1 = .ok (some outcome)) ↔
      context.WaitEnds name world := by
  rw [waitFor_apply, WaitEnds, ← Waiter.outcomeStill_ends_iff]
  exact exists_congr fun _ => ⟨Except.ok.inj, congrArg Except.ok⟩

theorem waitFor_follows {relation : World → World → Prop} [Std.Refl relation] (context : Context)
    (name : String) : Action.Follows (context.waitFor name) relation :=
  fun world => Std.Refl.refl world

theorem waitFor_extends (context : Context) (name : String) :
    Action.Follows (context.waitFor name) World.Extends :=
  context.waitFor_follows name

/-- 0 if a file of the scenario directory can be read, and 1 otherwise. -/
def resultCode (context : Context) (name : String) : Act HarnessError Nat := do
  return ScratchFiles.resultCode (← Action.look).tree (context.path name)

def requireSentinel (context : Context) (name : String) : Act HarnessError Unit := do
  if (← context.resultCode name) = 0 then return ()
  else throw (.failure (.ofDetail "Could not read file:" name))

@[simp] theorem requireSentinel_apply (context : Context) (name : String) (world : World) :
    context.requireSentinel name world =
      (if (world.tree.read (context.path name)).isOk then .ok ()
        else .error (.failure (.ofDetail "Could not read file:" name)), world) := by
  show (if ScratchFiles.resultCode world.tree (context.path name) = 0 then pure ()
    else throw _ : Act HarnessError Unit) world = _
  unfold ScratchFiles.resultCode
  split <;> simp

theorem resultCode_follows {relation : World → World → Prop} [Std.Refl relation] (context : Context)
    (name : String) : Action.Follows (context.resultCode name) relation :=
  fun world => Std.Refl.refl world

theorem requireSentinel_follows {relation : World → World → Prop} [Std.Refl relation]
    (context : Context) (name : String) : Action.Follows (context.requireSentinel name) relation := by
  intro world
  rw [requireSentinel_apply]
  exact Std.Refl.refl world

theorem requireSentinel_extends (context : Context) (name : String) :
    Action.Follows (context.requireSentinel name) World.Extends :=
  context.requireSentinel_follows name

def remove (context : Context) (name : String) : Act HarnessError Unit :=
  ScratchFiles.remove (context.path name)

def removeMatching (context : Context) (pattern : String) : Act HarnessError Nat :=
  ScratchFiles.removeMatching context.workdir pattern

def removeLogArchives (context : Context) : Act HarnessError Nat :=
  context.removeMatching context.logArchives

end Context

end ScenarioBench

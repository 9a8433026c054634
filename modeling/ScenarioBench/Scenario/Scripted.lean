import ScenarioBench.Scenario.Basic

/-! Scenarios given as lists of steps.

A step is one operation of a context. A phase performs its steps in order, notes how each one ended,
and stops at the first one that fails.
-/

set_option autoImplicit false

namespace ScenarioBench

inductive Step where
  /-- Ask the build tool for the target of this spelling, whatever its exit code. -/
  | invoke (spelling : String) (arguments : List String)
  | makeAll
  | makeBuild
  /-- Ask for a target under its own rule about exit codes. -/
  | require (target : Target) (arguments : List String)
  | runStandalone (arguments : List String)
  | runMonitorStandalone (arguments : List String)
  | credentialArguments
  | waitFor (name : String)
  | resultCode (name : String)
  | requireSentinel (name : String)
  | remove (name : String)
  | removeMatching (pattern : String)
  | removeLogArchives
  | lookUp (name : String)
  | path (name : String)
  | workdir
  | write (name text : String)
  | cancel
  | fail (stdout stderr : String)
  deriving DecidableEq, Repr

namespace Step

def unknownTarget : String := "no such target"

def perform (context : Context) : Step → Act HarnessError StepValue
  | invoke spelling arguments =>
    match Target.ofSpelling? spelling with
    | some target => do return .output (← context.invoke target arguments)
    -- A target that the build tool does not know is an answer, not an error.
    | none => return .text unknownTarget
  | makeAll => do return .output (← context.invoke .all [])
  | makeBuild => do return .output (← context.invoke .build [])
  | require target arguments => do
    context.require target arguments
    return .nothing
  | runStandalone arguments => do return .output (← context.runStandalone arguments)
  | runMonitorStandalone arguments => do return .output (← context.runMonitorStandalone arguments)
  | credentialArguments => do return .texts (← Action.settled context.credentialArguments)
  | waitFor name => do return .waited (← context.waitFor name)
  | resultCode name => do return .number (← context.resultCode name)
  | requireSentinel name => do
    context.requireSentinel name
    return .nothing
  | remove name => do
    context.remove name
    return .nothing
  | removeMatching pattern => do return .number (← context.removeMatching pattern)
  | removeLogArchives => do return .number (← context.removeLogArchives)
  | lookUp name => do return .text (← context.lookUp name)
  | path name => return .path (context.path name)
  | workdir => return .path context.workdir
  | write name text =>
    Act.changeTree .io fun tree =>
      (tree.write (context.path name) (.ofText text)).map (·, .nothing)
  | cancel => fun world => (.ok .nothing, { world with cancelled := true })
  | fail stdout stderr => throw (.failure ⟨stdout, stderr⟩)

theorem perform_follows {relation : World → World → Prop} [Std.Refl relation]
    [Trans relation relation relation] (context : Context)
    (steady : context.runner.Steady relation) (step : Step) :
    Action.Follows (step.perform context) relation := by
  cases step with
  | invoke spelling arguments =>
    simp only [perform]
    split
    · exact .bind (steady.issue _) fun _ => .pure _
    · exact .pure _
  | makeAll | makeBuild => exact .bind (steady.issue _) fun _ => .pure _
  | require target arguments => exact .bind (context.require_follows steady _ _) fun _ => .pure _
  | runStandalone arguments | runMonitorStandalone arguments =>
    exact .bind (steady.issue _) fun _ => .pure _
  | credentialArguments | lookUp name => exact .bind (.settled _) fun _ => .pure _
  | waitFor name => exact .bind (context.waitFor_follows _) fun _ => .pure _
  | resultCode name => exact .bind (context.resultCode_follows _) fun _ => .pure _
  | requireSentinel name => exact .bind (context.requireSentinel_follows _) fun _ => .pure _
  | remove name => exact .bind (Act.changeTree_follows steady.tree _ _) fun _ => .pure _
  | removeMatching pattern =>
    exact .bind (ScratchFiles.removeMatching_follows steady.tree _ _) fun _ => .pure _
  | removeLogArchives =>
    exact .bind (ScratchFiles.removeMatching_follows steady.tree _ _) fun _ => .pure _
  | path name | workdir => exact .pure _
  | write name text => exact Act.changeTree_follows steady.tree _ _
  | cancel => exact steady.cancel
  | fail stdout stderr => exact .throw _

theorem perform_extends (context : Context) (step : Step) :
    Action.Follows (step.perform context) World.Extends :=
  step.perform_follows context context.runner.steady_extends

end Step

structure NamedStep where
  name : String
  step : Step
  deriving DecidableEq, Repr

namespace NamedStep

def performNoted (phase : Phase) (context : Context) (named : NamedStep) : Act HarnessError Unit :=
  fun world =>
    let (result, after) := named.step.perform context world
    let entry : JournalEntry := { phase := phase, step := named.name, result := result }
    (result.map fun _ => (), { after with journal := after.journal ++ [entry] })

def performAll (phase : Phase) (context : Context) : List NamedStep → Act HarnessError Unit
  | [] => pure ()
  | named :: rest => do
    named.performNoted phase context
    performAll phase context rest

theorem performNoted_extends (phase : Phase) (context : Context) (named : NamedStep) :
    Action.Follows (named.performNoted phase context) World.Extends :=
  named.step.perform_extends context

theorem performAll_extends (phase : Phase) (context : Context) (steps : List NamedStep) :
    Action.Follows (performAll phase context steps) World.Extends := by
  induction steps with
  | nil => exact .pure ()
  | cons named rest ih => exact .bind (named.performNoted_extends phase context) fun _ => ih

end NamedStep

structure ScriptedScenario where
  name : String
  directory : String
  description : String
  required : List String
  skipWithout : Option String
  setup : List NamedStep
  run : List NamedStep
  teardown : List NamedStep

namespace ScriptedScenario

def scenario (script : ScriptedScenario) : Scenario where
  name := script.name
  directory := script.directory
  description := script.description
  required := script.required
  skipReason := fun environment => script.skipWithout.bind fun name =>
    match environment.get? name with
    | some _ => none
    | none => some ("no " ++ name)
  setup := fun context => NamedStep.performAll .setup context script.setup
  run := fun context => NamedStep.performAll .run context script.run
  teardown := fun context => NamedStep.performAll .teardown context script.teardown
  setupExtends := fun context => NamedStep.performAll_extends .setup context script.setup
  runExtends := fun context => NamedStep.performAll_extends .run context script.run
  teardownExtends := fun context => NamedStep.performAll_extends .teardown context script.teardown

end ScriptedScenario

end ScenarioBench

import ScenarioBench.CommandLine.Commands
import ScenarioBench.Data.Results
import ScenarioBench.Proofs.Cancellation
import ScenarioBench.Proofs.DocumentTexts

/-! Showing submissions.

What a command submits is laid down in batches before anything is done: for a sample all of its jobs, for a composite
the one job, and for every check the jobs that have to run before it, on the instance, and then its test composite.
Main statement: a command that only shows its submissions prints the documents of its batches, in their order, and
does nothing else, whatever it finds around it.
-/

set_option autoImplicit false

namespace ScenarioBench.CommandLine

structure Submittal where
  context : JobContext
  topology : Topology
  config : ConfigMap

/-- Submissions in a row, and the line that follows them where they are only shown. -/
structure Batch where
  submittals : List Submittal
  closing : Option String

def Submittal.render (submittal : Submittal) : Except LaunchError String :=
  DryRun.render submittal.context submittal.topology submittal.config

theorem Submittal.render_injective {submittal other : Submittal} {text : String}
    (legible : submittal.config.Legible) (known : other.config.Legible) (told : submittal.render = .ok text)
    (same : other.render = .ok text) : submittal = other := by
  obtain ⟨contexts, topologies, configs⟩ := DryRun.render_injective legible known told same
  cases submittal
  cases other
  cases contexts
  cases topologies
  cases configs
  rfl

def Batch.lines (batch : Batch) : Except LaunchError (List String) := do
  return (← batch.submittals.mapM Submittal.render) ++ batch.closing.toList

def Submittal.all (context : JobContext) (config : JobConfig) (jobs : List Topology) :
    List Submittal :=
  jobs.map fun topology => { context := context, topology := topology, config := config.toMap }

def compositeConfig (request : CompositeRequest) : JobConfig :=
  { JobConfig.empty with verifyPeer := some false, tracing := request.trace }

def compositeJob (settings : LauncherSettings) (request : CompositeRequest) (target : LaunchTarget) :
    Except LaunchError Topology := do
  let job ← Topology.ofComposite (jobName request) request.kind
  return ((job.addToolkit (target.toolkit.getD settings.toolkit)).addToolkits
    request.toolkits).setParameters request.parameters

def checkBatch (setup : CheckSetup) (context : JobContext) (check : CompositeCheck) :
    Except LaunchError Batch := do
  let before ← setup.before check
  let test ← setup.test check
  return { submittals := Submittal.all .distributed setup.config before
             ++ Submittal.all context setup.config [test]
           closing := some (check.jobName ++ " verification skipped (dry run)") }

theorem checkBatch_eq {setup : CheckSetup} (context : JobContext) {check : CompositeCheck}
    {before : List Topology} {test : Topology} (earlier : setup.before check = .ok before)
    (tested : setup.test check = .ok test) :
    checkBatch setup context check = .ok
      { submittals := Submittal.all .distributed setup.config before
          ++ Submittal.all context setup.config [test]
        closing := some (check.jobName ++ " verification skipped (dry run)") } := by
  rw [checkBatch, earlier, tested]
  rfl

def checksOf (request : VerifyRequest) : List CompositeCheck :=
  if request.checks.isEmpty then CompositeCheck.table else request.checks

/-- What a command submits. -/
def batches (settings : LauncherSettings) : Request → Except LaunchError (List Batch)
  | .launch sample target => do
    let plan ← LaunchPlan.ofSample sample (target.toolkit.getD settings.toolkit)
    return [{ submittals := Submittal.all (target.context.getD settings.context) plan.config plan.jobs
              closing := none }]
  | .launchComposite request target => do
    let job ← compositeJob settings request target
    return [{ submittals :=
                Submittal.all (target.context.getD settings.context) (compositeConfig request) [job]
              closing := none }]
  | .verify request target =>
    (checksOf request).mapM
      (checkBatch (checkSetup settings request target) (target.context.getD .standalone))
  | .run _ | .list _ | .checkEnvironment _ => .ok []

def toolkitPaths (settings : LauncherSettings) : Request → List Path
  | .launch _ target => [target.toolkit.getD settings.toolkit]
  | .launchComposite request target => target.toolkit.getD settings.toolkit :: request.toolkits
  | .verify request target => target.toolkit.getD settings.toolkit :: request.testToolkit.toList
  | .run _ | .list _ | .checkEnvironment _ => []

def showing (dryRun : Bool) : Request → Request
  | .launch sample target => .launch sample { target with dryRun := dryRun }
  | .launchComposite request target => .launchComposite request { target with dryRun := dryRun }
  | .verify request target => .verify request { target with dryRun := dryRun }
  | other => other

/-- The commands that show what they would submit: samples on every context, composites with a namespace where no
server is asked for parameters, and checks on this machine. -/
def Showable (settings : LauncherSettings) : Request → Prop
  | .launch _ _ => True
  | .launchComposite request target =>
    (Composite.splitKind? request.kind).isSome ∧ request.expect = none ∧
      target.context.getD settings.context ≠ .service
  | .verify _ target => target.context.getD .standalone = .standalone
  | .run _ | .list _ | .checkEnvironment _ => False

def Textual (topology : Topology) : Prop :=
  ∀ toolkit ∈ topology.toolkits, toolkit.toText?.isSome

theorem mapM_pathValue {toolkits : List Path} (textual : ∀ toolkit ∈ toolkits, toolkit.toText?.isSome) :
    ∃ values, toolkits.mapM DryRun.pathValue = .ok values := by
  induction toolkits with
  | nil => exact ⟨[], rfl⟩
  | cons toolkit rest ih =>
    obtain ⟨values, others⟩ := ih fun other member => textual other (List.mem_cons_of_mem _ member)
    obtain ⟨text, written⟩ := Option.isSome_iff_exists.1 (textual toolkit List.mem_cons_self)
    refine ⟨.string text :: values, mapM_cons_of_ok ?_ others⟩
    rw [DryRun.pathValue, written]

theorem render_of_textual (context : JobContext) {topology : Topology} (config : ConfigMap)
    (textual : Textual topology) : ∃ text, DryRun.render context topology config = .ok text := by
  obtain ⟨values, written⟩ := mapM_pathValue textual
  unfold DryRun.render DryRun.document
  rw [written]
  exact ⟨_, rfl⟩

theorem textual_addToolkits {topology : Topology} {toolkits : List Path} (textual : Textual topology)
    (given : ∀ toolkit ∈ toolkits, toolkit.toText?.isSome) : Textual (topology.addToolkits toolkits) := by
  unfold Topology.addToolkits
  induction toolkits generalizing topology with
  | nil => exact textual
  | cons toolkit rest ih =>
    refine ih ?_ fun other member => given other (List.mem_cons_of_mem _ member)
    unfold Topology.addToolkit
    split
    · exact textual
    · intro other member
      rcases List.mem_append.1 member with known | new
      · exact textual other known
      · rw [List.mem_singleton.1 new]
        exact given toolkit List.mem_cons_self

theorem textual_ofComposite {name kind : String} {topology : Topology}
    (made : Topology.ofComposite name kind = .ok topology) : Textual topology := by
  unfold Topology.ofComposite at made
  split at made <;> cases made
  exact List.forall_mem_nil _

def printedLines (lines : List String) : String :=
  String.join (lines.map (· ++ "\n"))

@[simp] theorem printedLines_append (lines more : List String) :
    printedLines (lines ++ more) = printedLines lines ++ printedLines more := by
  unfold printedLines
  rw [List.map_append, String.join_append]

/-- All that an action does is to print lines. -/
def Prints {α : Type} (action : Serving α) (value : α) (lines : List String) : Prop :=
  ∀ session, action session =
    (.ok value, { session with printed := session.printed ++ printedLines lines })

namespace Prints

variable {α β : Type} {value : α} {lines more : List String}

theorem pure (value : α) : Prints (Pure.pure value) value [] := by
  intro session
  rw [printedLines, List.map_nil, String.join_nil, String.append_empty]
  rfl

theorem settled {result : Except LaunchError α} (gave : result = .ok value) :
    Prints (Serving.settled result) value [] := by
  rw [gave]
  exact .pure value

theorem say (line : String) : Prints (Serving.say line) () [line] := by
  intro session
  rw [printedLines, List.map_singleton, String.join_cons, String.join_nil, String.append_empty]
  rfl

theorem within {ε : Type} {convert : ε → CommandError} {act : Act ε α}
    (idle : ∀ world, act world = (.ok value, world)) : Prints (Serving.within convert act) value [] := by
  intro session
  rw [printedLines, List.map_nil, String.join_nil, String.append_empty]
  simp only [Serving.within, idle]
  rfl

theorem bind {action : Serving α} {next : α → Serving β} {result : β} (first : Prints action value lines)
    (rest : Prints (next value) result more) : Prints (action >>= next) result (lines ++ more) := by
  intro session
  rw [Action.bind_of_ok (first session), rest, printedLines_append, String.append_assoc]

theorem after {action : Serving α} {next : α → Serving β} {result : β} (first : Prints action value [])
    (rest : Prints (next value) result more) : Prints (action >>= next) result more :=
  first.bind rest

theorem before {action : Serving α} {next : α → Serving β} {result : β} (first : Prints action value lines)
    (rest : Prints (next value) result []) : Prints (action >>= next) result lines := by
  have both := first.bind rest
  rwa [List.append_nil] at both

end Prints

section
variable (context : JobContext) (config : JobConfig) {jobs : List Topology}

theorem showJobs_prints (textual : ∀ job ∈ jobs, Textual job) :
    ∃ texts, (Submittal.all context config jobs).mapM Submittal.render = .ok texts ∧
      Prints (jobs.forM fun job => do
        Serving.say (← Serving.settled (DryRun.render context job config.toMap))) () texts := by
  induction jobs with
  | nil => exact ⟨[], rfl, .pure ()⟩
  | cons job rest ih =>
    obtain ⟨texts, rendered, others⟩ := ih fun other member => textual other (List.mem_cons_of_mem _ member)
    obtain ⟨text, written⟩ := render_of_textual context config.toMap (textual job List.mem_cons_self)
    have first : Prints (do Serving.say (← Serving.settled (DryRun.render context job config.toMap))) ()
        [text] :=
      .after (.settled written) (.say text)
    exact ⟨text :: texts, mapM_cons_of_ok written rendered, first.bind others⟩

theorem submitShown_prints {job : Topology} (textual : Textual job) :
    ∃ text handle, DryRun.render context job config.toMap = .ok text ∧
      (∀ world : World, (DryRun.submitter context).submit job config.toMap world = (.ok handle, world)) ∧
      Prints (report true handle) () [text] := by
  obtain ⟨text, written⟩ := render_of_textual context config.toMap textual
  refine ⟨text, { context := context, name := job.name, jobId := none, output := some ⟨text, "", 0⟩ },
    written, fun world => ?_, .say text⟩
  unfold DryRun.submitter
  dsimp only
  rw [written]
  rfl

theorem submitAllShown_prints (textual : ∀ job ∈ jobs, Textual job) :
    ∃ texts handles, (Submittal.all context config jobs).mapM Submittal.render = .ok texts ∧
      (∀ world : World, jobs.mapM (fun job => (DryRun.submitter context).submit job config.toMap) world =
        (.ok handles, world)) ∧
      Prints (handles.forM (report true)) () texts := by
  induction jobs with
  | nil => exact ⟨[], [], rfl, fun _ => rfl, .pure ()⟩
  | cons job rest ih =>
    obtain ⟨texts, handles, rendered, submitted, others⟩ :=
      ih fun other member => textual other (List.mem_cons_of_mem _ member)
    obtain ⟨text, handle, written, shown, first⟩ :=
      submitShown_prints context config (textual job List.mem_cons_self)
    refine ⟨text :: texts, handle :: handles, mapM_cons_of_ok written rendered, fun world => ?_,
      .bind first others⟩
    rw [List.mapM_cons, Action.bind_of_ok (shown world), Action.bind_of_ok (submitted world)]
    rfl

end

theorem lines_of_mapM {submittals : List Submittal} {texts : List String}
    (rendered : submittals.mapM Submittal.render = .ok texts) (closing : Option String) :
    Batch.lines { submittals := submittals, closing := closing } = .ok (texts ++ closing.toList) := by
  unfold Batch.lines
  rw [rendered]
  rfl

theorem lines_of_single {submittals : List Submittal} {texts : List String}
    (rendered : submittals.mapM Submittal.render = .ok texts) :
    [({ submittals := submittals, closing := none } : Batch)].mapM Batch.lines = .ok [texts] :=
  mapM_cons_of_ok ((lines_of_mapM rendered none).trans (congrArg _ (List.append_nil texts))) rfl

theorem textual_toolkits (sample : Sample) : ∀ path ∈ sample.toolkits, path.toText?.isSome := by
  cases sample <;> decide

theorem ofSample_eq_ok (sample : Sample) (toolkit : Path) :
    ∃ jobs, LaunchPlan.ofSample sample toolkit = .ok { jobs := jobs, config := sample.config } ∧
      jobs ≠ [] ∧ (toolkit.toText?.isSome → ∀ job ∈ jobs, Textual job) := by
  have job : toolkit.toText?.isSome → ∀ name kind, Textual
      (Topology.addToolkits { name := name, composite := kind, toolkits := [], parameters := .empty }
        (toolkit :: sample.toolkits)) :=
    fun textual name kind => textual_addToolkits (List.forall_mem_nil _)
      (List.forall_mem_cons.2 ⟨textual, textual_toolkits sample⟩)
  cases sample with
  | systemMonitor =>
    exact ⟨_, rfl, List.cons_ne_nil _ _, fun textual => by simpa using job textual _ _⟩
  | jobStatusMonitor =>
    exact ⟨_, rfl, List.cons_ne_nil _ _, fun textual => by
      simpa using ⟨job textual _ _, job textual _ _⟩⟩
  | microservices =>
    exact ⟨_, rfl, List.cons_ne_nil _ _, fun textual => by
      simpa using ⟨job textual _ _, job textual _ _, job textual _ _⟩⟩

theorem checkJobs_eq_ok (setup : CheckSetup) (check : CompositeCheck)
    (textual : ∀ toolkit ∈ setup.toolkits, toolkit.toText?.isSome) :
    ∃ before test, setup.before check = .ok before ∧ setup.test check = .ok test ∧
      (∀ job ∈ before, Textual job) ∧ Textual test := by
  have job : ∀ name kind, Textual
      (Topology.addToolkits { name := name, composite := kind, toolkits := [], parameters := .empty }
        setup.toolkits) :=
    fun name kind => textual_addToolkits (List.forall_mem_nil _) textual
  cases check with
  | metrics | logs => exact ⟨_, _, rfl, rfl, List.forall_mem_nil _, job _ _⟩
  | jobStatus => exact ⟨_, _, rfl, rfl, by simpa using job _ _, job _ _⟩

theorem Submittal.legible_all (context : JobContext) {config : JobConfig} (jobs : List Topology)
    (plain : config.extra = .empty) : ∀ submittal ∈ Submittal.all context config jobs, submittal.config.Legible := by
  intro submittal listed
  obtain ⟨job, -, rfl⟩ := List.mem_map.1 listed
  exact JobConfig.legible_toMap (plain ▸ List.forall_mem_nil _)

@[simp] theorem extra_checkSetup (settings : LauncherSettings) (request : VerifyRequest) (target : LaunchTarget) :
    (checkSetup settings request target).config.extra = .empty := by
  unfold checkSetup
  cases request.testToolkit <;> rfl

/-- No command passes on options of its own, and what it configures are truth values and words. -/
theorem legible_batches {settings : LauncherSettings} {request : Request} {plan : List Batch}
    (laid : batches settings request = .ok plan) :
    ∀ submittal ∈ plan.flatMap (·.submittals), submittal.config.Legible := by
  intro submittal listed
  obtain ⟨batch, among, listed⟩ := List.mem_flatMap.1 listed
  cases request with
  | launch sample target =>
    obtain ⟨made, planned, ⟨⟩⟩ := exists_of_bind_ok laid
    obtain ⟨jobs, -, ⟨⟩⟩ := exists_of_bind_ok planned
    obtain rfl := List.mem_singleton.1 among
    exact Submittal.legible_all _ _ rfl _ listed
  | launchComposite composite target =>
    obtain ⟨job, -, ⟨⟩⟩ := exists_of_bind_ok laid
    obtain rfl := List.mem_singleton.1 among
    exact Submittal.legible_all _ _ rfl _ listed
  | verify checks target =>
    obtain ⟨check, -, laid⟩ := exists_of_mem_mapM laid _ among
    obtain ⟨before, -, laid⟩ := exists_of_bind_ok laid
    obtain ⟨test, -, ⟨⟩⟩ := exists_of_bind_ok laid
    have plain := extra_checkSetup settings checks target
    rcases List.mem_append.1 listed with earlier | last
    · exact Submittal.legible_all _ _ plain _ earlier
    · exact Submittal.legible_all _ _ plain _ last
  | run | list | checkEnvironment =>
    cases laid
    cases among

theorem exists_line {plan : List Batch} {lines : List (List String)} (written : plan.mapM Batch.lines = .ok lines) :
    ∀ submittal ∈ plan.flatMap (·.submittals), ∃ text ∈ lines.flatten, submittal.render = .ok text := by
  intro submittal listed
  obtain ⟨batch, among, listed⟩ := List.mem_flatMap.1 listed
  obtain ⟨shown, member, told⟩ := exists_of_mapM_ok written batch among
  obtain ⟨texts, rendered, ⟨⟩⟩ := exists_of_bind_ok told
  obtain ⟨text, inside, drawn⟩ := exists_of_mapM_ok rendered submittal listed
  exact ⟨text, List.mem_flatten.2 ⟨_, member, List.mem_append_left _ inside⟩, drawn⟩

structure Shown (settings : LauncherSettings) (request : Request) (action : Surroundings → Serving Bool)
    (plan : List Batch) (lines : List (List String)) : Prop where
  laid : batches settings request = .ok plan
  written : plan.mapM Batch.lines = .ok lines
  printed : ∀ surroundings, Prints (action surroundings) true lines.flatten

theorem submitterTo_shown (surroundings : Surroundings) (settings : LauncherSettings)
    (context : JobContext) :
    Prints (submitterTo surroundings settings context true) (DryRun.submitter context) [] :=
  .pure _

section
variable (settings : LauncherSettings) (target : LaunchTarget)

theorem launch_shown (sample : Sample) (textual : (target.toolkit.getD settings.toolkit).toText?.isSome) :
    ∃ plan lines, Shown settings (.launch sample target)
      (launch · settings sample { target with dryRun := true }) plan lines := by
  obtain ⟨jobs, planned, -, written⟩ := ofSample_eq_ok sample (target.toolkit.getD settings.toolkit)
  obtain ⟨texts, handles, rendered, submitted, reported⟩ :=
    submitAllShown_prints (target.context.getD settings.context) sample.config (written textual)
  refine ⟨_, _, ?_, lines_of_single rendered, fun surroundings => ?_⟩
  · rw [batches, planned]
    rfl
  · rw [List.flatten_singleton]
    exact .after (.settled planned) <| .after (submitterTo_shown surroundings settings _) <|
      .after (.within submitted) <| .before reported (.pure true)

theorem compositeJob_eq_ok (request : CompositeRequest) (named : (Composite.splitKind? request.kind).isSome) :
    ∃ base, Topology.ofComposite (jobName request) request.kind = .ok base ∧
      compositeJob settings request target = .ok
        (((base.addToolkit (target.toolkit.getD settings.toolkit)).addToolkits request.toolkits).setParameters
          request.parameters) := by
  obtain ⟨parts, split⟩ := Option.isSome_iff_exists.1 named
  rw [compositeJob, Topology.ofComposite, split]
  exact ⟨_, rfl, rfl⟩

theorem usualParameters_none (surroundings : Surroundings) {context : JobContext} {dryRun : Bool}
    (idle : context ≠ .service ∨ dryRun = true) :
    usualParameters surroundings context dryRun = pure [] := by
  unfold usualParameters
  rw [if_neg]
  rcases idle with elsewhere | rfl
  · simp [elsewhere]
  · simp

theorem launchComposite_shown (request : CompositeRequest)
    (showable : Showable settings (.launchComposite request target))
    (textual : ∀ path ∈ toolkitPaths settings (.launchComposite request target), path.toText?.isSome) :
    ∃ plan lines, Shown settings (.launchComposite request target)
      (launchComposite · settings request { target with dryRun := true }) plan lines := by
  obtain ⟨named, unexpecting, -⟩ := showable
  obtain ⟨base, made, planned⟩ := compositeJob_eq_ok settings target request named
  have written : Textual ((base.addToolkits
      (target.toolkit.getD settings.toolkit :: request.toolkits)).setParameters request.parameters) :=
    textual_addToolkits (textual_ofComposite made) textual
  obtain ⟨text, handle, rendered, submitted, reported⟩ := submitShown_prints
    (target.context.getD settings.context) (compositeConfig request) written
  have document : (Submittal.all (target.context.getD settings.context) (compositeConfig request)
      [((base.addToolkit (target.toolkit.getD settings.toolkit)).addToolkits
        request.toolkits).setParameters request.parameters]).mapM Submittal.render = .ok [text] :=
    mapM_cons_of_ok rendered rfl
  refine ⟨_, _, ?_, lines_of_single document, fun surroundings => ?_⟩
  · rw [batches, planned]
    rfl
  · rw [List.flatten_singleton]
    unfold launchComposite
    simp only [unexpecting, usualParameters_none surroundings (.inr rfl)]
    exact .after (.settled made) <| .after (.pure []) <| .after (submitterTo_shown surroundings settings _) <|
      .after (.within submitted) <| .before reported (.pure true)

theorem showCheck_shown (setup : CheckSetup) (context : JobContext) (check : CompositeCheck)
    (textual : ∀ toolkit ∈ setup.toolkits, toolkit.toText?.isSome) :
    ∃ batch lines, checkBatch setup context check = .ok batch ∧ batch.lines = .ok lines ∧
      Prints (showCheck setup context check) () lines := by
  obtain ⟨before, test, earlier, tested, writtenBefore, writtenTest⟩ := checkJobs_eq_ok setup check textual
  obtain ⟨texts, rendered, shownBefore⟩ := showJobs_prints .distributed setup.config writtenBefore
  obtain ⟨text, testRendered⟩ := render_of_textual context setup.config.toMap writtenTest
  have document : (Submittal.all context setup.config [test]).mapM Submittal.render = .ok [text] :=
    mapM_cons_of_ok testRendered rfl
  refine ⟨_, _, checkBatch_eq context earlier tested,
    lines_of_mapM (mapM_append_of_ok rendered document) _, ?_⟩
  · rw [List.append_assoc]
    have shownTest : Prints (do Serving.say (← Serving.settled (DryRun.render context test
        setup.config.toMap))) () [text] :=
      .after (.settled testRendered) (.say text)
    exact .after (.settled earlier) <| .after (.settled tested) <| .bind shownBefore <|
      shownTest.bind (.say _)

@[simp] theorem toolkits_checkSetup (settings : LauncherSettings) (request : VerifyRequest) (target : LaunchTarget) :
    (checkSetup settings request target).toolkits =
      [request.testToolkit.getD (.ofText Composite.testToolkit), target.toolkit.getD settings.toolkit] := by
  unfold checkSetup
  cases request.testToolkit <;> rfl

theorem verify_shown (request : VerifyRequest)
    (textual : ∀ path ∈ toolkitPaths settings (.verify request target), path.toText?.isSome) :
    ∃ plan lines, Shown settings (.verify request target)
      (verify · settings request { target with dryRun := true }) plan lines := by
  have written : ∀ toolkit ∈ (checkSetup settings request target).toolkits, toolkit.toText?.isSome := by
    -- The toolkit with the test composites has a standard name where none is given.
    intro toolkit member
    rw [toolkits_checkSetup] at member
    rcases List.mem_cons.1 member with rfl | member
    · cases given : request.testToolkit with
      | none => exact Option.isSome_iff_exists.2 ⟨_, Octets.toText?_ofText _⟩
      | some path => exact textual path (List.mem_cons_of_mem _ (by rw [given]; exact List.mem_cons_self))
    · rw [List.mem_singleton.1 member]
      exact textual _ List.mem_cons_self
  have all : ∀ checks : List CompositeCheck, ∃ plan lines,
      checks.mapM (checkBatch (checkSetup settings request target) (target.context.getD .standalone)) =
        .ok plan ∧ plan.mapM Batch.lines = .ok lines ∧
      Prints (checks.forM
        (showCheck (checkSetup settings request target) (target.context.getD .standalone))) ()
        lines.flatten := by
    intro checks
    induction checks with
    | nil => exact ⟨[], [], rfl, rfl, .pure ()⟩
    | cons check rest ih =>
      obtain ⟨plan, lines, laid, told, others⟩ := ih
      obtain ⟨batch, first, batched, document, shown⟩ := showCheck_shown
        (checkSetup settings request target) (target.context.getD .standalone) check written
      exact ⟨batch :: plan, first :: lines, mapM_cons_of_ok batched laid, mapM_cons_of_ok document told,
        .bind shown others⟩
  obtain ⟨plan, lines, laid, told, printed⟩ := all (checksOf request)
  exact ⟨plan, lines, laid, told, fun _ => printed.before (.pure true)⟩

end

end ScenarioBench.CommandLine

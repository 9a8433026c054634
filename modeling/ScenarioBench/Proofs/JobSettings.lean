import ScenarioBench.CommandLine.Grammar
import ScenarioBench.Launch.Service
import ScenarioBench.Launch.Standalone
import ScenarioBench.Launch.Streamtool

/-! What submissions tell of a job.

The instance tool, the compiled executable and the service are each told the parameters of a job in a form of
their own. The forms are read back here by their positions and names alone. Main statement: each of them tells
exactly the parameters of the topology, in ascending order of their names, and the forms that tell a name and a
trace level tell the same ones, whatever the texts look like.
-/

set_option autoImplicit false

namespace ScenarioBench

/-- What a submission tells of a job. -/
structure JobSettings where
  name : String
  trace : Option String
  parameters : List (String × String)
  deriving DecidableEq

namespace JobSettings

def readAssignments (arguments : List String) : Option (List (String × String)) :=
  arguments.mapM (Text.splitAtFirst "=")

def readAnnounced : List String → Option (List (String × String))
  | [] => some []
  | "-P" :: argument :: rest => do
    return (← Text.splitAtFirst "=" argument) :: (← readAnnounced rest)
  | _ => none

def readTrace : List String → Option (Option String × List String)
  | "-C" :: argument :: rest => do
    let (name, level) ← Text.splitAtFirst "=" argument
    if name = "tracing" then return (some level, rest) else none
  | rest => some (none, rest)

def ofArguments? : List String → Option JobSettings
  | "submitjob" :: _archive :: "-d" :: _domain :: "-i" :: _instance :: "--jobname" :: name :: rest => do
    let (trace, announced) ← readTrace rest
    return { name := name, trace := trace, parameters := ← readAnnounced announced }
  | _ => none

def readParameter (value : Json) : Option (String × String) := do
  return (← (value.member? "name").bind Json.string?, ← (value.member? "value").bind Json.string?)

def ofMembers? (job : Json) : Option JobSettings := do
  let name ← (job.member? "jobName").bind Json.string?
  let trace ← match job.member? "tracing" with
    | some level => level.string?.map some
    | none => some none
  let parameters ← match job.member? "submissionParameters" with
    | some listed => listed.items?.bind (·.mapM readParameter)
    | none => some []
  return { name := name, trace := trace, parameters := parameters }

def ofOptions? (options : Json) : Option JobSettings :=
  match (options.member? "jobConfigOverlays").bind Json.items? with
  | some [overlay] => (overlay.member? "jobConfig").bind ofMembers?
  | _ => none

def ofJob (topology : Topology) (config : ConfigMap) : JobSettings where
  name := topology.name
  trace := config.text? JobOption.tracing
  parameters := topology.parameters.entries

variable {entries : List (String × String)}

/-- Names in which the first equals sign after them is the one that was put there. -/
def Plain (entries : List (String × String)) : Prop :=
  ∀ entry ∈ entries, '=' ∉ entry.1.toList

instance (entries : List (String × String)) : Decidable (Plain entries) :=
  inferInstanceAs (Decidable (∀ entry ∈ entries, '=' ∉ entry.1.toList))

@[simp] theorem splitAtFirst_assignment {entry : String × String} (plain : '=' ∉ entry.1.toList) :
    Text.splitAtFirst "=" (entry.1 ++ "=" ++ entry.2) = some entry :=
  Text.splitAtFirst_equals_iff.2 ⟨rfl, plain⟩

theorem readAssignments_map (plain : Plain entries) :
    readAssignments (entries.map fun (name, value) => name ++ "=" ++ value) = some entries := by
  unfold readAssignments
  induction entries with
  | nil => rfl
  | cons entry rest ih =>
    have others := ih fun other member => plain other (List.mem_cons_of_mem _ member)
    rw [List.map_cons, List.mapM_cons, splitAtFirst_assignment (plain entry List.mem_cons_self), others]
    rfl

theorem readAnnounced_flatMap (plain : Plain entries) :
    readAnnounced ((entries.map fun (name, value) => name ++ "=" ++ value).flatMap
      fun argument => ["-P", argument]) = some entries := by
  induction entries with
  | nil => rfl
  | cons entry rest ih =>
    have others := ih fun other member => plain other (List.mem_cons_of_mem _ member)
    rw [List.map_cons, List.flatMap_cons, List.cons_append, List.cons_append, List.nil_append,
      readAnnounced, splitAtFirst_assignment (plain entry List.mem_cons_self), others]
    rfl

theorem readTrace_flatMap (arguments : List String) :
    readTrace (arguments.flatMap fun argument => ["-P", argument]) =
      some (none, arguments.flatMap fun argument => ["-P", argument]) := by
  cases arguments with
  | nil => rfl
  | cons argument rest => rw [List.flatMap_cons, List.cons_append, List.cons_append, readTrace]; simp

theorem readTrace_traceArguments (config : ConfigMap) (arguments : List String) :
    readTrace (Streamtool.traceArguments config ++ arguments.flatMap fun argument => ["-P", argument]) =
      some (config.text? JobOption.tracing, arguments.flatMap fun argument => ["-P", argument]) := by
  unfold Streamtool.traceArguments
  rcases config.text? JobOption.tracing with _ | level
  · exact readTrace_flatMap arguments
  · have split : Text.splitAtFirst "=" ("tracing=" ++ level) = some ("tracing", level) :=
      Text.splitAtFirst_equals_iff.2 ⟨rfl, by decide⟩
    simp only [List.cons_append, List.nil_append, readTrace, split]
    rfl

theorem ofArguments?_submitArguments (tool : Streamtool) (archive : String) (topology : Topology)
    (config : ConfigMap) (plain : Plain topology.parameters.entries) :
    ofArguments? (tool.submitArguments archive topology config) = some (ofJob topology config) := by
  have positions : tool.submitArguments archive topology config =
      "submitjob" :: archive :: "-d" :: tool.domain :: "-i" :: tool.instanceId :: "--jobname" ::
        topology.name :: (Streamtool.traceArguments config ++
          topology.parameterArguments.flatMap fun argument => ["-P", argument]) := by
    simp [Streamtool.submitArguments, Streamtool.address]
  have announced : readAnnounced (topology.parameterArguments.flatMap fun argument => ["-P", argument]) =
      some topology.parameters.entries :=
    readAnnounced_flatMap plain
  rw [positions, ofArguments?, readTrace_traceArguments]
  simp [announced, ofJob]

@[simp] theorem readParameter_object (entry : String × String) :
    readParameter (.object [("name", .string entry.1), ("value", .string entry.2)]) = some entry :=
  rfl

@[simp] theorem mapM_readParameter (entries : List (String × String)) :
    (entries.map fun (name, value) =>
      Json.object [("name", .string name), ("value", .string value)]).mapM readParameter =
      some entries := by
  induction entries with
  | nil => rfl
  | cons entry rest ih =>
    rw [List.map_cons, List.mapM_cons, readParameter_object, ih]
    rfl

theorem ofMembers?_object (name : String) (objects : List Json) (trace : Option String) :
    ofMembers? (.object ([("jobName", Json.string name)]
        ++ (if objects.isEmpty then [] else [("submissionParameters", .array objects)])
        ++ (trace.map fun level => ("tracing", Json.string level)).toList)) =
      (objects.mapM readParameter).map fun parameters =>
        { name := name, trace := trace, parameters := parameters } := by
  have read : ∀ result : Option (List (String × String)),
      (do return { name := name, trace := trace, parameters := ← result } : Option JobSettings) =
        result.map fun parameters => { name := name, trace := trace, parameters := parameters } := by
    intro result
    cases result <;> rfl
  rw [← read]
  cases objects <;> cases trace <;> rfl

theorem ofOptions?_jobOptions (topology : Topology) (config : ConfigMap) :
    ofOptions? (Service.jobOptions topology config) = some (ofJob topology config) := by
  have found : ofOptions? (Service.jobOptions topology config) = _ :=
    ofMembers?_object topology.name _ (config.text? JobOption.tracing)
  rw [found, mapM_readParameter]
  rfl

theorem plain_setParameters {topology : Topology} (plain : Plain topology.parameters.entries)
    {settings : List (String × String)}
    (read : ∀ setting ∈ settings, ∃ text, CommandLine.readSetting? text = some setting) :
    Plain (topology.setParameters settings).parameters.entries := by
  unfold Topology.setParameters Dictionary.insertMany
  generalize topology.parameters = parameters at plain ⊢
  induction settings generalizing parameters with
  | nil => exact plain
  | cons setting rest ih =>
    refine ih (fun other member => read other (List.mem_cons_of_mem _ member)) _ ?_
    intro entry member
    rcases Entries.mem_insert member with rfl | old
    · obtain ⟨text, whole⟩ := read setting List.mem_cons_self
      have split := (Option.filter_eq_some_iff.1 whole).1
      exact (Text.splitAtFirst_equals_iff.1 split).2
    · exact plain entry old

@[simp] theorem trace_eq_some_iff (topology : Topology) (config : ConfigMap) (level : String) :
    (ofJob topology config).trace = some level ↔
      config.get? JobOption.tracing = some (.string level) := by
  show (config.get? JobOption.tracing).bind Json.string? = some level ↔ _
  rcases config.get? JobOption.tracing with _ | _ | _ | _ | _ | _ | _ <;> simp [Json.string?]

/-- The forms in which a job is submitted tell the same, and nothing is lost in them. -/
theorem submissions_tell_settings (topology : Topology) (config : ConfigMap)
    (plain : Plain topology.parameters.entries) :
    (∀ tool archive, ofArguments? (Streamtool.submitArguments tool archive topology config) =
      some (ofJob topology config)) ∧
    (∀ executable bundle, readAssignments (Standalone.command executable bundle topology).arguments =
      some (ofJob topology config).parameters) ∧
    ofOptions? (Service.jobOptions topology config) = some (ofJob topology config) ∧
    Ascending (ofJob topology config).parameters ∧
    (∀ level, (ofJob topology config).trace = some level ↔
      config.get? JobOption.tracing = some (.string level)) ∧
    ∀ settings : List (String × String),
      (∀ setting ∈ settings, ∃ text, CommandLine.readSetting? text = some setting) →
      Plain (topology.setParameters settings).parameters.entries :=
  ⟨fun tool archive => ofArguments?_submitArguments tool archive topology config plain,
    fun _ _ => readAssignments_map plain,
    ofOptions?_jobOptions topology config,
    topology.parameters.ascending,
    trace_eq_some_iff topology config,
    fun _ => plain_setParameters plain⟩

def trickyTopology : Topology where
  name := "--jobname=x"
  composite := "a::B"
  toolkits := []
  parameters := .ofList [("-P", "-C"), ("", "=tracing=debug"), ("-C name", "a=b=")]

theorem submissions_tell_settings_tricky :
    Plain trickyTopology.parameters.entries ∧
    (ofJob trickyTopology .empty).parameters =
      [("", "=tracing=debug"), ("-C name", "a=b="), ("-P", "-C")] ∧
    (∀ tool archive, ofArguments? (Streamtool.submitArguments tool archive trickyTopology .empty) =
      some (ofJob trickyTopology .empty)) := by
  have plain : Plain trickyTopology.parameters.entries := by decide
  exact ⟨plain, by decide, (submissions_tell_settings trickyTopology .empty plain).1⟩

end JobSettings

end ScenarioBench

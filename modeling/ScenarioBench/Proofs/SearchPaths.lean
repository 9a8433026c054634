import ScenarioBench.Launch.Check
import ScenarioBench.Launch.Compiler
import ScenarioBench.Proofs.AbsolutePaths
import Mathlib.Data.List.Induction

/-! The toolkits that a job searches.

However often and however differently spelled a toolkit is mentioned, it is searched once, at the place of its first
mention, and the compiler is told so. Main statement: this holds of every job that toolkits are added to, and of every
job of a check, where all jobs search the same toolkits and only the test composite takes the parameters.
-/

set_option autoImplicit false

namespace ScenarioBench

namespace Path

/-- The first mention of each path of a list, in the order of the list. -/
def firstMentions (mentions : List Path) : List Path :=
  (mentions.zipIdx.filter fun mention => !(mentions.take mention.2).any (·.same mention.1)).map (·.1)

variable {first second path : Path} {mentions : List Path}

theorem same_iff : first.same second = true ↔ first.parts = second.parts :=
  decide_eq_true_iff

theorem any_same_iff : mentions.any (·.same path) = true ↔ ∃ known ∈ mentions, known.parts = path.parts := by
  simp only [List.any_eq_true, same_iff]

theorem firstMentions_append_singleton (mentions : List Path) (path : Path) :
    firstMentions (mentions ++ [path]) =
      if mentions.any (·.same path) then firstMentions mentions else firstMentions mentions ++ [path] := by
  -- Which mentions come before an earlier one does not depend on the last.
  have earlier : mentions.zipIdx.filter
        (fun mention => !((mentions ++ [path]).take mention.2).any (·.same mention.1)) =
      mentions.zipIdx.filter fun mention => !(mentions.take mention.2).any (·.same mention.1) := by
    refine List.filter_congr fun mention member => ?_
    have inside : mention.2 ≤ mentions.length := by
      have bounds := List.mem_zipIdx member
      omega
    rw [List.take_append_of_le_length inside]
  rw [firstMentions, List.zipIdx_append, List.filter_append, List.map_append, earlier, firstMentions]
  by_cases known : mentions.any (·.same path) = true <;> simp [known]

theorem firstMentions_sublist (mentions : List Path) : (firstMentions mentions).Sublist mentions := by
  have kept : (firstMentions mentions).Sublist (mentions.zipIdx.map (·.1)) := List.filter_sublist.map _
  rwa [List.zipIdx_map_fst] at kept

theorem exists_firstMention (member : path ∈ mentions) :
    ∃ kept ∈ firstMentions mentions, kept.parts = path.parts := by
  induction mentions using List.reverseRecOn generalizing path with
  | nil => cases member
  | append_singleton mentions last ih =>
    rw [firstMentions_append_singleton]
    -- The last path is kept itself unless an earlier one is the same, which then has one that is kept.
    rcases List.mem_append.1 member with earlier | isLast
    · obtain ⟨kept, listed, same⟩ := ih earlier
      split
      · exact ⟨kept, listed, same⟩
      · exact ⟨kept, List.mem_append_left _ listed, same⟩
    · obtain rfl := List.mem_singleton.1 isLast
      split
      · rename_i known
        obtain ⟨before, mentioned, same⟩ := any_same_iff.1 known
        obtain ⟨kept, listed, sameToo⟩ := ih mentioned
        exact ⟨kept, listed, sameToo.trans same⟩
      · exact ⟨path, List.mem_append_right _ List.mem_cons_self, rfl⟩

theorem firstMentions_pairwise (mentions : List Path) :
    (firstMentions mentions).Pairwise fun earlier later => earlier.parts ≠ later.parts := by
  induction mentions using List.reverseRecOn with
  | nil => exact List.Pairwise.nil
  | append_singleton mentions last ih =>
    rw [firstMentions_append_singleton]
    split
    · exact ih
    · rename_i fresh
      refine List.pairwise_append.2 ⟨ih, List.pairwise_singleton _ _, fun kept listed other isLast same => ?_⟩
      obtain rfl := List.mem_singleton.1 isLast
      exact fresh (any_same_iff.2 ⟨kept, (firstMentions_sublist mentions).subset listed, same⟩)

@[simp] theorem any_firstMentions (mentions : List Path) (path : Path) :
    (firstMentions mentions).any (·.same path) = mentions.any (·.same path) := by
  refine Bool.eq_iff_iff.2 ?_
  rw [any_same_iff, any_same_iff]
  constructor
  · rintro ⟨kept, listed, same⟩
    exact ⟨kept, (firstMentions_sublist mentions).subset listed, same⟩
  · rintro ⟨known, mentioned, same⟩
    obtain ⟨kept, listed, sameToo⟩ := exists_firstMention mentioned
    exact ⟨kept, listed, sameToo.trans same⟩

@[simp] theorem parts_append_slash (nonempty : path.octets ≠ []) :
    (⟨path.octets ++ [slash]⟩ : Path).parts = path.parts := by
  have pieces : splitNames (path.octets ++ [slash]) = splitNames path.octets ++ [[]] :=
    splitNames_append_slash path.octets []
  have names : (⟨path.octets ++ [slash]⟩ : Path).names = path.names := by simp [Path.names, pieces]
  have start : (⟨path.octets ++ [slash]⟩ : Path).isAbsolute = path.isAbsolute := by
    -- A path that is not empty starts where it did.
    obtain ⟨head, rest, whole⟩ := List.exists_cons_of_ne_nil nonempty
    simp [isAbsolute, whole]
  rw [parts, parts, names, start]

end Path

namespace Compiler

/-- Arguments that list toolkits: none for none, otherwise one option with their texts between colons. Where none of
the texts has a colon in it, the toolkits can be read back from the list. -/
structure Lists (toolkits : List Path) (arguments : List String) : Prop where
  silent : toolkits = [] → arguments = []
  joined : toolkits ≠ [] → arguments = ["-t", ":".intercalate (toolkits.map Path.display)]
  readBack : ∀ list, arguments = ["-t", list] →
    (∀ toolkit ∈ toolkits, toolkit.octets.IsText ∧ ':' ∉ toolkit.display.toList) →
    (list.toList.splitOn ':').map (fun piece => Path.ofText (String.ofList piece)) = toolkits

theorem lists_toolkitArguments (topology : Topology) : Lists topology.toolkits (toolkitArguments topology) := by
  unfold toolkitArguments
  by_cases none : topology.toolkits = []
  · rw [none]
    exact ⟨fun _ => rfl, fun some => absurd rfl some, nofun⟩
  · rw [if_neg (by simpa using none)]
    refine ⟨fun empty => absurd empty none, fun _ => rfl, fun list told plain => ?_⟩
    obtain rfl : ":".intercalate (topology.toolkits.map Path.display) = list := by simpa using told
    -- The list falls apart at its colons into what was joined, as no text has one.
    have apart : ∀ piece ∈ (topology.toolkits.map Path.display).map String.toList, ':' ∉ piece := by
      simpa using fun toolkit member => (plain toolkit member).2
    have colon : ":".toList = [':'] := rfl
    rw [String.toList_intercalate, colon, List.splitOn_intercalate ':' apart (by simpa using none), List.map_map,
      List.map_map]
    refine (List.map_congr_left fun toolkit member => ?_).trans (List.map_id _)
    simpa using Path.ofText_display (plain toolkit member).1

end Compiler

namespace Topology

/-- A job searches the toolkits that were mentioned: each once, where it was mentioned first, and the compiler is
told so. -/
structure SearchesOnce (topology : Topology) (mentions : List Path) : Prop where
  firsts : topology.toolkits = Path.firstMentions mentions
  inOrder : topology.toolkits.Sublist mentions
  once : topology.toolkits.Pairwise fun earlier later => earlier.parts ≠ later.parts
  complete : ∀ mention ∈ mentions, ∃ toolkit ∈ topology.toolkits, toolkit.parts = mention.parts
  told : ∀ (compiler : Compiler) (standalone : Bool), ∃ listing, Compiler.Lists topology.toolkits listing ∧
    compiler.arguments topology standalone = ["-M", topology.composite] ++ listing
      ++ ["--output-directory", (compiler.outputOf topology).display] ++ if standalone then ["-T"] else []

variable {topology : Topology}

theorem searchesOnce_of_firsts {mentions : List Path} (firsts : topology.toolkits = Path.firstMentions mentions) :
    topology.SearchesOnce mentions where
  firsts := firsts
  inOrder := firsts ▸ Path.firstMentions_sublist mentions
  once := firsts ▸ Path.firstMentions_pairwise mentions
  complete := fun _ member => firsts ▸ Path.exists_firstMention member
  told := fun _ _ => ⟨_, Compiler.lists_toolkitArguments topology, rfl⟩

theorem addToolkits_append_singleton (topology : Topology) (mentions : List Path) (last : Path) :
    topology.addToolkits (mentions ++ [last]) = (topology.addToolkits mentions).addToolkit last := by
  rw [addToolkits, List.foldl_append]
  rfl

theorem toolkits_addToolkits (none : topology.toolkits = []) (mentions : List Path) :
    (topology.addToolkits mentions).toolkits = Path.firstMentions mentions := by
  induction mentions using List.reverseRecOn with
  | nil => exact none
  | append_singleton mentions last ih =>
    -- The paths that are searched so far are those that were mentioned so far.
    have searched : (topology.addToolkits mentions).searches last = mentions.any (·.same last) := by
      rw [searches, ih, Path.any_firstMentions]
    rw [addToolkits_append_singleton, addToolkit, searched, Path.firstMentions_append_singleton]
    split
    · exact ih
    · exact congrArg (· ++ [last]) ih

theorem addToolkits_eq (topology : Topology) (mentions : List Path) :
    topology.addToolkits mentions = { topology with toolkits := (topology.addToolkits mentions).toolkits } := by
  induction mentions using List.reverseRecOn with
  | nil => rfl
  | append_singleton mentions last ih =>
    rw [addToolkits_append_singleton, addToolkit]
    split
    · exact ih
    · rw [ih]

end Topology

namespace CheckSetup

/-- The job of a composite as a setup equips it. -/
structure Equipped (setup : CheckSetup) (kind : String × String) (parameters : Dictionary String)
    (job : Topology) : Prop where
  named : (job.name, job.composite) = kind
  searches : job.SearchesOnce setup.toolkits
  parameters : job.parameters = parameters

theorem job_equipped (setup : CheckSetup) (name : String) {kind : String}
    (qualified : (Composite.splitKind? kind).isSome) :
    ∃ job, setup.job name kind = .ok job ∧ setup.Equipped (name, kind) .empty job := by
  obtain ⟨parts, split⟩ := Option.isSome_iff_exists.1 qualified
  let bare : Topology := { name := name, composite := kind, toolkits := [], parameters := .empty }
  have made : Topology.ofComposite name kind = .ok bare := by rw [Topology.ofComposite, split]
  have firsts : (bare.addToolkits setup.toolkits).toolkits = Path.firstMentions setup.toolkits :=
    Topology.toolkits_addToolkits rfl _
  refine ⟨bare.addToolkits setup.toolkits, by rw [job, made]; rfl, ?_, Topology.searchesOnce_of_firsts firsts, ?_⟩
  · rw [Topology.addToolkits_eq]
  · rw [Topology.addToolkits_eq]

theorem before_equipped (setup : CheckSetup) (check : CompositeCheck) :
    ∃ jobs, setup.before check = .ok jobs ∧
      List.Forall₂ (setup.Equipped · .empty) check.prelaunch?.toList jobs := by
  cases check with
  | metrics | logs => exact ⟨[], rfl, .nil⟩
  | jobStatus =>
    have qualified : (Composite.splitKind? Composite.sampleCrashSource).isSome := by decide
    obtain ⟨job, made, equipped⟩ := setup.job_equipped "SampleCrashApp" qualified
    refine ⟨[job], ?_, .cons equipped .nil⟩
    show (do return [← setup.job "SampleCrashApp" Composite.sampleCrashSource]) = _
    rw [made]
    rfl

theorem test_equipped (setup : CheckSetup) (check : CompositeCheck) :
    ∃ job, setup.test check = .ok job ∧
      setup.Equipped (check.jobName, check.composite) setup.parameters job := by
  have qualified : (Composite.splitKind? check.composite).isSome := by cases check <;> decide
  obtain ⟨job, made, named, searches, parameters⟩ := setup.job_equipped check.jobName qualified
  refine ⟨job.setParameters setup.parameters.entries, by rw [test, made]; rfl, named, ?_, ?_⟩
  · exact Topology.searchesOnce_of_firsts searches.firsts
  · rw [Topology.setParameters, parameters]
    exact Dictionary.ofList_entries setup.parameters

/-- Paths that differ in separators at their end are one toolkit. A job to which toolkits are added searches each once,
at its first mention. The jobs of a check are the one that has to run before, if there is one, and the test composite:
all search the toolkits of the setup in this way, and only the last takes its parameters. -/
theorem jobs_search_once :
    (∀ path : Path, path.octets ≠ [] → (⟨path.octets ++ [Path.slash]⟩ : Path).parts = path.parts) ∧
    (∀ name kind topology mentions, Topology.ofComposite name kind = .ok topology →
      (topology.addToolkits mentions).SearchesOnce mentions) ∧
    ∀ (setup : CheckSetup) (check : CompositeCheck), ∃ before test,
      setup.topologies check = .ok (before ++ [test]) ∧
      List.Forall₂ (setup.Equipped · .empty) check.prelaunch?.toList before ∧
      setup.Equipped (check.jobName, check.composite) setup.parameters test := by
  refine ⟨fun path nonempty => Path.parts_append_slash nonempty, ?_, fun setup check => ?_⟩
  · intro name kind topology mentions made
    have none : topology.toolkits = [] := by
      unfold Topology.ofComposite at made
      split at made
      · cases made
        rfl
      · cases made
    exact Topology.searchesOnce_of_firsts (Topology.toolkits_addToolkits none mentions)
  · obtain ⟨before, earlier, equipped⟩ := setup.before_equipped check
    obtain ⟨test, tested, last⟩ := setup.test_equipped check
    refine ⟨before, test, ?_, equipped, last⟩
    rw [topologies, earlier, tested]
    rfl

theorem jobs_search_once_respelled : ∃ topology, Topology.ofComposite "Job" "a::B" = .ok topology ∧
    (topology.addToolkits (["a", "b", "a//", "./a", "b/."].map Path.ofText)).toolkits =
      ["a", "b", "./a"].map Path.ofText ∧
    (Path.ofText "a").octets ≠ [] ∧ (Path.ofText "a/").parts = (Path.ofText "a").parts := by
  have made : Topology.ofComposite "Job" "a::B" = .ok ⟨"Job", "a::B", [], .empty⟩ := rfl
  have nonempty : (Path.ofText "a").octets ≠ [] := by decide
  have firsts := (jobs_search_once.2.1 _ _ _ (["a", "b", "a//", "./a", "b/."].map Path.ofText) made).firsts
  refine ⟨_, made, firsts.trans (by decide), nonempty, jobs_search_once.1 _ nonempty⟩

end CheckSetup

end ScenarioBench

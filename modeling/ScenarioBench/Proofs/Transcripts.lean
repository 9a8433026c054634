import Mathlib
import ScenarioBench.Proofs.Reporting

/-! What the console writes about a run.

Without colours, and without more words than it needs, the console writes one block for each result between a line for
a run that selects nothing and a line of counts for a run that has results. A failure block is divided at its first
verdict and put together again, which changes nothing whatever the streams hold. Main statement: this is the text of
every run, whatever time it took.
-/

set_option autoImplicit false

namespace ScenarioBench

def RunEvent.untimed : RunEvent → RunEvent
  | .completed name result _ => .completed name result 0
  | .finished summary _ => .finished summary 0
  | other => other

def ScenarioResult.plainBlock (name : String) : ScenarioResult → String
  | .passed => name ++ " pass\n"
  | .failed (.streams failure) => failure.report name
  | .failed (.message text) => name ++ " fail:\n\t" ++ text ++ "\n"
  | .skipped reason => name ++ " skipped (" ++ reason ++ ")\n"

namespace Summary

def tally (summary : Summary) : List (Nat × String) :=
  [(summary.passed, "passed"), (summary.failed, "failed"), (summary.skipped, "skipped")].filter fun entry =>
    entry.1 ≠ 0

theorem Counts.sum_tally {summary : Summary} {results : List ScenarioResult} (counts : summary.Counts results) :
    (summary.tally.map (·.1)).sum = results.length := by
  -- What is left out does not add to the sum.
  have sum_filter (entries : List (Nat × String)) :
      ((entries.filter fun entry => entry.1 ≠ 0).map (·.1)).sum = (entries.map (·.1)).sum := by
    induction entries with
    | nil => rfl
    | cons entry rest ih => by_cases none : entry.1 = 0 <;> simp_all
  rw [tally, sum_filter, ← counts.total, ← counts.balanced]
  simp [Nat.add_assoc]

end Summary

namespace Console

def plain : Console :=
  { verbose := false, coloured := false }

variable {console : Console}

theorem paint_eq (colourless : console.coloured = false) (colour : Colour) (text : String) :
    console.paint colour text = text :=
  if_neg (by simp [colourless])

theorem infix_report (failure : TestFailure) (name : String) :
    failureMark.toList <:+: (failure.report name).toList := by
  refine ⟨name.toList, ("\n\tstdout: " ++ failure.stdout ++ "\n\tstderr: " ++ failure.stderr ++ "\n").toList, ?_⟩
  have mark : " fail:\n\tstdout: " = failureMark ++ "\n\tstdout: " := by decide
  rw [TestFailure.report, mark]
  simp only [String.toList_append, List.append_assoc]

/-- Whatever a failure block is made of, it has a verdict to be divided at, and is put together again. -/
theorem failureBlock_eq_report (colourless : console.coloured = false) (name : String) (failure : TestFailure) :
    ∃ before after, Text.splitAtFirst failureMark (failure.report name) = some (before, after) ∧
      failure.report name = before ++ failureMark ++ after ∧
      console.failureBlock name failure = failure.report name := by
  obtain ⟨before, after, split, whole⟩ := Text.exists_splitAtFirst (infix_report failure name)
  refine ⟨before, after, split, whole, ?_⟩
  have mark : failureMark = " " ++ "fail" ++ ":" := by decide
  rw [failureBlock, split]
  show before ++ " " ++ console.paint .red "fail" ++ ":" ++ after = failure.report name
  rw [paint_eq colourless, whole, mark]
  simp only [String.append_assoc]

@[simp] theorem block_plain (name : String) (result : ScenarioResult) (elapsed : Nat) :
    plain.block name result elapsed = result.plainBlock name := by
  have together (first second third : String) : first ++ second ++ third = first ++ (second ++ third) :=
    String.append_assoc ..
  cases result with
  | passed =>
    show name ++ " " ++ plain.paint .green "pass" ++ "" ++ "\n" = name ++ " pass\n"
    rw [paint_eq rfl, String.append_empty, String.append_assoc, String.append_assoc]
    rfl
  | failed detail =>
    cases detail with
    | streams failure =>
      obtain ⟨-, -, -, -, same⟩ := failureBlock_eq_report (rfl : plain.coloured = false) name failure
      exact same
    | message text =>
      have mark : " fail:\n\t" = " " ++ ("fail" ++ ":\n\t") := by decide
      show name ++ " " ++ plain.paint .red "fail" ++ ":\n\t" ++ text ++ "\n" = name ++ " fail:\n\t" ++ text ++ "\n"
      rw [paint_eq rfl, mark]
      simp only [String.append_assoc]
  | skipped reason =>
    have mark : " skipped (" = " " ++ ("skipped" ++ " (") := by decide
    show name ++ " " ++ plain.paint .yellow "skipped" ++ " (" ++ reason ++ ")\n" =
      name ++ " skipped (" ++ reason ++ ")\n"
    rw [paint_eq rfl, mark]
    simp only [String.append_assoc]

@[simp] theorem counts_plain (summary : Summary) :
    plain.counts summary = summary.tally.map fun entry => toString entry.1 ++ " " ++ entry.2 := by
  have words : " passed" = " " ++ "passed" ∧ " failed" = " " ++ "failed" ∧ " skipped" = " " ++ "skipped" := by decide
  rw [counts, Summary.tally, words.1, words.2.1, words.2.2]
  by_cases passed : summary.passed = 0 <;> by_cases failed : summary.failed = 0 <;>
    by_cases skipped : summary.skipped = 0 <;>
    simp [passed, failed, skipped, paint_eq (rfl : plain.coloured = false), String.append_assoc]

def countsLine (summary : Summary) (elapsed : Nat) : String :=
  "\n====== " ++ ", ".intercalate (summary.tally.map fun entry => toString entry.1 ++ " " ++ entry.2)
    ++ " in " ++ secondsText elapsed ++ "s ======\n"

theorem closing_plain {summary : Summary} {results : List ScenarioResult} (counts : summary.Counts results)
    (elapsed : Nat) : plain.closing summary elapsed = if results = [] then "" else countsLine summary elapsed := by
  have none : summary.total = 0 ↔ results = [] := by rw [counts.total, List.length_eq_zero_iff]
  rw [closing, counts_plain]
  exact if_congr none rfl rfl

@[simp] theorem report_append (console : Console) (first second : List RunEvent) :
    console.report (first ++ second) = console.report first ++ console.report second := by
  rw [report, report, report, List.map_append, String.join_append]

@[simp] theorem report_singleton (console : Console) (event : RunEvent) :
    console.report [event] = console.render event := by
  rw [report, List.map_singleton, String.join_cons, String.join_nil, String.append_empty]

theorem report_untimed {events : List RunEvent}
    (going : ∀ event ∈ events, ∀ summary, event.untimed ≠ .finished summary 0) :
    plain.report (events.map RunEvent.untimed) = plain.report events := by
  rw [report, report, List.map_map]
  refine congrArg String.join (List.map_congr_left fun event member => ?_)
  cases event with
  | collected | started => rfl
  | completed name result elapsed => exact (block_plain name result 0).trans (block_plain name result elapsed).symm
  | finished summary elapsed => exact absurd rfl (going _ member summary)

theorem report_of_results (results : List (String × ScenarioResult)) :
    plain.report (results.flatMap fun entry => [.started entry.1, .completed entry.1 entry.2 0]) =
      String.join (results.map fun entry => entry.2.plainBlock entry.1) := by
  induction results with
  | nil => rfl
  | cons entry rest ih =>
    have single : plain.report ([.started entry.1] ++ [.completed entry.1 entry.2 0]) =
        entry.2.plainBlock entry.1 := by
      rw [report_append, report_singleton, report_singleton]
      exact String.empty_append.trans (block_plain ..)
    rw [List.flatMap_cons, report_append, ih, List.map_cons, String.join_cons]
    exact congrArg (· ++ _) single

end Console

namespace Dispatcher

open Console (plain countsLine report_append report_singleton report_untimed report_of_results closing_plain)

/-- The text that the console wrote about a run. -/
structure Transcript (selected : List String) (results : List (String × ScenarioResult)) (summary : Summary)
    (elapsed : Nat) (text : String) : Prop where
  written : text =
    (if selected = [] then "No scenarios collected\n" else "")
      ++ String.join (results.map fun entry => entry.2.plainBlock entry.1)
      ++ if results = [] then "" else countsLine summary elapsed
  counts : summary.Counts (results.map (·.2))
  sum_tally : (summary.tally.map (·.1)).sum = results.length
  idle_iff : selected = [] ↔ results = []

theorem eq_finished_of_untimed {event : RunEvent} {summary : Summary} (untimed : event.untimed = .finished summary 0) :
    ∃ elapsed, event = .finished summary elapsed := by
  cases event with
  | finished told elapsed =>
    cases untimed
    exact ⟨elapsed, rfl⟩
  | _ => cases untimed

/-- Whatever time each part of a run took, the console writes its transcript. The block of a failure with streams is
the report of that failure, whose first verdict is always found. -/
theorem transcripts_tell_results (dispatcher : Dispatcher) (options : RunOptions) (names : List String)
    (world : World) (told : List RunEvent)
    (untimed : told.map RunEvent.untimed = (dispatcher.runScenarios options names world).1.events) :
    let report := (dispatcher.runScenarios options names world).1
    (∃ elapsed, told.getLast? = some (.finished report.summary elapsed) ∧
      Transcript (select options names) report.results report.summary elapsed (plain.report told)) ∧
    ∀ name failure, (∃ before after,
        Text.splitAtFirst Console.failureMark (failure.report name) = some (before, after)) ∧
      ∀ elapsed, plain.block name (.failed (.streams failure)) elapsed = failure.report name := by
  intro report
  constructor
  · have faithful := runScenarios_faithful_select dispatcher options names world
    rw [faithful.events] at untimed
    obtain ⟨front, last, rfl, before, atEnd⟩ := List.map_eq_append_iff.1 untimed
    obtain ⟨event, rfl, ends⟩ := List.map_eq_singleton_iff.1 atEnd
    obtain ⟨elapsed, rfl⟩ := eq_finished_of_untimed ends
    -- Only the last event ends the run, so no time is written before it.
    have going : ∀ event ∈ front, ∀ summary, event.untimed ≠ .finished summary 0 := by
      intro event member summary ended
      have listed := List.mem_map_of_mem (f := RunEvent.untimed) member
      rw [before, ended] at listed
      simp at listed
    refine ⟨elapsed, by simp [report], ?_, faithful.counts, ?_, ?_⟩
    · have started : plain.report [.collected (select options names).length] =
          if select options names = [] then "No scenarios collected\n" else "" := by
        rw [report_singleton]
        exact if_congr List.length_eq_zero_iff rfl rfl
      have ended : plain.report [.finished report.summary elapsed] =
          if report.results = [] then "" else countsLine report.summary elapsed := by
        rw [report_singleton]
        exact (closing_plain faithful.counts elapsed).trans (if_congr List.map_eq_nil_iff rfl rfl)
      rw [report_append, ← report_untimed going, before, ended]
      rw [← List.singleton_append, report_append, started, report_of_results]
    · rw [faithful.counts.sum_tally, List.length_map]
    · constructor
      · intro idle
        have planned := faithful.followed.inOrder
        rw [idle, List.prefix_nil, List.map_eq_nil_iff] at planned
        exact planned
      · intro none
        have all := faithful.followed.whole
        rw [none] at all
        exact (all (List.forall_mem_nil _)).symm
  · intro name failure
    obtain ⟨before, after, split, -, same⟩ :=
      Console.failureBlock_eq_report (rfl : plain.coloured = false) name failure
    exact ⟨⟨before, after, split⟩, fun _ => same⟩

def markedScenario : Scenario :=
  .ofBody "a fail:" "" [] (fun _ => throw (.failure ⟨"b fail:\n", "c fail: d"⟩)) fun _ => .throw _

def markedDispatcher : Dispatcher where
  registry := Registry.register .empty markedScenario
  environment := .empty
  runner := fun _ tree _ => ⟨.ok ⟨"", "", 0⟩, tree, false⟩
  make := "make"
  waiter := .standard defaultTimeoutSeconds defaultPollSeconds
  logArchives := Marker.logArchives

def markedTree : FileTree :=
  ⟨[([Octets.ofText "a fail:"], .directory)], [], by decide, by decide, FileTree.named_nil⟩

theorem markedDispatcher_admits : markedDispatcher.Admits (.ofText "/") markedTree "a fail:" markedScenario := by
  have led : markedTree.walk true FileTree.maximumLinks [] [Octets.ofText "a fail:"] =
      .ok (.taken [Octets.ofText "a fail:"] .directory) := by
    rw [FileTree.walk_cons_directory (by decide) (by decide) (by decide) (by decide), FileTree.walk]
    rfl
  exact ⟨rfl, FileTree.isDirectory_of_walk rfl led, rfl, rfl⟩

theorem transcripts_tell_results_marked :
    let told : List RunEvent := [.collected 2, .started "a fail:",
      .completed "a fail:" (.failed (.streams ⟨"b fail:\n", "c fail: d"⟩)) 7000000, .started "gone",
      .completed "gone" (.failed (.message "unable to find scenario gone")) 0, .finished ⟨2, 0, 2, 0⟩ 1500000000]
    let options : RunOptions := { root := .ofText "/", stopOnFail := false, filter := none }
    let report := (markedDispatcher.runScenarios options ["a fail:", "gone"] (.fresh markedTree)).1
    told.map RunEvent.untimed = report.events ∧
    plain.report told = "a fail: fail:\n\tstdout: b fail:\n\n\tstderr: c fail: d\n" ++
      "gone fail:\n\tunable to find scenario gone\n\n====== 2 failed in 1.50s ======\n" := by
  intro told options report
  have admitted : markedDispatcher.Admits (.ofText "/") (World.fresh markedTree).tree "a fail:" markedScenario :=
    markedDispatcher_admits
  obtain ⟨workdir, -, performed⟩ := admitted.runScenario
  have reported : report =
      { results := [("a fail:", .failed (.streams ⟨"b fail:\n", "c fail: d"⟩)),
          ("gone", .failed (.message "unable to find scenario gone"))]
        summary := ⟨2, 0, 2, 0⟩
        events := told.map RunEvent.untimed } := by
    show (markedDispatcher.runScenarios options ["a fail:", "gone"] (.fresh markedTree)).1 = _
    rw [runScenarios_apply, show select options ["a fail:", "gone"] = ["a fail:", "gone"] from rfl, runEach_cons,
      performed]
    rfl
  have untimed : told.map RunEvent.untimed = report.events := by rw [reported]
  obtain ⟨⟨elapsed, last, transcript⟩, -⟩ :=
    transcripts_tell_results markedDispatcher options ["a fail:", "gone"] (.fresh markedTree) told untimed
  obtain ⟨-, rfl⟩ := RunEvent.finished.inj (Option.some.inj last)
  refine ⟨untimed, transcript.written.trans ?_⟩
  show _ ++ String.join (report.results.map fun entry => entry.2.plainBlock entry.1) ++
    (if report.results = [] then "" else countsLine report.summary 1500000000) = _
  rw [reported]
  decide +kernel

end Dispatcher

end ScenarioBench

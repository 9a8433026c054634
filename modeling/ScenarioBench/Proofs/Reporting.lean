import ScenarioBench.Proofs.Dispatch

/-! What a run of several scenarios reports.

The selected scenarios are dispatched in turn, up to the first that fails if the run stops on failure.
Results, counts and events are kept side by side; a report stays consistent with every scenario that
it takes in. Two runs from one world that dispatch the same names do the same, so that stopping on
failure only cuts a run short.
-/

set_option autoImplicit false

namespace ScenarioBench

namespace Summary

structure Counts (summary : Summary) (results : List ScenarioResult) : Prop where
  total : summary.total = results.length
  passed : summary.passed = results.countP (· matches .passed)
  failed : summary.failed = results.countP (· matches .failed _)
  skipped : summary.skipped = results.countP (· matches .skipped _)
  balanced : summary.passed + summary.failed + summary.skipped = summary.total

theorem counts_empty : empty.Counts [] :=
  ⟨rfl, rfl, rfl, rfl, rfl⟩

theorem Counts.record {summary : Summary} {results : List ScenarioResult}
    (counts : summary.Counts results) (result : ScenarioResult) :
    (summary.record result).Counts (results ++ [result]) := by
  obtain ⟨total, passed, failed, skipped, balanced⟩ := counts
  cases result <;> constructor <;> simp [Summary.record, *] <;> omega

theorem Counts.allPassed_iff {summary : Summary} {results : List ScenarioResult}
    (counts : summary.Counts results) :
    summary.allPassed = true ↔ ∀ result ∈ results, ∀ detail, result ≠ .failed detail := by
  simp only [allPassed, counts.failed, decide_eq_true_iff, List.countP_eq_zero]
  refine forall₂_congr fun result _ => ?_
  cases result <;> simp

end Summary

namespace RunReport

structure Consistent (report : RunReport) (selected : Nat) : Prop where
  events : report.events = .collected selected ::
    report.results.flatMap fun entry => [.started entry.1, .completed entry.1 entry.2 0]
  counts : report.summary.Counts (report.results.map (·.2))

theorem consistent_opened (selected : Nat) : (opened selected).Consistent selected :=
  ⟨rfl, Summary.counts_empty⟩

theorem Consistent.take {report : RunReport} {selected : Nat} (consistent : report.Consistent selected)
    (name : String) (result : ScenarioResult) :
    ((report.tell (.started name)).take name result).Consistent selected := by
  constructor
  · simp [tell, RunReport.take, consistent.events]
  · have counted := consistent.counts.record result
    simpa [tell, RunReport.take] using counted

end RunReport

namespace Dispatcher

/-- Scenarios dispatched in turn, each in the world that the one before it left. -/
inductive InTurn (dispatcher : Dispatcher) (root : Path) :
    World → List (String × ScenarioResult) → World → Prop where
  | nil {world : World} : InTurn dispatcher root world [] world
  | cons {world between last : World} {name : String} {result : ScenarioResult}
      {rest : List (String × ScenarioResult)} :
      dispatcher.runScenario root name world = (result, between) →
      InTurn dispatcher root between rest last →
      InTurn dispatcher root world ((name, result) :: rest) last

def GoesOn (options : RunOptions) (entry : String × ScenarioResult) : Prop :=
  options.stopOnFail = true → ∀ detail, entry.2 ≠ .failed detail

variable {dispatcher : Dispatcher} {root : Path} {options : RunOptions}

namespace InTurn

variable {world between last : World} {first second : List (String × ScenarioResult)}

theorem commands_prefix (turns : InTurn dispatcher root world first last) :
    world.commands <+: last.commands := by
  induction turns with
  | nil => exact List.prefix_refl _
  | @cons world _ _ name _ _ dispatched _ ih =>
    have start := dispatcher.runScenario_extends root name world
    rw [dispatched] at start
    exact List.IsPrefix.trans start ih

/-- Of two runs from one world, the one with more names goes on where the other ended. -/
theorem continues (short : InTurn dispatcher root world first between)
    (long : InTurn dispatcher root world second last)
    (names : first.map (·.1) <+: second.map (·.1)) :
    ∃ rest, second = first ++ rest ∧ InTurn dispatcher root between rest last := by
  induction short generalizing second with
  | nil => exact ⟨second, rfl, long⟩
  | @cons world _ _ name result others dispatched _ ih =>
    cases long with
    | nil => exact absurd (List.prefix_nil.1 names) (List.cons_ne_nil _ _)
    | cons dispatchedToo more =>
      obtain ⟨rfl, later⟩ := List.cons_prefix_cons.1 names
      obtain ⟨rfl, rfl⟩ := Prod.mk.inj (dispatched.symm.trans dispatchedToo)
      obtain ⟨rest, rfl, continued⟩ := ih more later
      exact ⟨rest, rfl, continued⟩

end InTurn

theorem runEach_cons (name : String) (rest : List String) (report : RunReport) (world : World) :
    let met := dispatcher.runScenario options.root name world
    let taken := (report.tell (.started name)).take name met.1
    dispatcher.runEach options (name :: rest) report world =
      if options.stopOnFail && met.1.isFailure then (taken, met.2)
      else dispatcher.runEach options rest taken met.2 := by
  intro met taken
  show (if options.stopOnFail && met.1.isFailure then pure taken
    else dispatcher.runEach options rest taken : StateM World RunReport) met.2 = _
  split <;> rfl

theorem runEach_consistent (dispatcher : Dispatcher) (options : RunOptions) (selected : List String)
    {report : RunReport} {count : Nat} (world : World)
    (consistent : report.Consistent count) :
    (dispatcher.runEach options selected report world).1.Consistent count := by
  induction selected generalizing report world with
  | nil => exact consistent
  | cons name rest ih =>
    have taken := consistent.take name (dispatcher.runScenario options.root name world).1
    rw [runEach_cons]
    split
    · exact taken
    · exact ih _ taken

theorem runEach_turns (dispatcher : Dispatcher) (options : RunOptions) (selected : List String)
    (report : RunReport) (world : World) :
    ∃ results, (dispatcher.runEach options selected report world).1.results =
        report.results ++ results ∧
      InTurn dispatcher options.root world results
        (dispatcher.runEach options selected report world).2 ∧
      Followed (GoesOn options) (·.1) selected results := by
  induction selected generalizing report world with
  | nil => exact ⟨[], (List.append_nil _).symm, .nil, .nil⟩
  | cons name rest ih =>
    rw [runEach_cons]
    rcases dispatched : dispatcher.runScenario options.root name world with ⟨result, between⟩
    split
    · rename_i stop
      obtain ⟨stops, failure⟩ := Bool.and_eq_true_iff.1 stop
      obtain ⟨detail, rfl⟩ := ScenarioResult.isFailure_iff.1 failure
      refine ⟨[(name, .failed detail)], rfl, .cons dispatched .nil, Followed.cut rfl ?_⟩
      exact fun goes => goes stops detail rfl
    · -- The rest of the loop starts from the report that has taken this result in.
      rename_i go
      obtain ⟨results, added, turns, followed⟩ :=
        ih ((report.tell (.started name)).take name result) between
      refine ⟨(name, result) :: results, ?_, .cons dispatched turns, Followed.cons rfl ?_ followed⟩
      · rw [added]
        simp [RunReport.take, RunReport.tell]
      · rintro stops detail rfl
        exact go (by rw [stops]; rfl)

theorem runScenarios_apply (names : List String) (world : World) :
    let selected := select options names
    let ended := dispatcher.runEach options selected (.opened selected.length) world
    dispatcher.runScenarios options names world = (ended.1.closed, ended.2) :=
  rfl

theorem select_eq_filter (options : RunOptions) (names : List String) :
    ∃ keep : String → Bool, select options names = names.filter keep ∧
      ∀ name, keep name = true ↔
        ∀ keyword, options.filter = some keyword → keyword.toList <:+: name.toList := by
  refine ⟨_, rfl, fun name => ?_⟩
  rcases options.filter with _ | keyword
  · simp
  · simp [Text.contains_iff]

/-- A report tells what a run over the selected names did. -/
structure Faithful (dispatcher : Dispatcher) (options : RunOptions) (selected : List String)
    (world : World) (report : RunReport) (last : World) : Prop where
  turns : InTurn dispatcher options.root world report.results last
  followed : Followed (GoesOn options) (·.1) selected report.results
  events : report.events = .collected selected.length ::
    (report.results.flatMap fun entry => [.started entry.1, .completed entry.1 entry.2 0])
      ++ [.finished report.summary 0]
  counts : report.summary.Counts (report.results.map (·.2))
  success_iff : report.success = true ↔ ∀ entry ∈ report.results, ∀ detail, entry.2 ≠ .failed detail

theorem runScenarios_faithful_select (dispatcher : Dispatcher) (options : RunOptions)
    (names : List String) (world : World) :
    Faithful dispatcher options (select options names) world
      (dispatcher.runScenarios options names world).1
      (dispatcher.runScenarios options names world).2 := by
  have consistent := runEach_consistent dispatcher options (select options names) world
    (RunReport.consistent_opened (select options names).length)
  obtain ⟨results, added, turns, followed⟩ := runEach_turns dispatcher options (select options names)
    (.opened (select options names).length) world
  rw [runScenarios_apply]
  -- The opened report has no results, so that the added ones are all.
  obtain rfl : _ = results := added
  refine
    { turns := turns
      followed := followed
      events := ?_
      counts := consistent.counts
      success_iff := ?_ }
  · simp [RunReport.closed, RunReport.tell, consistent.events]
  · exact consistent.counts.allPassed_iff.trans List.forall_mem_map

/-- The report of a run is faithful, and stopping on failure only cuts a run short. -/
theorem runScenarios_faithful (dispatcher : Dispatcher) (options : RunOptions) (names : List String)
    (world : World) :
    (∃ keep : String → Bool,
      (∀ name, keep name = true ↔
        ∀ keyword, options.filter = some keyword → keyword.toList <:+: name.toList) ∧
      Faithful dispatcher options (names.filter keep) world
        (dispatcher.runScenarios options names world).1
        (dispatcher.runScenarios options names world).2) ∧
    let stopping := dispatcher.runScenarios { options with stopOnFail := true } names world
    let going := dispatcher.runScenarios { options with stopOnFail := false } names world
    (∃ rest, going.1.results = stopping.1.results ++ rest ∧
      InTurn dispatcher options.root stopping.2 rest going.2) ∧
    stopping.2.commands <+: going.2.commands := by
  constructor
  · obtain ⟨keep, selected, kept⟩ := select_eq_filter options names
    exact ⟨keep, kept, selected ▸ runScenarios_faithful_select dispatcher options names world⟩
  · intro stopping going
    have short : Faithful dispatcher _ (select options names) world stopping.1 stopping.2 :=
      runScenarios_faithful_select dispatcher { options with stopOnFail := true } names world
    have long : Faithful dispatcher _ (select options names) world going.1 going.2 :=
      runScenarios_faithful_select dispatcher { options with stopOnFail := false } names world
    have all : going.1.results.map (·.1) = select options names := long.followed.whole nofun
    obtain ⟨rest, longer, continued⟩ :=
      short.turns.continues long.turns (by rw [all]; exact short.followed.inOrder)
    exact ⟨⟨rest, longer, continued⟩, continued.commands_prefix⟩

end Dispatcher

end ScenarioBench

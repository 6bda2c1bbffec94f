import LatencySweep.Host.Script
import LatencySweep.Proofs.Grid.Tuples
import LatencySweep.Proofs.Pool.Stages

/-
  Every tuple gets one report.

  Throughout a sweep, the tuples that wait, are held or have
  been reported on are those of the grid, each once. Once
  all reports are received and put in order, they follow the
  grid, however the workers were timed.

  Main declarations:
    * `Pool.tuples_perm_grid`
    * `Stage.IsAddressed`
    * `Sweep.runScheduled?_eq_ok`
    * `Sweep.runScheduled?_eq_error_iff`
    * `Sweep.one_report_per_tuple`
-/

namespace LatencySweep

variable {σ : Type}
variable {sweep : Sweep} {runner : Runner σ}

------------------------------------------------------------
-- Tuples of a Pool
------------------------------------------------------------

namespace Pool

/- The tuples of a pool are those of its stages. -/
theorem tuples_eq_filterMap_stages (pool : Pool σ) :
    pool.tuples = pool.stages.filterMap Stage.tuple? := by
  have hWaiting (tuples : List Tuple) :
      (tuples.map Stage.waiting).filterMap Stage.tuple? =
        tuples := by
    rw [List.filterMap_map]
    exact List.filterMap_some
  have hReports (reports : List RunReport) :
      (reports.map Stage.reported).filterMap Stage.tuple? =
        reports.map RunReport.tuple := by
    rw [List.filterMap_map]
    exact congrFun List.filterMap_eq_map reports
  have hHeld (workers : List Worker) :
      ((busy workers).map Stage.held).filterMap
          Stage.tuple? =
        workers.filterMap Worker.tuple? := by
    rw [List.filterMap_map, busy, List.filterMap_filter]
    apply List.filterMap_congr
    intro worker _
    by_cases hIdle : worker.IsIdle
    · simp [hIdle, show worker.tuple? = none from hIdle]
    · simp [hIdle, Stage.tuple?]
  simp only [tuples, stages, List.filterMap_append,
    hWaiting, hReports, hHeld]

/- A turn loses no tuple and adds none. -/
theorem tuples_perm_of_turn
    {move : Move}
    {pool next : Pool σ}
    {before after : Stage}
    {others : List Stage}
    (hTurn :
      Turn sweep runner move pool next before after
        others) :
    next.tuples.Perm pool.tuples := by
  rw [tuples_eq_filterMap_stages,
    tuples_eq_filterMap_stages]
  refine
    (hTurn.stages_after.filterMap Stage.tuple?).trans
      (List.Perm.trans ?_
        (hTurn.stages_before.filterMap
          Stage.tuple?).symm)
  rw [List.filterMap_cons, List.filterMap_cons,
    hTurn.advance.tuple?_eq]

/- At any time, the tuples of a pool are those of the grid,
   each once. -/
theorem tuples_perm_grid
    {moves : List Move}
    {w : World σ}
    {pool : Pool σ}
    (hFollow :
      (start sweep w).follow? sweep runner moves =
        some pool) :
    pool.tuples.Perm sweep.grid.tuples := by
  apply follow?_induction
    (fun pool => pool.tuples.Perm sweep.grid.tuples)
    (fun hTurn hPerm =>
      (tuples_perm_of_turn hTurn).trans hPerm)
    hFollow
  rw [tuples_start]

/- In the end, the reports received are on these tuples. -/
theorem received_perm_grid
    {moves : List Move}
    {w : World σ}
    {pool : Pool σ}
    (hFollow :
      (start sweep w).follow? sweep runner moves =
        some pool)
    (hDone : pool.IsDone) :
    (pool.received.map RunReport.tuple).Perm
      sweep.grid.tuples := by
  have hPerm := tuples_perm_grid hFollow
  rw [tuples_eq_filterMap_stages, stages_of_isDone hDone,
    List.filterMap_map] at hPerm
  exact
    (List.Perm.of_eq
      (congrFun List.filterMap_eq_map _).symm).trans hPerm

end Pool

------------------------------------------------------------
-- Directories of Reports
------------------------------------------------------------

/- Any report made out names the directory of its tuple. -/
def Stage.IsAddressed
    (sweep : Sweep)
    (stage : Stage) : Prop :=
  ∀ report,
    stage.report? = some report →
      report.directory = sweep.outputDir report.tuple

theorem Advance.isAddressed
    {before after : Stage}
    {flag flag' : Bool}
    {w w' : World σ}
    (hAdvance :
      Advance sweep runner before flag w after flag' w')
    (hBefore : before.IsAddressed sweep) :
    after.IsAddressed sweep := by
  intro report hReport
  cases hAdvance with
  | skip | refuse | misfire | conclude =>
      cases hReport
      rfl
  | alarm | judge | send | receive =>
      exact hBefore report hReport
  | take | proceed | prepare | simulate | analyze =>
      cases hReport

/- A tuple without a report has no wrong address. -/
theorem Pool.start_isAddressed (w : World σ) :
    ∀ stage ∈ (start sweep w).stages,
      stage.IsAddressed sweep := by
  intro stage hStage report hReport
  rw [stages_start] at hStage
  rcases List.mem_map.mp hStage with ⟨tuple, _, rfl⟩
  cases hReport

------------------------------------------------------------
-- Scheduled Sweeps
------------------------------------------------------------

namespace Sweep

/- What a scheduled sweep that returns a summary has done. -/
theorem runScheduled?_eq_ok
    {schedule : List Move}
    {w final : World σ}
    {summary : SweepSummary}
    (hRun :
      sweep.runScheduled? runner schedule w =
        some (.ok summary, final)) :
    ∃ ready pool,
      sweep.start runner w = (.ok (), ready) ∧
      (Pool.start sweep ready).follow? sweep runner
          schedule =
        some pool ∧
      pool.IsDone ∧
      summary.reports = inGridOrder pool.received ∧
      final = pool.world.log .info summary.toText := by
  unfold runScheduled? at hRun
  split at hRun
  next => cases hRun
  next ready hStart =>
    split at hRun
    next => cases hRun
    next pool hFollow =>
      split at hRun
      next hDone =>
        cases hRun
        exact
          ⟨ready, pool, hStart, hFollow, hDone, rfl, rfl⟩
      next => cases hRun

/- A sweep that has started and comes to an end returns a
   summary. -/
theorem exists_summary_of_start
    {schedule : List Move}
    {w ready final : World σ}
    {result : Except SweepError SweepSummary}
    (hStart : sweep.start runner w = (.ok (), ready))
    (hRun :
      sweep.runScheduled? runner schedule w =
        some (result, final)) :
    ∃ summary, result = .ok summary := by
  unfold runScheduled? at hRun
  rw [hStart] at hRun
  dsimp only at hRun
  split at hRun
  next => cases hRun
  next =>
    split at hRun
    next =>
      cases hRun
      exact ⟨_, rfl⟩
    next => cases hRun

/- A scheduled sweep fails in the way that the start does,
   whatever the schedule is. -/
theorem runScheduled?_eq_error_iff
    {schedule : List Move}
    {e : SweepError}
    {w final : World σ} :
    sweep.runScheduled? runner schedule w =
        some (.error e, final) ↔
      sweep.start runner w = (.error e, final) := by
  constructor
  · intro hRun
    rcases hStart : sweep.start runner w with
      ⟨e' | _, ready⟩
    · unfold runScheduled? at hRun
      rw [hStart] at hRun
      cases hRun
      rfl
    · rcases exists_summary_of_start hStart hRun with
        ⟨summary, hSummary⟩
      cases hSummary
  · intro hStart
    unfold runScheduled?
    rw [hStart]

/-
  Whenever a sweep returns a summary, its reports follow the
  grid: there is one on every tuple, at the place of the
  tuple's number, and it names the directory of the tuple.
-/
theorem one_report_per_tuple
    {schedule : List Move}
    {w final : World σ}
    {summary : SweepSummary}
    (hRun :
      sweep.runScheduled? runner schedule w =
        some (.ok summary, final)) :
    summary.reports.map RunReport.tuple =
        sweep.grid.tuples ∧
      (summary.reports.map RunReport.tuple).Nodup ∧
      ∀ place report,
        summary.reports[place]? = some report →
          report.tuple.index = place ∧
            sweep.grid.get? place = some report.tuple ∧
            report.directory =
              sweep.outputDir report.tuple := by
  rcases runScheduled?_eq_ok hRun with
    ⟨ready, pool, _, hFollow, hDone, hReports, _⟩
  have hTuples :
      summary.reports.map RunReport.tuple =
        sweep.grid.tuples := by
    rw [hReports]
    exact map_tuple_inGridOrder
      (Pool.received_perm_grid hFollow hDone)
  refine ⟨hTuples, ?_, ?_⟩
  · rw [hTuples]
    exact sweep.grid.nodup_tuples
  · intro place report hReport
    have hTuple :
        sweep.grid.tuples[place]? = some report.tuple := by
      rw [← hTuples, List.getElem?_map, hReport,
        Option.map_some]
    have hPlace := Grid.index_of_getElem?_tuples hTuple
    have hGet :=
      Grid.get?_index (List.mem_of_getElem? hTuple)
    have hAddressed :=
      Pool.follow?_forall_stages Advance.isAddressed
        hFollow (Pool.start_isAddressed ready)
    rw [Pool.stages_of_isDone hDone] at hAddressed
    have hReceived : report ∈ pool.received := by
      rw [hReports] at hReport
      exact (inGridOrder_perm _).subset
        (List.mem_of_getElem? hReport)
    refine ⟨hPlace, hPlace ▸ hGet, ?_⟩
    exact hAddressed (.reported report)
      (List.mem_map_of_mem hReceived) report rfl

------------------------------------------------------------
-- A Sweep of Three Tuples
------------------------------------------------------------

/- Three tuples for two workers, each with one analysis. -/
def trio (policy : FailurePolicy) : Sweep :=
  { name := "trio"
    axes :=
      [ { name := "rate"
          flag := "rate"
          token := "rate"
          values := [.integer 1, .integer 2, .integer 3] } ]
    concurrency := 2
    simulator := { runner := "ns3", scenario := "relay" }
    analyses :=
      [ { name := "count"
          program := "wc"
          inputFile := "trace.txt" } ]
    onFailure := policy }

/-
  Two workers take the first tuples crosswise and go on by
  turns, each with as many moves as a run without a failure
  needs. One of them takes the last tuple.
-/
def crossing : List Move :=
  [.take 0 1, .take 1 0] ++
    (List.replicate 7 [.advance 0, .advance 1]).flatten ++
    .take 1 0 :: List.replicate 7 (.advance 1) ++
    List.replicate 3 .receive

/- A scheduled sweep that is seen to return a summary. -/
theorem exists_of_isOk
    {result :
      Option (Except SweepError SweepSummary × World σ)}
    (hOk : (result.map fun r => r.1.isOk) = some true) :
    ∃ summary final, result = some (.ok summary, final) := by
  rcases Option.map_eq_some_iff.mp hOk with
    ⟨⟨e | summary, final⟩, rfl, hSummary⟩
  · cases hSummary
  · exact ⟨summary, final, rfl⟩

theorem one_report_per_tuple_crossing :
    ∃ summary final,
      (trio .ignore).runScheduled? (Script.runner [])
          crossing (World.start FileTree.empty ()) =
        some (.ok summary, final) ∧
      summary.reports.map RunReport.tuple =
        (trio .ignore).grid.tuples ∧
      (summary.reports.map RunReport.tuple).Nodup ∧
      ∀ place report,
        summary.reports[place]? = some report →
          report.tuple.index = place ∧
            (trio .ignore).grid.get? place =
              some report.tuple ∧
            report.directory =
              (trio .ignore).outputDir report.tuple := by
  have hOk :
      (((trio .ignore).runScheduled? (Script.runner [])
        crossing (World.start FileTree.empty ())).map
          fun r => r.1.isOk) = some true := by
    decide +kernel
  rcases exists_of_isOk hOk with ⟨summary, final, hRun⟩
  exact ⟨summary, final, hRun, one_report_per_tuple hRun⟩

end Sweep

end LatencySweep

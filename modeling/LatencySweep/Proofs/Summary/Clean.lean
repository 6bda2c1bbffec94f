import LatencySweep.CommandLine.Sweep
import LatencySweep.Proofs.Pool.Abort
import Mathlib.Data.List.Nodup

/-
  A sweep that is reported as clean is clean.

  The report on a tuple that was run has one result for each
  analysis that was due, under the name of the analysis. So
  a run that succeeded left nothing out, and as no run is
  skipped unless another one went wrong, a summary without
  failures speaks of the whole grid.

  Main declarations:
    * `RunReport.IsComplete`
    * `RunReport.IsClean`
    * `RunReport.isClean_iff`
    * `SoundSummary`
    * `Sweep.sound_summary`
-/

namespace LatencySweep

variable {σ : Type}
variable {sweep : Sweep} {runner : Runner σ}

------------------------------------------------------------
-- Complete Reports
------------------------------------------------------------

/- The analyses that are due have been run, in order. -/
def Sweep.AreDone
    (sweep : Sweep)
    (outcome : Outcome)
    (results : List AnalysisResult)
    (remaining : List AnalysisStep) : Prop :=
  results.map AnalysisResult.name ++
      remaining.map AnalysisStep.name =
    (sweep.stepsAfter outcome).map AnalysisStep.name

/- The report has the analyses that were due. -/
def RunReport.IsComplete
    (sweep : Sweep)
    (report : RunReport) : Prop :=
  ∀ outcome,
    report.simulator = some (.ok outcome) →
      sweep.AreDone outcome report.analyses []

/- No analysis is lost while a tuple is run. -/
def Stage.IsComplete
    (sweep : Sweep) : Stage → Prop
  | .held (.analyzing _ outcome finished steps) =>
      sweep.AreDone outcome finished steps
  | .held (.judging report)
  | .held (.sending report)
  | .reported report => report.IsComplete sweep
  | _ => True

theorem Advance.isComplete
    {before after : Stage}
    {flag flag' : Bool}
    {w w' : World σ}
    (hAdvance :
      Advance sweep runner before flag w after flag' w')
    (hBefore : before.IsComplete sweep) :
    after.IsComplete sweep := by
  cases hAdvance with
  | take | proceed | prepare => trivial
  | skip => exact nofun
  | refuse | misfire => exact nofun
  | simulate => rfl
  | @analyze _ outcome finished step steps result _ _ _
      hRun =>
      have hName : result.name = step.name := by
        have hResult := congrArg Prod.fst hRun
        rw [AnalysisStep.run_fst] at hResult
        exact congrArg AnalysisResult.name hResult.symm
      have hDone :
          finished.map AnalysisResult.name ++
              step.name :: steps.map AnalysisStep.name =
            (sweep.stepsAfter outcome).map
              AnalysisStep.name :=
        hBefore
      simpa [Stage.IsComplete, Sweep.AreDone, hName]
        using hDone
  | conclude =>
      intro outcome hOutcome
      cases hOutcome
      exact hBefore
  | alarm | judge | send | receive => exact hBefore

/- All reports that are received are complete. -/
theorem Pool.isComplete_of_follow
    {moves : List Move}
    {w : World σ}
    {pool : Pool σ}
    {report : RunReport}
    (hFollow :
      (Pool.start sweep w).follow? sweep runner moves =
        some pool)
    (hDone : pool.IsDone)
    (hReport : report ∈ pool.received) :
    report.IsComplete sweep := by
  have hStart :
      ∀ stage ∈ (Pool.start sweep w).stages,
        stage.IsComplete sweep := by
    intro stage hStage
    rw [stages_start] at hStage
    rcases List.mem_map.mp hStage with ⟨tuple, _, rfl⟩
    trivial
  have hStages :=
    follow?_forall_stages Advance.isComplete hFollow hStart
  rw [stages_of_isDone hDone] at hStages
  exact hStages (.reported report)
    (List.mem_map_of_mem hReport)

------------------------------------------------------------
-- Clean Reports
------------------------------------------------------------

/- The result is that of the analysis, which ran and exited
   with code zero. -/
def AnalysisStep.SucceededAs
    (step : AnalysisStep)
    (r : AnalysisResult) : Prop :=
  r.name = step.name ∧
    ∃ outcome,
      r.result = .ok outcome ∧ outcome.exitCode = some 0

/- The simulator exited with code zero, and so did every
   analysis. -/
def RunReport.IsClean
    (sweep : Sweep)
    (report : RunReport) : Prop :=
  ∃ outcome,
    report.simulator = some (.ok outcome) ∧
      outcome.exitCode = some 0 ∧
      List.Forall₂ AnalysisStep.SucceededAs
        sweep.analyses report.analyses

/- Results under the names of analyses succeeded as those
   if all of them succeeded. -/
theorem forall₂_succeededAs_iff
    {steps : List AnalysisStep}
    {results : List AnalysisResult}
    (hNames :
      results.map AnalysisResult.name =
        steps.map AnalysisStep.name) :
    List.Forall₂ AnalysisStep.SucceededAs steps results ↔
      ∀ r ∈ results, r.succeeded = true := by
  induction steps generalizing results with
  | nil =>
      rw [List.map_nil, List.map_eq_nil_iff] at hNames
      simp [hNames]
  | cons step steps ih =>
      cases results with
      | nil => cases hNames
      | cons r results =>
          rw [List.map_cons, List.map_cons,
            List.cons.injEq] at hNames
          rw [List.forall₂_cons, ih hNames.2,
            List.forall_mem_cons, AnalysisStep.SucceededAs,
            ← AnalysisResult.succeeded_iff]
          simp [hNames.1]

/- A complete report is clean if its run succeeded. -/
theorem RunReport.isClean_iff
    {report : RunReport}
    (hComplete : report.IsComplete sweep) :
    report.IsClean sweep ↔ report.status = .succeeded := by
  rw [status_eq_succeeded_iff]
  apply exists_congr
  intro outcome
  apply and_congr_right
  intro hSimulator
  rw [Outcome.succeeded_iff]
  apply and_congr_right
  intro hExit
  apply forall₂_succeededAs_iff
  have hDone := hComplete outcome hSimulator
  have hSucceeded := Outcome.succeeded_iff.mpr hExit
  simpa [Sweep.AreDone, Sweep.stepsAfter, hSucceeded]
    using hDone

------------------------------------------------------------
-- Sound Summaries
------------------------------------------------------------

/- What a summary says about its sweep. -/
structure SoundSummary
    (sweep : Sweep)
    (summary : SweepSummary) : Prop where
  counts_add_up :
    summary.succeeded + summary.failed + summary.skipped =
      summary.reports.length
  counts_grid : summary.reports.length = sweep.grid.size
  skipped_only_if_failed :
    0 < summary.skipped → 0 < summary.failed
  clean_iff :
    summary.failed = 0 ↔
      ∀ tuple ∈ sweep.grid.tuples,
        ∃ report ∈ summary.reports,
          report.tuple = tuple ∧ report.IsClean sweep
  exit_code_iff :
    (Sweep.endOf summary).exitCode = 0 ↔
      summary.failed = 0
  failures_iff :
    ∀ report,
      report ∈ summary.failures ↔
        report ∈ summary.reports ∧ report.isFailure = true
  failures_count :
    summary.failures.length = summary.failed
  failures_in_order :
    summary.failures.Pairwise
      fun a b => a.tuple.index < b.tuple.index

/- A clean report does not tell of a failure. -/
theorem RunReport.IsClean.not_isFailure
    {report : RunReport}
    (hComplete : report.IsComplete sweep)
    (hClean : report.IsClean sweep) :
    report.isFailure = false := by
  rw [isFailure, (isClean_iff hComplete).mp hClean]
  rfl

namespace Pool

variable {moves : List Move}
variable {origin ready : World σ}
variable {pool : Pool σ}

/- A run is skipped only if some other one went wrong. -/
theorem exists_failure_of_skipped
    (hReady : origin.Adds ready runner.Owns)
    (hFollow :
      (start sweep ready).follow? sweep runner moves =
        some pool)
    (hDone : pool.IsDone)
    {report : RunReport}
    (hReport : report ∈ pool.received)
    (hSkipped : report.status = .skipped) :
    ∃ other ∈ pool.received, other.isFailure = true := by
  have hWatched := isWatched_of_follow hReady hFollow
  rcases exists_aborting_of_skipped hWatched hDone
      (List.Perm.refl _) hReport hSkipped with
    ⟨other, hOther, hAborting⟩
  have hFatal := (Sweep.isAborting_iff.mp hAborting).2
  exact
    ⟨other, hOther, RunStatus.isFailure_of_isFatal hFatal⟩

/- Without a failure, all reports are clean. -/
theorem isClean_of_no_failure
    (hReady : origin.Adds ready runner.Owns)
    (hFollow :
      (start sweep ready).follow? sweep runner moves =
        some pool)
    (hDone : pool.IsDone)
    (hNone :
      ∀ report ∈ pool.received, report.isFailure = false)
    {report : RunReport}
    (hReport : report ∈ pool.received) :
    report.IsClean sweep := by
  have hComplete :=
    isComplete_of_follow hFollow hDone hReport
  rw [RunReport.isClean_iff hComplete]
  by_contra hStatus
  have hFailure : report.isFailure = true := by
    apply RunStatus.isFailure_iff.mpr
    refine ⟨hStatus, ?_⟩
    intro hSkipped
    rcases exists_failure_of_skipped hReady hFollow hDone
        hReport hSkipped with ⟨other, hOther, hWrong⟩
    rw [hNone other hOther] at hWrong
    cases hWrong
  rw [hNone report hReport] at hFailure
  cases hFailure

/- There is one report on a tuple. -/
theorem eq_of_tuple_eq
    (hFollow :
      (start sweep ready).follow? sweep runner moves =
        some pool)
    (hDone : pool.IsDone)
    {a b : RunReport}
    (hA : a ∈ pool.received)
    (hB : b ∈ pool.received)
    (hSame : a.tuple = b.tuple) :
    a = b := by
  have hPerm := received_perm_grid hFollow hDone
  have hNodup :=
    hPerm.nodup_iff.mpr sweep.grid.nodup_tuples
  exact List.inj_on_of_nodup_map hNodup hA hB hSame

/- Nothing went wrong just if there is a clean report on
   each tuple. -/
theorem no_failure_iff
    (hReady : origin.Adds ready runner.Owns)
    (hFollow :
      (start sweep ready).follow? sweep runner moves =
        some pool)
    (hDone : pool.IsDone) :
    (∀ report ∈ pool.received,
        report.isFailure = false) ↔
      ∀ tuple ∈ sweep.grid.tuples,
        ∃ report ∈ pool.received,
          report.tuple = tuple ∧ report.IsClean sweep := by
  have hPerm := received_perm_grid hFollow hDone
  constructor
  · intro hNone tuple hTuple
    rcases List.mem_map.mp (hPerm.symm.subset hTuple) with
      ⟨report, hReport, hSame⟩
    exact
      ⟨report, hReport, hSame,
        isClean_of_no_failure hReady hFollow hDone hNone
          hReport⟩
  · intro hClean report hReport
    have hTuple : report.tuple ∈ sweep.grid.tuples :=
      hPerm.subset (List.mem_map_of_mem hReport)
    rcases hClean report.tuple hTuple with
      ⟨other, hOther, hSame, hOtherClean⟩
    cases eq_of_tuple_eq hFollow hDone hOther hReport hSame
    exact
      hOtherClean.not_isFailure
        (isComplete_of_follow hFollow hDone hReport)

end Pool

/-
  However the workers are timed, the counts of a summary add
  up to the grid, a skipped run comes with a failure, and
  the command ends well just if each tuple was simulated and
  analyzed without a failure.
-/
theorem Sweep.sound_summary
    {schedule : List Move}
    {w final : World σ}
    {summary : SweepSummary}
    (hRun :
      sweep.runScheduled? runner schedule w =
        some (.ok summary, final)) :
    SoundSummary sweep summary := by
  rcases runScheduled?_eq_ok hRun with
    ⟨ready, pool, hStart, hFollow, hDone, hReports, _⟩
  have hReady := World.adds_start runner hStart
  have hPerm : summary.reports.Perm pool.received := by
    rw [hReports]
    exact inGridOrder_perm pool.received
  have hTuples :
      summary.reports.map RunReport.tuple =
        sweep.grid.tuples := by
    rw [hReports]
    exact map_tuple_inGridOrder
      (Pool.received_perm_grid hFollow hDone)
  have hOrder := sweep.grid.pairwise_tuples
  rw [← hTuples, List.pairwise_map] at hOrder
  constructor
  case counts_add_up => exact summary.counts_add_up
  case counts_grid =>
    have hLength := congrArg List.length hTuples
    simpa using hLength
  case skipped_only_if_failed =>
    rw [SweepSummary.skipped_pos_iff,
      SweepSummary.failed_pos_iff]
    rintro ⟨report, hReport, hSkipped⟩
    rcases Pool.exists_failure_of_skipped hReady hFollow
        hDone (hPerm.subset hReport) hSkipped with
      ⟨other, hOther, hFailure⟩
    exact ⟨other, hPerm.symm.subset hOther, hFailure⟩
  case clean_iff =>
    rw [SweepSummary.failed_eq_zero_iff]
    have hClean := Pool.no_failure_iff hReady hFollow hDone
    simpa only [hPerm.mem_iff] using hClean
  case exit_code_iff =>
    unfold endOf
    split
    next hNone => simp [hNone, CommandEnd.exitCode]
    next hSome => simp [hSome, CommandEnd.exitCode]
  case failures_iff =>
    exact fun _ => SweepSummary.mem_failures
  case failures_count => exact summary.length_failures
  case failures_in_order => exact hOrder.filter _

theorem Sweep.sound_summary_crossing :
    ∃ summary final,
      (trio .abort).runScheduled? (Script.runner [])
          crossing (World.start FileTree.empty ()) =
        some (.ok summary, final) ∧
      SoundSummary (trio .abort) summary := by
  have hOk :
      (((trio .abort).runScheduled? (Script.runner [])
        crossing (World.start FileTree.empty ())).map
          fun r => r.1.isOk) = some true := by
    decide +kernel
  rcases exists_of_isOk hOk with ⟨summary, final, hRun⟩
  exact ⟨summary, final, hRun, sound_summary hRun⟩

end LatencySweep

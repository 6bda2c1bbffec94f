import LatencySweep.Sweep.Report

/-
  What the status of a run says about its report.

  A run has one of five statuses, and each of them stands
  for one shape of the report. A summary counts the runs
  that succeeded, those that went wrong and those that were
  skipped, so that no run is counted twice or left out.

  Main declarations:
    * `RunStatus.isFailure_iff`
    * `RunReport.status_eq_skipped_iff`
    * `RunReport.status_eq_succeeded_iff`
    * `RunReport.status_eq_analysisFailed_iff`
    * `SweepSummary.counts_add_up`
-/

namespace LatencySweep

------------------------------------------------------------
-- Kinds of Statuses
------------------------------------------------------------

namespace RunStatus

/- A run that went wrong did not succeed and was not
   skipped, and any other run did or was. -/
theorem isFailure_iff {status : RunStatus} :
    status.isFailure = true ↔
      status ≠ .succeeded ∧ status ≠ .skipped := by
  cases status <;> simp [isFailure]

/- What goes wrong before the analyses goes wrong. -/
theorem isFailure_of_isFatal
    {status : RunStatus}
    (hFatal : status.isFatal = true) :
    status.isFailure = true := by
  cases status with
  | dispatchFailed => rfl
  | simulatorFailed => rfl
  | succeeded | analysisFailed | skipped => cases hFatal

end RunStatus

------------------------------------------------------------
-- Programs that Succeeded
------------------------------------------------------------

/- The program was launched and exited with code zero. -/
def IsSuccess (answer : Except OsError Outcome) : Prop :=
  ∃ outcome, answer = .ok outcome ∧ outcome.exitCode = some 0

theorem Outcome.succeeded_iff {outcome : Outcome} :
    outcome.succeeded = true ↔
      outcome.exitCode = some 0 := by
  unfold succeeded
  exact decide_eq_true_iff

theorem AnalysisResult.succeeded_iff {r : AnalysisResult} :
    r.succeeded = true ↔
      ∃ outcome,
        r.result = .ok outcome ∧
          outcome.exitCode = some 0 := by
  unfold succeeded
  cases hResult : r.result with
  | error e => simp
  | ok outcome => simp [Outcome.succeeded_iff]

------------------------------------------------------------
-- Statuses of Reports
------------------------------------------------------------

namespace RunReport

variable {report : RunReport}

/- A run without a result of the simulator was skipped. -/
theorem status_eq_skipped_iff :
    report.status = .skipped ↔ report.simulator = none := by
  unfold status
  split
  next hNone => simp [hNone]
  next e hError => simp [hError]
  next outcome hOutcome =>
    rw [hOutcome]
    split
    · simp
    · split <;> simp

/- A run succeeded if the simulator and all analyses that
   are reported on did. -/
theorem status_eq_succeeded_iff :
    report.status = .succeeded ↔
      ∃ outcome,
        report.simulator = some (.ok outcome) ∧
          outcome.succeeded = true ∧
          ∀ r ∈ report.analyses, r.succeeded = true := by
  unfold status
  split
  next hNone => simp [hNone]
  next e hError => simp [hError]
  next outcome hOutcome =>
    rw [hOutcome]
    cases hSucceeded : outcome.succeeded with
    | false => simp [hSucceeded]
    | true =>
        have hAnalyses :
            report.analyses.all AnalysisResult.succeeded =
                true ↔
              ∀ r ∈ report.analyses, r.succeeded = true :=
          List.all_eq_true
        rw [← hAnalyses]
        by_cases hAll :
            report.analyses.all AnalysisResult.succeeded
        · simp [hAll, hSucceeded]
        · simp [hAll]

/- A simulator that ended in another way than with code zero
   failed, whatever the analyses did. -/
theorem status_eq_simulatorFailed_iff :
    report.status = .simulatorFailed ↔
      ∃ outcome,
        report.simulator = some (.ok outcome) ∧
          outcome.succeeded = false := by
  unfold status
  split
  next hNone => simp [hNone]
  next e hError => simp [hError]
  next outcome hOutcome =>
    rw [hOutcome]
    cases hSucceeded : outcome.succeeded with
    | false => simp [hSucceeded]
    | true =>
        simp only [Bool.not_true, Bool.false_eq_true,
          if_false]
        split <;> simp [hSucceeded]

/- An analysis failed, although the simulator did not. -/
theorem status_eq_analysisFailed_iff :
    report.status = .analysisFailed ↔
      ∃ outcome,
        report.simulator = some (.ok outcome) ∧
          outcome.succeeded = true ∧
          ∃ r ∈ report.analyses, r.succeeded = false := by
  unfold status
  split
  next hNone => simp [hNone]
  next e hError => simp [hError]
  next outcome hOutcome =>
    rw [hOutcome]
    cases hSucceeded : outcome.succeeded with
    | false => simp [hSucceeded]
    | true =>
        have hAnalyses :
            report.analyses.all AnalysisResult.succeeded =
                false ↔
              ∃ r ∈ report.analyses,
                r.succeeded = false := by
          simp [List.all_eq_false]
        rw [← hAnalyses]
        by_cases hAll :
            report.analyses.all AnalysisResult.succeeded
        · simp [hAll]
        · simp [hAll, hSucceeded]

end RunReport

------------------------------------------------------------
-- Counts
------------------------------------------------------------

namespace SweepSummary

variable {summary : SweepSummary}

/- Every run is counted once. -/
theorem counts_add_up (summary : SweepSummary) :
    summary.succeeded + summary.failed + summary.skipped =
      summary.reports.length := by
  unfold succeeded failed skipped
  induction summary.reports with
  | nil => rfl
  | cons report reports ih =>
      simp only [List.countP_cons, List.length_cons,
        decide_eq_true_eq]
      have hFailure :
          report.isFailure = true ↔
            report.status ≠ .succeeded ∧
              report.status ≠ .skipped :=
        RunStatus.isFailure_iff
      by_cases hSucceeded : report.status = .succeeded
      · have hSkipped : report.status ≠ .skipped := by
          simp [hSucceeded]
        rw [if_pos hSucceeded, if_neg hSkipped,
          if_neg (by simp [hFailure, hSucceeded])]
        omega
      · by_cases hSkipped : report.status = .skipped
        · rw [if_neg hSucceeded, if_pos hSkipped,
            if_neg (by simp [hFailure, hSkipped])]
          omega
        · rw [if_neg hSucceeded, if_neg hSkipped,
            if_pos (hFailure.mpr ⟨hSucceeded, hSkipped⟩)]
          omega

theorem failed_pos_iff :
    0 < summary.failed ↔
      ∃ report ∈ summary.reports,
        report.isFailure = true := by
  unfold failed
  exact List.countP_pos_iff

theorem failed_eq_zero_iff :
    summary.failed = 0 ↔
      ∀ report ∈ summary.reports,
        report.isFailure = false := by
  simp [failed, List.countP_eq_zero]

theorem skipped_pos_iff :
    0 < summary.skipped ↔
      ∃ report ∈ summary.reports,
        report.status = .skipped := by
  simp [skipped, List.countP_pos_iff]

/- There are as many failures as runs that went wrong. -/
theorem length_failures (summary : SweepSummary) :
    summary.failures.length = summary.failed := by
  unfold failures failed
  exact List.countP_eq_length_filter.symm

theorem mem_failures {report : RunReport} :
    report ∈ summary.failures ↔
      report ∈ summary.reports ∧
        report.isFailure = true := by
  unfold failures
  exact List.mem_filter

end SweepSummary

end LatencySweep

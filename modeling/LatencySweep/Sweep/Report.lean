import LatencySweep.Sweep.Analysis
import LatencySweep.Text.Columns

/-
  Reports on the runs of a sweep.

  Key definitions include:
    * `RunStatus`
    * `RunReport`
    * `RunReport.status`
    * `RunReport.toText`
    * `SweepSummary`
    * `SweepSummary.toText`
-/

namespace LatencySweep

------------------------------------------------------------
-- Statuses
------------------------------------------------------------

/- How a run ended. A run whose directory could not be made
   or whose simulator could not be launched was not
   dispatched. -/
inductive RunStatus where
  | succeeded
  | dispatchFailed
  | simulatorFailed
  | analysisFailed
  | skipped
  deriving DecidableEq

namespace RunStatus

/- The name of a status. -/
def name : RunStatus → String
  | succeeded => "Succeeded"
  | dispatchFailed => "DispatchFailed"
  | simulatorFailed => "SimulatorFailed"
  | analysisFailed => "AnalysisFailed"
  | skipped => "Skipped"

instance : ToString RunStatus := ⟨name⟩

/- The run went wrong at some stage. -/
def isFailure : RunStatus → Bool
  | dispatchFailed | simulatorFailed | analysisFailed => true
  | succeeded | skipped => false

/- The run went wrong before the analyses. -/
def isFatal : RunStatus → Bool
  | dispatchFailed | simulatorFailed => true
  | succeeded | analysisFailed | skipped => false

end RunStatus

------------------------------------------------------------
-- Reports
------------------------------------------------------------

/- What became of a tuple. A run that was skipped has no
   result of the simulator. -/
structure RunReport where
  tuple : Tuple
  directory : Path
  simulator : Option (Except DispatchError Outcome)
  analyses : List AnalysisResult

namespace RunReport

/- The status of a run: that of its first stage that went
   wrong. -/
def status (report : RunReport) : RunStatus :=
  match report.simulator with
  | none => .skipped
  | some (.error _) => .dispatchFailed
  | some (.ok outcome) =>
      if !outcome.succeeded then .simulatorFailed
      else if report.analyses.all AnalysisResult.succeeded then
        .succeeded
      else .analysisFailed

/- The run went wrong at some stage. -/
def isFailure (report : RunReport) : Bool :=
  report.status.isFailure

/- What is said about the simulator. -/
def simulatorText (report : RunReport) : String :=
  match report.simulator with
  | none => ""
  | some (.error e) => s!": {e}"
  | some (.ok outcome) => s!": simulator {outcome}"

/- What is said about an analysis that failed. -/
def failedAnalysisText (r : AnalysisResult) : String :=
  match r.result with
  | .ok outcome => s!", {r.name} {outcome}"
  | .error e => s!", {r.name}: {e}"

/- The report as a line. Statuses fill a column. -/
def toText (report : RunReport) : String :=
  let failed := report.analyses.filter (!·.succeeded)
  s!"{padLeft 15 report.status.name} {report.directory}" ++
    report.simulatorText ++
    String.join (failed.map failedAnalysisText)

instance : ToString RunReport := ⟨toText⟩

end RunReport

------------------------------------------------------------
-- Summaries
------------------------------------------------------------

/- The reports of a sweep. -/
structure SweepSummary where
  reports : List RunReport

namespace SweepSummary

/- How many runs succeeded. -/
def succeeded (summary : SweepSummary) : Nat :=
  summary.reports.countP fun r => r.status = .succeeded

/- How many runs went wrong. -/
def failed (summary : SweepSummary) : Nat :=
  summary.reports.countP RunReport.isFailure

/- How many runs were skipped. -/
def skipped (summary : SweepSummary) : Nat :=
  summary.reports.countP fun r => r.status = .skipped

/- The reports of the runs that went wrong. -/
def failures (summary : SweepSummary) : List RunReport :=
  summary.reports.filter RunReport.isFailure

/- The summary as a line. -/
def toText (summary : SweepSummary) : String :=
  s!"{summary.reports.length} simulations: " ++
    s!"{summary.succeeded} succeeded, " ++
    s!"{summary.failed} failed, {summary.skipped} skipped"

instance : ToString SweepSummary := ⟨toText⟩

end SweepSummary

end LatencySweep

import LatencySweep.Sweep.Report
import LatencySweep.Sweep.Validation

/-
  Running a sweep, one tuple after the other.

  A sweep that is not well-formed, whose output root cannot
  be created or whose simulator cannot be built does not
  start. Otherwise every tuple gets a report, whatever the
  programs do.

  Key definitions include:
    * `Sweep.runTuple`
    * `SweepError`
    * `Sweep.start`
    * `Sweep.runTuples`
    * `Sweep.run`
-/

namespace LatencySweep

variable {σ : Type}

------------------------------------------------------------
-- Single Tuples
------------------------------------------------------------

namespace Sweep

/- The analyses that follow an outcome of the simulator. -/
def stepsAfter
    (sweep : Sweep)
    (outcome : Outcome) : List AnalysisStep :=
  if outcome.succeeded || sweep.onFailure = .ignore then
    sweep.analyses
  else []

/- The report on a tuple that was run. -/
def report
    (sweep : Sweep)
    (tuple : Tuple)
    (simulator : Except DispatchError Outcome)
    (analyses : List AnalysisResult) : RunReport :=
  { tuple
    directory := sweep.outputDir tuple
    simulator := some simulator
    analyses }

/- The report on a tuple that was not run. -/
def skippedReport
    (sweep : Sweep)
    (tuple : Tuple) : RunReport :=
  { tuple
    directory := sweep.outputDir tuple
    simulator := none
    analyses := [] }

/- Log how the simulator ended. -/
def logSimulator
    (dir : Path)
    (result : Except DispatchError Outcome)
    (w : World σ) : World σ :=
  match result with
  | .error e => w.log .error s!"[{dir}] {e}"
  | .ok outcome =>
      if outcome.succeeded then
        w.log .info
          (s!"[{dir}] simulator finished after " ++
            s!"{outcome.duration}")
      else
        w.log .warn
          (s!"[{dir}] simulator failed with {outcome}, " ++
            s!"see {quoted outcome.logPath.text}")

/- Simulate and analyze one tuple. -/
def runTuple
    (sweep : Sweep)
    (runner : Runner σ)
    (tuple : Tuple)
    (w : World σ) : RunReport × World σ :=
  let dir := sweep.outputDir tuple
  let (result, w) := sweep.dispatch runner tuple w
  let w := logSimulator dir result w
  match result with
  | .error e => (sweep.report tuple (.error e) [], w)
  | .ok outcome =>
      let (analyses, w) :=
        runAnalyses runner dir (sweep.stepsAfter outcome) w
      (sweep.report tuple (.ok outcome) analyses, w)

end Sweep

------------------------------------------------------------
-- Starting a Sweep
------------------------------------------------------------

/- Why a sweep did not start. -/
inductive SweepError where
  | defect (cause : SweepDefect)
  | outputRoot (path : Path) (cause : OsError)
  | prebuildLaunch (cause : OsError)
  | prebuild (outcome : Outcome) (log : Path)
  deriving DecidableEq

namespace SweepError

/- The text of an error. -/
def message : SweepError → String
  | defect cause =>
      s!"Invalid configuration: {cause.message}"
  | outputRoot path cause =>
      "Cannot create the output root " ++
        s!"{quoted path.text}: {cause}"
  | prebuildLaunch cause =>
      s!"Cannot build the simulator: {cause}"
  | prebuild outcome log =>
      s!"Building the simulator failed ({outcome}), " ++
        s!"see {quoted log.text}"

instance : ToString SweepError := ⟨message⟩

end SweepError

namespace Sweep

/- Create the directory for all results. -/
def createRoot
    (sweep : Sweep)
    (w : World σ) : Except SweepError Unit × World σ :=
  let root := sweep.outputRoot
  match w.tree.createDirectories root with
  | (.error cause, tree) =>
      (.error (.outputRoot root cause), { w with tree })
  | (.ok _, tree) => (.ok (), { w with tree })

/- Build the simulator, if this is wanted. -/
def build
    (sweep : Sweep)
    (runner : Runner σ)
    (w : World σ) : Except SweepError Unit × World σ :=
  if sweep.simulator.prebuild then
    let invocation := sweep.prebuildInvocation
    let w :=
      w.log .info s!"Building the simulator: {invocation}"
    match w.call runner invocation with
    | (.error cause, w) => (.error (.prebuildLaunch cause), w)
    | (.ok outcome, w) =>
        if outcome.succeeded then (.ok (), w)
        else
          (.error (.prebuild outcome invocation.logPath), w)
  else (.ok (), w)

/- Everything that is done before the first tuple. -/
def start
    (sweep : Sweep)
    (runner : Runner σ)
    (w : World σ) : Except SweepError Unit × World σ :=
  match sweep.defect? with
  | some cause => (.error (.defect cause), w)
  | none =>
      match sweep.createRoot w with
      | (.error e, w) => (.error e, w)
      | (.ok _, w) =>
          match sweep.build runner w with
          | (.error e, w) => (.error e, w)
          | (.ok _, w) =>
              (.ok (),
                w.log .info
                  ("Total number of simulations: " ++
                    s!"{sweep.grid.size} " ++
                    s!"({sweep.concurrency} at a time)"))

------------------------------------------------------------
-- Tuple after Tuple
------------------------------------------------------------

/- A run that keeps further ones from being started. -/
def isAborting (sweep : Sweep) (report : RunReport) : Bool :=
  sweep.onFailure = .abort && report.status.isFatal

/- Log that no further runs are started. -/
def logAbort (report : RunReport) (w : World σ) : World σ :=
  w.log .error
    ("Aborting the sweep after the failure of " ++
      report.tuple.toText)

/- Run tuples in order, or skip them once aborted. -/
def runTuples
    (sweep : Sweep)
    (runner : Runner σ)
    (aborted : Bool) :
    List Tuple → World σ → List RunReport × World σ
  | [], w => ([], w)
  | tuple :: rest, w =>
      if aborted then
        let (reports, w) := runTuples sweep runner true rest w
        (sweep.skippedReport tuple :: reports, w)
      else
        let (report, w) := sweep.runTuple runner tuple w
        let fatal := sweep.isAborting report
        let w := if fatal then logAbort report w else w
        let (reports, w) := runTuples sweep runner fatal rest w
        (report :: reports, w)

/- Log the summary of a sweep. -/
def finish
    (reports : List RunReport)
    (w : World σ) : SweepSummary × World σ :=
  let summary : SweepSummary := { reports }
  (summary, w.log .info summary.toText)

/- Run a sweep. -/
def run
    (sweep : Sweep)
    (runner : Runner σ)
    (w : World σ) : Except SweepError SweepSummary × World σ :=
  match sweep.start runner w with
  | (.error e, w) => (.error e, w)
  | (.ok _, w) =>
      let (reports, w) :=
        sweep.runTuples runner false sweep.grid.tuples w
      let (summary, w) := finish reports w
      (.ok summary, w)

end Sweep

end LatencySweep

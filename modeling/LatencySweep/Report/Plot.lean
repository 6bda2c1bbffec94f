import LatencySweep.Cdf.File
import LatencySweep.Cdf.Summary
import LatencySweep.Report.Figure
import LatencySweep.Report.Paths
import LatencySweep.Trace.Load

/-
  Making a latency report.

  The trace is read and its cohorts are summed up before
  anything is written, so a trace that is rejected leaves
  no file behind. Then the page with the figure and the
  distribution of every cohort are written.

  Key definitions include:
    * `PlotOptions`
    * `PlotError`
    * `summarize`
    * `writeReport`
    * `surveyTrace`
    * `plotTrace`
-/

namespace LatencySweep

------------------------------------------------------------
-- Options and Errors
------------------------------------------------------------

/- The trace that is plotted when none is given. -/
def defaultTrace : Path :=
  ⟨"mcptt-operational-modes-static-m2e-latency.dat"⟩

/- How to plot: whether cohorts may be empty, up to which
   latency, and whether a document is wanted as well. -/
structure PlotOptions where
  allowEmpty : Bool := false
  xMax : Binary64 := Figure.defaultXMax
  pdf : Bool := false
  deriving DecidableEq

/- Why there is no report. -/
inductive PlotError where
  | record (cause : RecordError)
  | cdf (cause : CdfError)
  | figure (path : Path) (cause : OsError)
  deriving DecidableEq

namespace PlotError

/- The text of an error. -/
def message : PlotError → String
  | record cause => cause.message
  | cdf cause => cause.message
  | figure path cause =>
      s!"Cannot write the figure {quoted path.text}: {cause}"

instance : ToString PlotError := ⟨message⟩

end PlotError

------------------------------------------------------------
-- Distributions of the Cohorts
------------------------------------------------------------

variable {σ : Type}

/- The records of a trace; those without a cohort are
   counted in the log. -/
def loadClassified
    (input : Path)
    (schema : Schema)
    (w : World σ) :
    Except RecordError (List Record) × World σ :=
  match schema.load input w with
  | (.error e, w) => (.error e, w)
  | (.ok records, w) =>
      let strays := records.countP fun r => r.IsStray
      if strays = 0 then (.ok records, w)
      else
        (.ok records,
          w.log .debug
            s!"Dropped {strays} records without a cohort")

/-
  The distributions of cohorts, with a printed summary for
  each. An empty cohort is skipped with a warning, or ends
  the report.
-/
def summarize
    (input : Path)
    (options : PlotOptions)
    (records : List Record) :
    List Cohort → World σ →
      Except CdfError (List (Cohort × Cdf)) × World σ
  | [], w => (.ok [], w)
  | cohort :: rest, w =>
      match Cdf.ofSamples? (cohort.samples records) with
      | none =>
          if options.allowEmpty then
            summarize input options records rest
              (w.log .warn
                (s!"Skipping the {cohort} cohort of {input}, " ++
                  "as it has no samples"))
          else (.error (.emptyCohort cohort), w)
      | some cdf =>
          match summarize input options records rest
              (w.print (cdf.summary cohort).toText) with
          | (.error e, w) => (.error e, w)
          | (.ok cdfs, w) => (.ok ((cohort, cdf) :: cdfs), w)

------------------------------------------------------------
-- Files of the Report
------------------------------------------------------------

variable [ChartLibrary]

/- Write the page with the figure. -/
def Figure.writePage
    (figure : Figure)
    (path : Path)
    (w : World σ) : Except PlotError Unit × World σ :=
  match w.tree.write path (Bytes.ofText figure.toPage) with
  | .error cause => (.error (.figure path cause), w)
  | .ok tree =>
      (.ok (),
        { w with tree := tree }.log .debug s!"Wrote {path}")

/- Write the distributions of cohorts. -/
def writeRaw
    (paths : ReportPaths) :
    List (Cohort × Cdf) → World σ →
      Except CdfError Unit × World σ
  | [], w => (.ok (), w)
  | (cohort, cdf) :: rest, w =>
      match cdf.save (paths.raw cohort) w.tree with
      | .error e => (.error e, w)
      | .ok tree =>
          writeRaw paths rest { w with tree := tree }

/- A document is not available; the log says so. -/
def skipPdf
    (paths : ReportPaths)
    (options : PlotOptions)
    (w : World σ) : World σ :=
  if options.pdf then
    w.log .warn
      (s!"Not writing {paths.pdf}, " ++
        "compiled without the `pdf` feature")
  else w

/- Write all files of a report. -/
def writeReport
    (paths : ReportPaths)
    (options : PlotOptions)
    (cdfs : List (Cohort × Cdf))
    (w : World σ) : Except PlotError Unit × World σ :=
  let figure : Figure := { curves := cdfs, xMax := options.xMax }
  match figure.writePage paths.html w with
  | (.error e, w) => (.error e, w)
  | (.ok _, w) =>
      match writeRaw paths cdfs (skipPdf paths options w) with
      | (.error e, w) => (.error (.cdf e), w)
      | (.ok _, w) => (.ok (), w)

------------------------------------------------------------
-- Reports
------------------------------------------------------------

/- The distributions of the cohorts of a trace. -/
def surveyTrace
    (input : Path)
    (schema : Schema)
    (options : PlotOptions)
    (w : World σ) :
    Except PlotError (List (Cohort × Cdf)) × World σ :=
  match loadClassified input schema w with
  | (.error e, w) => (.error (.record e), w)
  | (.ok records, w) =>
      match summarize input options records Cohort.all w with
      | (.error e, w) => (.error (.cdf e), w)
      | (.ok cdfs, w) => (.ok cdfs, w)

/- Report on a trace. The result are the distributions that
   were plotted. -/
def plotTrace
    (input : Path)
    (schema : Schema)
    (options : PlotOptions)
    (w : World σ) :
    Except PlotError (List (Cohort × Cdf)) × World σ :=
  match surveyTrace input schema options w with
  | (.error e, w) => (.error e, w)
  | (.ok cdfs, w) =>
      match writeReport (.ofInput input) options cdfs w with
      | (.error e, w) => (.error e, w)
      | (.ok _, w) => (.ok cdfs, w)

end LatencySweep

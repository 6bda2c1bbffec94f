import LatencySweep.CommandLine.Failure
import LatencySweep.Number.Decimal

/-
  The command that plots a trace.

  Only pages are written, so that the wish for nothing but a
  page changes nothing.

  Key definitions include:
    * `PlotSettings`
    * `plotCommand`
-/

namespace LatencySweep

------------------------------------------------------------
-- Options
------------------------------------------------------------

/- What is wanted of the command. -/
structure PlotSettings where
  file : Path := defaultTrace
  options : PlotOptions := {}
  htmlOnly : Bool := false
  deriving DecidableEq

namespace PlotSettings

/- Choose the trace. -/
def setFile? (text : String) (s : PlotSettings) :
    Option PlotSettings :=
  if text = "" then none else some { s with file := ⟨text⟩ }

/- Choose the upper bound of the latencies. -/
def setXMax? (text : String) (s : PlotSettings) :
    Option PlotSettings :=
  (Binary64.read? text.toList).map fun xMax =>
    { s with options := { s.options with xMax } }

/- Skip empty cohorts. -/
def setAllowEmpty (s : PlotSettings) : PlotSettings :=
  { s with options := { s.options with allowEmpty := true } }

/- What the command takes. -/
def form : CommandForm PlotSettings where
  program := "plot_cdf"
  options :=
    [ { name := "allow-empty", effect := .flag setAllowEmpty },
      { name := "x-max", effect := .value setXMax? },
      { name := "html-only"
        effect := .flag fun s => { s with htmlOnly := true } },
      { name := "help", letter := some 'h', effect := .help } ]
  places := [{ name := "file", set? := setFile? }]
  initial := {}

/- How the command ends because of an error. -/
def failedWith (s : PlotSettings) (e : PlotError) : CommandEnd :=
  .failed
    { context := s!"Cannot plot {s.file}", causes := e.causes }

/- Plot a trace. The given step is taken after the summaries
   are printed and before files are written. -/
def perform
    [ChartLibrary]
    {σ : Type}
    (settle : World σ → World σ)
    (s : PlotSettings)
    (w : World σ) : CommandEnd × World σ :=
  match surveyTrace s.file {} s.options w with
  | (.error e, w) => (s.failedWith e, w)
  | (.ok cdfs, w) =>
      match writeReport (.ofInput s.file) s.options cdfs
          (settle w) with
      | (.error e, w) => (s.failedWith e, w)
      | (.ok _, w) => (.done, w)

end PlotSettings

------------------------------------------------------------
-- The Command
------------------------------------------------------------

/- The command with its arguments. -/
def plotCommand
    [ChartLibrary]
    {σ : Type}
    (args : List String)
    (w : World σ) : CommandEnd × World σ :=
  PlotSettings.form.perform args (PlotSettings.perform id) w

end LatencySweep

import LatencySweep.Host.Path
import LatencySweep.Trace.Cohort

/-
  The files of a latency report.

  They lie next to the trace and are named after its stem.

  Key definitions include:
    * `ReportPaths`
    * `ReportPaths.ofInput`
    * `ReportPaths.html`
    * `ReportPaths.pdf`
    * `ReportPaths.raw`
-/

namespace LatencySweep

/- The directory of a report and the stem of its files. -/
structure ReportPaths where
  directory : Path
  stem : String
  deriving DecidableEq

namespace ReportPaths

/- The files that belong to a trace. -/
def ofInput (input : Path) : ReportPaths :=
  { directory := input.parentDir
    stem := input.fileStem?.getD "" }

/- The page with the figure. -/
def html (paths : ReportPaths) : Path :=
  paths.directory / s!"{paths.stem}-cdf.html"

/- The figure as a document. -/
def pdf (paths : ReportPaths) : Path :=
  paths.directory / s!"{paths.stem}-cdf.pdf"

/- The distribution of a cohort. -/
def raw (paths : ReportPaths) (cohort : Cohort) : Path :=
  paths.directory /
    s!"{paths.stem}-cdf_{cohort.fileSuffix}.txt"

example : (ofInput ⟨"a/t.x.dat"⟩).html = ⟨"a/t.x-cdf.html"⟩ := by
  decide +kernel
example : (ofInput ⟨"t"⟩).raw .relay = ⟨"./t-cdf_relay.txt"⟩ := by
  decide +kernel

end ReportPaths

end LatencySweep

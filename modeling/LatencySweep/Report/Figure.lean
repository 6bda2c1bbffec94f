import LatencySweep.Cdf.Basic
import LatencySweep.Json.Printer
import LatencySweep.Trace.Cohort

/-
  The figure of a latency report.

  Every cohort is one step curve with a color and a dash of
  its own, and the figure has a description in JSON. How a
  page is made of a figure is up to a charting library, of
  which no more is known.

  Key definitions include:
    * `Figure`
    * `Figure.toJson`
    * `ChartLibrary`
    * `Figure.toPage`
-/

namespace LatencySweep

/- The curves of some cohorts up to a latency in
   milliseconds. -/
structure Figure where
  curves : List (Cohort × Cdf)
  xMax : Binary64
  deriving DecidableEq

namespace Figure

/- The latency up to which curves are shown by default. -/
def defaultXMax : Binary64 :=
  Binary64.ofNat 450

------------------------------------------------------------
-- Curves
------------------------------------------------------------

/- How a curve is drawn. -/
structure Stroke where
  color : String
  dash : String

/- The stroke of a cohort. -/
def strokeOf : Cohort → Stroke
  | .onNetwork => { color := "black", dash := "solid" }
  | .offNetwork => { color := "blue", dash := "dash" }
  | .relay => { color := "green", dash := "dot" }

/- The curve of a cohort. A value is held up to the next
   one. -/
def curveJson (cohort : Cohort) (cdf : Cdf) : Json :=
  let stroke := strokeOf cohort
  .object
    [ ("type", .string "scatter"),
      ("name", .string cohort.name),
      ("mode", .string "lines"),
      ("x", .array (cdf.x.map Json.float)),
      ("y", .array (cdf.y.map Json.float)),
      ("line", .object
        [ ("color", .string stroke.color),
          ("shape", .string "hv"),
          ("dash", .string stroke.dash) ]) ]

------------------------------------------------------------
-- Layout
------------------------------------------------------------

/- The number zero. -/
def zeroJson : Json := .float (Binary64.ofNat 0)

/- The number one. -/
def oneJson : Json := .float (Binary64.ofNat 1)

/- An axis with a grid from zero up to a bound. -/
def axisJson (title : String) (bound : Json) : Json :=
  .object
    [ ("title", .object [("text", .string title)]),
      ("range", .array [zeroJson, bound]),
      ("showgrid", .bool true) ]

/- The axes, and the legend in the lower right corner. -/
def layoutJson (xMax : Binary64) : Json :=
  .object
    [ ("xaxis", axisJson "t (ms)" (.float xMax)),
      ("yaxis",
        axisJson "Probability that latency <= t" oneJson),
      ("legend", .object
        [ ("x", oneJson),
          ("xanchor", .string "right"),
          ("y", zeroJson),
          ("yanchor", .string "bottom") ]) ]

------------------------------------------------------------
-- Figures
------------------------------------------------------------

/- The description of a figure. -/
def toJson (figure : Figure) : Json :=
  .object
    [ ("data", .array
        (figure.curves.map fun c => curveJson c.1 c.2)),
      ("layout", layoutJson figure.xMax),
      ("config", .object []) ]

end Figure

------------------------------------------------------------
-- Pages
------------------------------------------------------------

/- A library that draws figures as pages. It is a parameter
   of all that writes pages. -/
class ChartLibrary where
  page : Figure → String

/- The page that shows a figure. -/
def Figure.toPage [ChartLibrary] (figure : Figure) : String :=
  ChartLibrary.page figure

/- Pages that hand the description of a figure to a plotting
   script, and nothing else. -/
@[reducible] def ChartLibrary.plain : ChartLibrary where
  page figure :=
    String.join
      [ "<!doctype html>\n<html lang=\"en\">\n<head>\n",
        "<meta charset=\"utf-8\" />\n",
        "<script src=\"plotly.min.js\"></script>\n",
        "</head>\n<body>\n<div id=\"figure\"></div>\n",
        "<script>\nPlotly.newPlot(\"figure\", ",
        figure.toJson.compact,
        ");\n</script>\n</body>\n</html>\n" ]

end LatencySweep
